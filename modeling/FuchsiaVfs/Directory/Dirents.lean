import FuchsiaVfs.Io

/-!
# The `ReadDirents` page

`encode_dirent` (`directory/common.rs:154`) appends one record to the page a `ReadDirents`
answer carries: the entry's inode as a little-endian `u64`, the name's length in one byte, the
entry's `DIRENT_TYPE_*` byte and the name's bytes. It appends nothing and answers `false` when
the record would take the page past `max_bytes` (`encodeDirent_eq`), and a name longer than
`MAX_FILENAME` that fits is a panic.

Fed any entries in order from an empty page (`encodeDirents`), with every name within
`MAX_FILENAME`, the page stays within the budget and is the accepted records one after the
other (`encodeDirents_eq`). A reader that takes the page record by record (`parseDirents`, the
client's side, which is not in this repository) gets back each accepted entry's inode, type and
name in order (`parseDirents_records`), since the name's length fits its byte and the inode
its eight bytes (`ofLeBytes_leBytes`).
-/

namespace FuchsiaVfs

/-! ## Entries -/

/-- `fuchsia.io` `DIRENT_TYPE_*`, the types `EntryInfo::new` accepts. -/
def direntTypeUnknown : UInt8 := 0
def direntTypeDirectory : UInt8 := 4
def direntTypeBlockDevice : UInt8 := 6
def direntTypeFile : UInt8 := 8
def direntTypeSocket : UInt8 := 12
def direntTypeService : UInt8 := 16

/-- `fuchsia.io` `MAX_FILENAME`, in bytes. -/
def maxFilename : Nat := 255

/-- The arms of `EntryInfo::new` that do not panic. -/
def isDirentType (type_ : UInt8) : Bool :=
  type_ == direntTypeUnknown || type_ == direntTypeDirectory || type_ == direntTypeBlockDevice ||
    type_ == direntTypeFile || type_ == direntTypeSocket || type_ == direntTypeService

/-- `EntryInfo(u64, u8)` (`directory/entry.rs:24`). Its fields are private and its only
constructor checks the type, so every value has one of the `DIRENT_TYPE_*` types. -/
structure EntryInfo where
  inode : BitVec 64
  type_ : UInt8
  valid : isDirentType type_ = true

/-- `EntryInfo::new` (`entry.rs:28`); `none` is its panic on an unexpected type. -/
def EntryInfo.new (inode : BitVec 64) (type_ : UInt8) : Option EntryInfo :=
  if h : isDirentType type_ = true then some ⟨inode, type_, h⟩ else none

/-! ## Little-endian bytes -/

/-- The `w` little-endian bytes of `n`, what `WriteBytesExt::write_u64::<LittleEndian>` writes
for `w = 8`. -/
def leBytes : Nat → Nat → List UInt8
  | 0, _ => []
  | w + 1, n => UInt8.ofNat (n % 256) :: leBytes w (n / 256)

/-- The natural with the given little-endian bytes. -/
def ofLeBytes : List UInt8 → Nat
  | [] => 0
  | b :: bs => b.toNat + 256 * ofLeBytes bs

@[simp] theorem length_leBytes (w n : Nat) : (leBytes w n).length = w := by
  induction w generalizing n with
  | zero => rfl
  | succ w ih => simp only [leBytes, List.length_cons, ih]

theorem ofLeBytes_leBytes (w n : Nat) : ofLeBytes (leBytes w n) = n % 256 ^ w := by
  induction w generalizing n with
  | zero => simp [leBytes, ofLeBytes, Nat.mod_one]
  | succ w ih =>
    have h : (UInt8.ofNat (n % 256)).toNat = n % 256 := Nat.mod_eq_of_lt (Nat.mod_lt _ (by decide))
    rw [leBytes, ofLeBytes, ih, h, pow_succ', Nat.mod_mul]

/-- An inode read back from its eight bytes is the inode. -/
theorem ofLeBytes_leBytes_toNat (n : BitVec 64) : BitVec.ofNat 64 (ofLeBytes (leBytes 8 n.toNat)) = n := by
  rw [ofLeBytes_leBytes, Nat.mod_eq_of_lt (by simpa using n.isLt)]
  simp

/-! ## The encoder -/

/-- `size_of::<u64>() + size_of::<u8>() + size_of::<u8>()`: inode, name length and type. -/
def headerSize : Nat := 8 + 1 + 1

/-- A name's bytes, `name.as_ref()`; there are `name.len()` of them (`String.size_toUTF8`). -/
def nameBytes (name : String) : List UInt8 := name.toUTF8.data.toList

/-- `encode_dirent(buf, max_bytes, entry, name)` (`common.rs:154`): the buffer after the call
and its answer; `none` is a failed `assert!`. The sum is taken in `Nat`: a `Vec` holds at most
`isize::MAX` bytes, so the `usize` sum does not wrap. -/
def encodeDirent (buf : List UInt8) (maxBytes : BitVec 64) (entry : EntryInfo) (name : String) :
    Option (List UInt8 × Bool) :=
  if buf.length + headerSize + name.utf8ByteSize > maxBytes.toNat then some (buf, false)
  else if ¬name.utf8ByteSize ≤ maxFilename then none
  else if ¬maxFilename ≤ 255 then none
  else some (buf ++ leBytes 8 entry.inode.toNat ++ [UInt8.ofNat name.utf8ByteSize] ++ [entry.type_] ++
    nameBytes name, true)

/-- The record `encode_dirent` appends for an entry. -/
def direntRecord (entry : EntryInfo) (name : String) : List UInt8 :=
  leBytes 8 entry.inode.toNat ++ UInt8.ofNat name.utf8ByteSize :: entry.type_ :: nameBytes name

@[simp] theorem length_nameBytes (name : String) : (nameBytes name).length = name.utf8ByteSize :=
  name.size_toUTF8

@[simp] theorem length_direntRecord (entry : EntryInfo) (name : String) :
    (direntRecord entry name).length = headerSize + name.utf8ByteSize := by
  simp [direntRecord, headerSize]
  omega

/-- A call with a name within `MAX_FILENAME` appends the entry's record and answers `true`
exactly when the page stays within `max_bytes`; otherwise it answers `false` and leaves the
buffer as it was. -/
theorem encodeDirent_eq (buf : List UInt8) (maxBytes : BitVec 64) (entry : EntryInfo)
    {name : String} (h : name.utf8ByteSize ≤ maxFilename) :
    encodeDirent buf maxBytes entry name =
      if buf.length + headerSize + name.utf8ByteSize ≤ maxBytes.toNat then
        some (buf ++ direntRecord entry name, true)
      else some (buf, false) := by
  have hmax : maxFilename ≤ 255 := le_rfl
  unfold encodeDirent
  split_ifs <;> first | omega | simp [direntRecord]

/-! ## Feeding a page -/

/-- Feeding `entries` in order to `encode_dirent` from `buf`, as a `ReadDirents` sink does: the
final buffer and each call's answer; `none` if a call panics. -/
def encodeDirents (maxBytes : BitVec 64) :
    List UInt8 → List (EntryInfo × String) → Option (List UInt8 × List Bool)
  | buf, [] => some (buf, [])
  | buf, (entry, name) :: rest =>
    match encodeDirent buf maxBytes entry name with
    | none => none
    | some (buf, ok) => (encodeDirents maxBytes buf rest).map fun (buf, oks) => (buf, ok :: oks)

/-- The entries whose call answered `true`, in order. -/
def acceptedOf (entries : List (EntryInfo × String)) (oks : List Bool) : List (EntryInfo × String) :=
  ((entries.zip oks).filter (·.2)).map Prod.fst

@[simp] theorem acceptedOf_cons (p : EntryInfo × String) (entries : List (EntryInfo × String))
    (ok : Bool) (oks : List Bool) :
    acceptedOf (p :: entries) (ok :: oks) = if ok then p :: acceptedOf entries oks else acceptedOf entries oks := by
  cases ok <;> simp [acceptedOf]

theorem mem_of_mem_acceptedOf {entries : List (EntryInfo × String)} {oks : List Bool}
    {p : EntryInfo × String} (h : p ∈ acceptedOf entries oks) : p ∈ entries := by
  obtain ⟨⟨q, ok⟩, hq, rfl⟩ := List.mem_map.1 h
  exact List.of_mem_zip (List.mem_filter.1 hq).1 |>.1

/-- The page after feeding `entries` from `buf`: the accepted records one after the other, within
the budget if `buf` was. -/
theorem encodeDirents_eq (maxBytes : BitVec 64) {entries : List (EntryInfo × String)}
    (h : ∀ p ∈ entries, p.2.utf8ByteSize ≤ maxFilename) (buf : List UInt8) :
    ∃ oks, oks.length = entries.length ∧
      encodeDirents maxBytes buf entries =
        some (buf ++ ((acceptedOf entries oks).map fun p => direntRecord p.1 p.2).flatten, oks) ∧
      (buf.length ≤ maxBytes.toNat →
        (buf ++ ((acceptedOf entries oks).map fun p => direntRecord p.1 p.2).flatten).length ≤
          maxBytes.toNat) := by
  induction entries generalizing buf with
  | nil => exact ⟨[], rfl, by simp [encodeDirents, acceptedOf], fun hb => by simpa [acceptedOf] using hb⟩
  | cons p rest ih =>
    obtain ⟨entry, name⟩ := p
    have hrest : ∀ p ∈ rest, p.2.utf8ByteSize ≤ maxFilename := fun p hp => h p (.tail _ hp)
    have hstep := encodeDirent_eq buf maxBytes entry (h _ (.head _))
    by_cases hfit : buf.length + headerSize + name.utf8ByteSize ≤ maxBytes.toNat
    · obtain ⟨oks, hlen, hrun, hle⟩ := ih hrest (buf ++ direntRecord entry name)
      refine ⟨true :: oks, by simp [hlen], ?_, fun _ => ?_⟩
      · simp [encodeDirents, hstep, hfit, hrun]
      · have hb : (buf ++ direntRecord entry name).length ≤ maxBytes.toNat := by simp; omega
        simpa using hle hb
    · obtain ⟨oks, hlen, hrun, hle⟩ := ih hrest buf
      exact ⟨false :: oks, by simp [hlen], by simp [encodeDirents, hstep, hfit, hrun], by simpa using hle⟩

/-! ## Reading a page -/

/-- What a reader sees of an entry: its inode, its type and its name's bytes. -/
def direntOf (entry : EntryInfo) (name : String) : BitVec 64 × UInt8 × List UInt8 :=
  (entry.inode, entry.type_, nameBytes name)

/-- A page read record by record as `{inode: u64 little-endian, name_len: u8, dirent_type: u8,
name: name_len bytes}`; `none` if a record is cut short. -/
def parseDirents : List UInt8 → Option (List (BitVec 64 × UInt8 × List UInt8))
  | [] => some []
  | b0 :: b1 :: b2 :: b3 :: b4 :: b5 :: b6 :: b7 :: nameLen :: type_ :: rest =>
    if nameLen.toNat ≤ rest.length then
      (parseDirents (rest.drop nameLen.toNat)).map fun ds =>
        (BitVec.ofNat 64 (ofLeBytes [b0, b1, b2, b3, b4, b5, b6, b7]), type_, rest.take nameLen.toNat) :: ds
    else none
  | _ => none
termination_by buf => buf.length
decreasing_by simp only [List.length_drop, List.length_cons]; omega

/-- The reader takes one record off the front of a page. -/
theorem parseDirents_record (entry : EntryInfo) {name : String} (h : name.utf8ByteSize ≤ maxFilename)
    (rest : List UInt8) :
    parseDirents (direntRecord entry name ++ rest) =
      (parseDirents rest).map (direntOf entry name :: ·) := by
  have hlen : (UInt8.ofNat name.utf8ByteSize).toNat = (nameBytes name).length := by
    simp only [length_nameBytes]
    exact Nat.mod_eq_of_lt (by unfold maxFilename at h; omega)
  have hinode := ofLeBytes_leBytes_toNat entry.inode
  simp only [direntRecord, leBytes, List.cons_append, List.nil_append] at hinode ⊢
  rw [parseDirents, if_pos (by simp [hlen]), hlen, List.take_left, List.drop_left, hinode]
  rfl

/-- The page of the accepted records reads back as their entries, in order. -/
theorem parseDirents_records {ps : List (EntryInfo × String)}
    (h : ∀ p ∈ ps, p.2.utf8ByteSize ≤ maxFilename) :
    parseDirents (ps.map fun p => direntRecord p.1 p.2).flatten = some (ps.map fun p => direntOf p.1 p.2) := by
  induction ps with
  | nil => simp [parseDirents]
  | cons p ps ih =>
    rw [List.map_cons, List.flatten_cons, parseDirents_record _ (h p (.head _)),
      ih fun q hq => h q (.tail _ hq)]
    rfl

/-- `encode_dirent` keeps to its budget and round-trips through the record format: for every
`max_bytes` and every list of entries whose names are at most `MAX_FILENAME` bytes, each call
answers `true` exactly when the buffer's length plus the ten header bytes plus the name's length
is within `max_bytes` and otherwise leaves the buffer as it was, and the page fed from an empty
buffer is within `max_bytes` and reads back, record by record, as the inode, type and name of the
accepted entries, in order. -/
theorem encodeDirent_round_trip (maxBytes : BitVec 64) (entries : List (EntryInfo × String))
    (h : ∀ p ∈ entries, p.2.utf8ByteSize ≤ maxFilename) :
    (∀ buf, ∀ p ∈ entries, encodeDirent buf maxBytes p.1 p.2 =
      if buf.length + headerSize + p.2.utf8ByteSize ≤ maxBytes.toNat then
        some (buf ++ direntRecord p.1 p.2, true)
      else some (buf, false)) ∧
    ∃ buf oks, encodeDirents maxBytes [] entries = some (buf, oks) ∧ oks.length = entries.length ∧
      buf.length ≤ maxBytes.toNat ∧
      parseDirents buf = some ((acceptedOf entries oks).map fun p => direntOf p.1 p.2) := by
  refine ⟨fun buf p hp => encodeDirent_eq buf maxBytes p.1 (h p hp), ?_⟩
  obtain ⟨oks, hlen, hrun, hle⟩ := encodeDirents_eq maxBytes h []
  refine ⟨_, oks, hrun, hlen, hle (Nat.zero_le _), ?_⟩
  rw [List.nil_append, parseDirents_records fun p hp => h p (mem_of_mem_acceptedOf hp)]

/-- `encodeDirent_round_trip` on a budget of eleven bytes: the first one-letter entry fills it. -/
theorem encodeDirent_round_trip_eleven :
    let entries : List (EntryInfo × String) :=
      [(⟨1, direntTypeFile, rfl⟩, "a"), (⟨2, direntTypeDirectory, rfl⟩, "b")]
    (∀ p ∈ entries, p.2.utf8ByteSize ≤ maxFilename) ∧
    ((∀ buf, ∀ p ∈ entries, encodeDirent buf 11 p.1 p.2 =
      if buf.length + headerSize + p.2.utf8ByteSize ≤ (11 : BitVec 64).toNat then
        some (buf ++ direntRecord p.1 p.2, true)
      else some (buf, false)) ∧
    ∃ buf oks, encodeDirents 11 [] entries = some (buf, oks) ∧ oks.length = entries.length ∧
      buf.length ≤ (11 : BitVec 64).toNat ∧
      parseDirents buf = some ((acceptedOf entries oks).map fun p => direntOf p.1 p.2)) :=
  ⟨by decide, encodeDirent_round_trip _ _ (by decide)⟩

end FuchsiaVfs
