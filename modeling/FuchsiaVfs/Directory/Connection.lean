import FuchsiaVfs.Flags
import FuchsiaVfs.Path

/-!
# The base directory connection

The per-connection half of `directory/connection/io1.rs`: where `handle_open` and
`handle_clone` send a new connection's server end (`OpenOutcome`), and how `ReadDirents` moves
the connection's traversal position (`handleReadDirents`). What a request does to the
directories and the token registry is in `FuchsiaVfs.Directory.System`.

The `"."` and `Clone` paths run `inheritRightsForClone`, not `checkChildConnectionFlags`; the
POSIX flags soft-fail there as on the child path, so the connection the clone creates holds no
right its parent lacks (`clone_rights_within`). `handleReadDirents` moves the position out
before `read_dirents` runs and puts a new one back only on a `Done`, so an error rewinds the
listing (`readDirents_error_rewinds`).
-/

namespace FuchsiaVfs

/-- What `handle_open` and `handle_clone` do with the server end of the requested
connection. -/
inductive OpenOutcome
  /-- `send_on_open_with_error(flags, server_end, status)`. -/
  | error (status : Status)
  /-- `Connection::create_connection(scope, self.directory, flags, mode, server_end)`: a new
  connection to this directory. -/
  | connect (flags mode : BitVec 32)
  /-- `self.directory.open(scope, flags, mode, path, server_end)`: the directory resolves
  `path`. -/
  | openPath (flags mode : BitVec 32) (path : Path)
  deriving DecidableEq, Repr

/-- `BaseConnection::handle_clone` (`io1.rs:390`): the parent's flags are `connFlags`. -/
def handleClone (connFlags flags mode : BitVec 32) : OpenOutcome :=
  match inheritRightsForClone connFlags flags with
  | .ok flags => .connect flags mode
  | .error status => .error status

/-- `BaseConnection::handle_open` (`io1.rs:408`). `check_child_connection_flags` is called
with the mode, as `common.rs:86` declares it, and the open gets the flags and mode it
returns. -/
def handleOpen (connFlags flags mode : BitVec 32) (path : String) : OpenOutcome :=
  if path == "/" || path == "" then .error .badPath
  else if path == "." || path == "./" then handleClone connFlags flags mode
  else
    match Path.validateAndSplit path with
    | .error status => .error status
    | .ok path =>
      let mode := if path.isDir then mode ||| modeTypeDirectory else mode
      match checkChildConnectionFlags connFlags flags mode with
      | .ok (flags, mode) => .openPath flags mode path
      | .error status => .error status

/-- A clone that creates a connection got its flags from `inheritRightsForClone`. -/
theorem handleClone_eq_connect {p f m f' m' : BitVec 32} (h : handleClone p f m = .connect f' m') :
    inheritRightsForClone p f = .ok f' := by
  unfold handleClone at h
  split at h <;> cases h
  assumption

/-- The flags `handleOpen` hands to a child come from `checkChildConnectionFlags`, and those
it uses for a new connection to the same directory from `inheritRightsForClone`. -/
theorem handleOpen_cases {p f m : BitVec 32} {path : String} :
    (∀ f' m' q, handleOpen p f m path = .openPath f' m' q →
      ∃ m₀, checkChildConnectionFlags p f m₀ = .ok (f', m')) ∧
    (∀ f' m', handleOpen p f m path = .connect f' m' → inheritRightsForClone p f = .ok f') := by
  unfold handleOpen
  constructor
  · intro f' m' q h
    split_ifs at h
    · unfold handleClone at h; split at h <;> cases h
    · split at h
      · cases h
      · dsimp only at h
        split at h <;> first | (cases h; exact ⟨_, ‹_›⟩) | cases h
  · intro f' m' h
    split_ifs at h
    · exact handleClone_eq_connect h
    · split at h
      · cases h
      · dsimp only at h
        split at h <;> cases h

/-! ## The mode of a trailing-slash `Open` -/

/-- A trailing-slash `Open` that is passed on carries the request's mode with the directory type
bit or-ed in, and carries `OPEN_FLAG_NOT_DIRECTORY` only with a mode whose type is not the
directory type: the mode check sees a typed mode and lets any type through but a clash. -/
theorem handleOpen_isDir_mode {p f m f' m' : BitVec 32} {path : String} {q : Path}
    (h : handleOpen p f m path = .openPath f' m' q) (hq : q.isDir = true) :
    m' = m ||| modeTypeDirectory ∧
    (f &&& openFlagNotDirectory ≠ 0 → m' &&& modeTypeMask ≠ modeTypeDirectory) := by
  unfold handleOpen at h
  split_ifs at h
  · unfold handleClone at h; split at h <;> cases h
  · split at h
    · cases h
    · dsimp only at h
      split at h
      · next hc =>
        cases h
        rw [hq, if_pos rfl] at hc
        obtain ⟨hm, -⟩ := checkChildConnectionFlags_eq_ok hc
        obtain ⟨rfl, -, hnd⟩ := checkChildMode_typed (or_modeTypeDirectory_type_ne_zero m) hm
        exact ⟨rfl, hnd⟩
      · cases h

/-- A trailing-slash `Open` does not always ask for a directory: from a readable directory
connection, `Open("a/")` with `OPEN_RIGHT_READABLE | OPEN_FLAG_NOT_DIRECTORY` and the file mode
type is passed on to the directory's `open` with `OPEN_FLAG_NOT_DIRECTORY` and the mode
`MODE_TYPE_FILE | MODE_TYPE_DIRECTORY` (`0xC000`, the socket type), not refused. -/
theorem open_trailing_slash_file_mode :
    Path.validateAndSplit "a/" = .ok ⟨["a"], true⟩ ∧
    handleOpen openRightReadable (openRightReadable ||| openFlagNotDirectory) modeTypeFile "a/" =
      .openPath (openRightReadable ||| openFlagNotDirectory) (modeTypeFile ||| modeTypeDirectory)
        ⟨["a"], true⟩ ∧
    (modeTypeFile ||| modeTypeDirectory) &&& modeTypeMask ≠ modeTypeDirectory ∧
    (openRightReadable ||| openFlagNotDirectory) &&& openFlagNotDirectory ≠ 0 := by
  have he : "a/".endsWith "/" = true := by
    simp only [String.endsWith, BEq.beq, Substring.beq, String.substrEq]
    rw [String.substrEq.loop, dif_pos (by decide)]
    dsimp only
    rw [String.substrEq.loop, dif_neg (by decide)]
    decide
  have hs : "a/".splitOn "/" = ["a", ""] := by
    rw [String.splitOn, if_neg (by decide), String.splitOnAux, if_neg (by decide), if_neg (by decide),
      String.splitOnAux, if_neg (by decide), if_pos (by decide)]
    dsimp only
    rw [if_pos (by decide), String.splitOnAux, if_pos (by decide)]
    decide
  have hv : Path.validateAndSplit "a/" = .ok ⟨["a"], true⟩ := by
    simp only [Path.validateAndSplit, he, hs, if_true]
    rfl
  refine ⟨hv, ?_, by decide, by decide⟩
  rw [handleOpen, if_neg (by decide), if_neg (by decide), hv]
  rfl

/-! ## Rights on the clone path -/

/-- Rights never escalate on `Clone` or on an `Open` of `"."`: `handleOpen` sends `"."` and `"./"`
to `handleClone`, and for every parent flag word, request flags and mode, the connection that
`newConnectionValidateFlags` creates from the flags `handleClone` passes on holds no right the
parent lacks, although it turns the POSIX flags that survive into rights. -/
theorem clone_rights_within (p f m : BitVec 32) :
    handleOpen p f m "." = handleClone p f m ∧ handleOpen p f m "./" = handleClone p f m ∧
    ∀ f' m' g, handleClone p f m = .connect f' m' → newConnectionValidateFlags f' = .ok g →
      RightsWithin g p := by
  refine ⟨by rw [handleOpen, if_neg (by decide), if_pos (by decide)],
    by rw [handleOpen, if_neg (by decide), if_pos (by decide)],
    fun _ _ _ hc => clone_validate_rightsWithin (handleClone_eq_connect hc)⟩

/-! ## The traversal position -/

/-- Modelled from the spec: the traversal position of a simple directory
(`directory/traversal_position.rs`, not under `src/`), "an opaque cursor over the last returned
name"; its default, the start of the listing, is what `Rewind` restores. -/
inductive AlphabeticalTraversal
  | start
  | name (last : String)
  | finished
  deriving DecidableEq, Repr

instance : Inhabited AlphabeticalTraversal := ⟨.start⟩

/-- What a directory's `read_dirents` seals its sink with: the `read_dirents::Done` the
connection downcasts to, or any other `dirents_sink::Sealed`. -/
inductive Sealed (Pos : Type)
  | done (pos : Pos) (status : Status) (buf : List UInt8)
  | other
  deriving DecidableEq, Repr

/-- The state a base directory connection keeps (`io1.rs:108`): its directory, the flags it
was opened or cloned with, and its traversal position. -/
structure BaseConnection (Pos : Type) where
  directory : Nat
  flags : BitVec 32
  seek : Pos
  deriving DecidableEq, Repr

variable {Pos : Type} [Inhabited Pos]

/-- `BaseConnection::handle_read_dirents` (`io1.rs:450`): the position is moved out with
`replace(&mut self.seek, Default::default())` and handed to the directory's `readDirents`; the
connection and the status and bytes of the response come back. -/
def handleReadDirents (readDirents : Pos → BitVec 64 → Except Status (Sealed Pos))
    (maxBytes : BitVec 64) (c : BaseConnection Pos) : BaseConnection Pos × Status × List UInt8 :=
  let pos := c.seek
  let c := { c with seek := default }
  match readDirents pos maxBytes with
  | .error status => (c, status, [])
  | .ok (.done pos status buf) => ({ c with seek := pos }, status, buf)
  | .ok .other => (c, .notSupported, [])

/-- The position after `ReadDirents`: the `Done`'s position, and the default one in every
other case. -/
theorem handleReadDirents_seek (readDirents : Pos → BitVec 64 → Except Status (Sealed Pos))
    (maxBytes : BitVec 64) (c : BaseConnection Pos) :
    (handleReadDirents readDirents maxBytes c).1 =
      { c with seek := match readDirents c.seek maxBytes with
        | .ok (.done pos _ _) => pos
        | _ => default } := by
  dsimp only [handleReadDirents]
  rcases readDirents c.seek maxBytes with _ | (_ | _) <;> rfl

/-- An error from `read_dirents` rewinds the listing: a connection positioned after `"b"` is
back at the start once `read_dirents` fails with `IO`. -/
theorem readDirents_error_rewinds :
    handleReadDirents (fun _ _ => .error .io) 8192 ⟨0, openRightReadable, .name "b"⟩ =
      (⟨0, openRightReadable, AlphabeticalTraversal.start⟩, .io, []) ∧
    AlphabeticalTraversal.start ≠ .name "b" :=
  ⟨rfl, nofun⟩

/-! ## A name the directory lacks -/

/-- `ImmutableConnection::entry_not_found` (`immutable/connection/io1.rs:103`): an immutable
directory creates nothing. -/
def immutableEntryNotFound {ε : Type} (flags : BitVec 32) : Except Status ε :=
  if flags &&& openFlagCreate == 0 then .error .notFound else .error .notSupported

/-- `MutableConnection::entry_not_found` (`mutable/connection/io1.rs:119`): a missing name is
created only under `OPEN_FLAG_CREATE`, of the type `NewEntryType::from_flags_and_mode` gives, by
the scope's entry constructor (its `create_entry` applied to the parent, name and path). Neither
is under `src/`; both are parameters. The directory `open` that calls it and binds the new entry
(`directory/mutable/simple.rs`) is not under `src/` and is not modelled, so in the model no
`Open` changes a name map. -/
def mutableEntryNotFound {τ ε : Type}
    (fromFlagsAndMode : BitVec 32 → BitVec 32 → Bool → Except Status τ)
    (entryConstructor : Option (τ → Except Status ε)) (flags mode : BitVec 32) (path : Path) :
    Except Status ε :=
  if flags &&& openFlagCreate == 0 then .error .notFound
  else
    match fromFlagsAndMode flags mode path.isDir with
    | .error status => .error status
    | .ok type_ =>
      match entryConstructor with
      | none => .error .notSupported
      | some createEntry => createEntry type_

end FuchsiaVfs
