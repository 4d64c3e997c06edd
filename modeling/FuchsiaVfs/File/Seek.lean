import FuchsiaVfs.File.Connection

/-!
# Seek arithmetic

`handle_seek` computes the target in `i128`, refuses a negative one and stores any other as
`new_seek as u64`, its low 64 bits (`handleSeek_seek`). A target the `u64` seek can hold is stored
exactly (`handleSeek_exact`); a target above `u64::MAX` is not refused but wraps
(`handleSeek_wraps`), and three seeks from a new connection reach one (`seek_past_u64_wraps`).
`Read` moves the seek by the count read in `u64` arithmetic (`readReply_seek`). A request the
connection refuses, with any status other than `OK`, leaves the seek and the flags as they were
(`refused_keeps_cursor`).

Read and Write make the random-access file a stream. Take any run of `Read` and `Write`
requests on a connection whose flags permit them (`Write` outside append mode) and that the
file answers. The loop makes the calls a client reading and writing sequentially expects
(`streamCalls`): each access lands where the previous one ended, and the seek ends where the
last one did (`handleRequests_stream`).
-/

namespace FuchsiaVfs

namespace FileConnection

section
variable {ans : FileAnswers} {c : FileConnection}

/-- The seek `handle_seek` leaves: unchanged on a node-reference connection or for a negative
target, otherwise the target's low 64 bits. -/
theorem handleSeek_seek (offset : BitVec 64) (origin : SeekOrigin) :
    (handleSeek ans c offset origin).2.1.seek =
      if c.flags &&& openFlagNodeReference ≠ 0 ∨ (seekTarget ans c offset origin).2.1 < 0 then c.seek
      else BitVec.ofInt 64 (seekTarget ans c offset origin).2.1 := by
  unfold handleSeek
  by_cases hn : c.flags &&& openFlagNodeReference = 0
  · have hn' : (c.flags &&& openFlagNodeReference != 0) = false := by simpa using hn
    simp only [hn', Bool.false_eq_true, if_false]
    simp only [hn, ne_eq, not_true_eq_false, false_or]
    split_ifs <;> rfl
  · have hn' : (c.flags &&& openFlagNodeReference != 0) = true := by simpa using hn
    simp only [hn', hn, if_true, ne_eq, not_false_eq_true, true_or]

/-- Every target lies below `2^64 + 2^63`: a `u64` base plus an `i64` offset. -/
theorem seekTarget_lt (offset : BitVec 64) (origin : SeekOrigin) :
    (seekTarget ans c offset origin).2.1 < 2 ^ 64 + 2 ^ 63 := by
  have ho : offset.toInt < 2 ^ 63 := by
    have := offset.isLt
    rw [BitVec.toInt_eq_toNat_cond]
    split <;> omega
  have hs : (c.seek.toNat : Int) < 2 ^ 64 := by exact_mod_cast c.seek.isLt
  unfold seekTarget
  split
  · dsimp only; omega
  · dsimp only; omega
  · split
    · next size _ =>
      have : (size.toNat : Int) < 2 ^ 64 := by exact_mod_cast size.isLt
      dsimp only; omega
    · dsimp only; omega

/-- A target the seek can hold is stored exactly. -/
theorem handleSeek_exact {offset : BitVec 64} {origin : SeekOrigin}
    (hn : c.flags &&& openFlagNodeReference = 0) (h0 : 0 ≤ (seekTarget ans c offset origin).2.1)
    (h1 : (seekTarget ans c offset origin).2.1 < 2 ^ 64) :
    ((handleSeek ans c offset origin).2.1.seek.toNat : Int) = (seekTarget ans c offset origin).2.1 := by
  have hmod : (seekTarget ans c offset origin).2.1 % ((2 ^ 64 : Nat) : Int) =
      (seekTarget ans c offset origin).2.1 := by push_cast; omega
  rw [handleSeek_seek, if_neg (by simp [hn, -openFlagNodeReference_eq]; omega),
    BitVec.toNat_ofInt, hmod, Int.toNat_of_nonneg h0]

/-- A target above `u64::MAX` is not refused: its low 64 bits are stored, `2^64` below it. -/
theorem handleSeek_wraps {offset : BitVec 64} {origin : SeekOrigin}
    (hn : c.flags &&& openFlagNodeReference = 0) (h : 2 ^ 64 ≤ (seekTarget ans c offset origin).2.1) :
    ((handleSeek ans c offset origin).2.1.seek.toNat : Int) =
      (seekTarget ans c offset origin).2.1 - 2 ^ 64 := by
  have hlt : (seekTarget ans c offset origin).2.1 < 2 ^ 64 + 2 ^ 63 := seekTarget_lt offset origin
  have hmod : (seekTarget ans c offset origin).2.1 % ((2 ^ 64 : Nat) : Int) =
      (seekTarget ans c offset origin).2.1 - 2 ^ 64 := by push_cast; omega
  rw [handleSeek_seek, if_neg (by simp [hn, -openFlagNodeReference_eq]; omega),
    BitVec.toNat_ofInt, hmod, Int.toNat_of_nonneg (by omega)]

/-- A delivered `Seek` to a target that is not negative answers the target's low 64 bits with
the status of the target's computation, and stores them. -/
theorem handleRequest_seek {env : FileEnv} (origin : SeekOrigin) (offset : BitVec 64)
    (hd : ans.delivered = true) (hn : c.flags &&& openFlagNodeReference = 0)
    (ht : 0 ≤ (seekTarget ans c offset origin).2.1) :
    handleRequest env ans c (.seek origin offset) =
      .outcome ⟨{ c with seek := BitVec.ofInt 64 (seekTarget ans c offset origin).2.1 },
        (seekTarget ans c offset origin).2.2,
        some (.seek (seekTarget ans c offset origin).1
          (BitVec.ofInt 64 (seekTarget ans c offset origin).2.1)), .alive⟩ := by
  have hn' : (c.flags &&& openFlagNodeReference != 0) = false := by simpa using hn
  simp only [handleRequest, handleSeek, FileAnswers.reply, hn', hd, if_neg (not_lt.2 ht)]
  rfl

/-- `Read` moves the seek by the count read, in `u64` arithmetic, when it is delivered. -/
theorem readReply_seek {count n : BitVec 64} (hr : c.flags &&& openRightReadable ≠ 0)
    (hc : ¬maxBuf < count) (hn : ans.readAt = .ok n) (hle : n ≤ count) (hd : ans.delivered = true) :
    readReply ans c c.seek count true =
      .outcome ⟨{ c with seek := c.seek + n }, [.readAt c.seek count], some (.read .ok n), .alive⟩ := by
  have hr' : ¬c.flags &&& openRightReadable = 0#32 := hr
  have : ¬count < n := by simpa [BitVec.le_def, BitVec.lt_def] using hle
  simp [readReply, handleReadAt, hr', hc, hn, hd, this, -openRightReadable_eq]

end

/-- Seek arithmetic wraps past `u64::MAX`: on a new readable connection, `Seek(Start, i64::MAX)`
and `Seek(Current, i64::MAX)` leave the seek at `2^64 - 2`, and `Seek(Current, 2)`, whose exact
target `2^64` the seek cannot hold, answers `OK` and stores `0`. -/
theorem seek_past_u64_wraps (env : FileEnv) (ans : FileAnswers) (hd : ans.delivered = true) :
    let i64Max : BitVec 64 := 0x7FFFFFFFFFFFFFFF
    let c := (handleRequests env ⟨⟨false⟩, openRightReadable, 0⟩
      [(.seek .start i64Max, ans), (.seek .current i64Max, ans)]).1
    c.seek.toNat = 2 ^ 64 - 2 ∧ (seekTarget ans c 2 .current).2.1 = 2 ^ 64 ∧
    handleRequest env ans c (.seek .current 2) =
      .outcome ⟨{ c with seek := 0 }, [], some (.seek .ok 0), .alive⟩ := by
  intro i64Max c
  have hn : openRightReadable &&& openFlagNodeReference = 0 := by decide
  have hc : c = ⟨⟨false⟩, openRightReadable, 0xFFFFFFFFFFFFFFFE⟩ := by
    show (handleRequests env _ _).1 = _
    rw [handleRequests, handleRequest_seek .start i64Max hd hn
      (show 0 ≤ i64Max.toInt by decide)]
    simp only [seekTarget]
    rw [handleRequests, handleRequest_seek (c := ⟨⟨false⟩, openRightReadable, BitVec.ofInt 64 i64Max.toInt⟩)
      .current i64Max hd hn
      (show 0 ≤ ((BitVec.ofInt 64 i64Max.toInt).toNat : Int) + i64Max.toInt by decide)]
    simp only [seekTarget, handleRequests]
    decide
  rw [hc]
  simp only [seekTarget]
  refine ⟨by decide, by decide, ?_⟩
  rw [handleRequest_seek (c := ⟨⟨false⟩, openRightReadable, 0xFFFFFFFFFFFFFFFE⟩) .current 2 hd hn
    (show 0 ≤ ((0xFFFFFFFFFFFFFFFE : BitVec 64).toNat : Int) + (2 : BitVec 64).toInt by decide)]
  simp only [seekTarget]
  decide

/-- `seek_past_u64_wraps` for a backing file that answers every call with `OK`. -/
theorem seek_past_u64_wraps_ok :
    let env : FileEnv := ⟨.ok, fun _ _ => .ok (), 0⟩
    let ans : FileAnswers := ⟨.ok 0, .ok 0, .ok (0, 0), .ok (), .ok (), .ok 0, .ok (), .ok (), .ok (),
      .ok (), .ok (), .ok (), true⟩
    ans.delivered = true ∧
    let i64Max : BitVec 64 := 0x7FFFFFFFFFFFFFFF
    let c := (handleRequests env ⟨⟨false⟩, openRightReadable, 0⟩
      [(.seek .start i64Max, ans), (.seek .current i64Max, ans)]).1
    c.seek.toNat = 2 ^ 64 - 2 ∧ (seekTarget ans c 2 .current).2.1 = 2 ^ 64 ∧
    handleRequest env ans c (.seek .current 2) =
      .outcome ⟨{ c with seek := 0 }, [], some (.seek .ok 0), .alive⟩ :=
  ⟨rfl, seek_past_u64_wraps _ _ rfl⟩

/-! ## Sequential access -/

/-- One access of a client that reads and writes a file as a stream: a read of `count` bytes
that returns `n` of them, or a write of `data` of which `n` bytes are written. -/
inductive Access
  | read (count n : BitVec 64)
  | write (data : List UInt8) (n : BitVec 64)
  deriving DecidableEq, Repr

/-- The bytes an access moves. -/
def Access.transferred : Access → BitVec 64
  | .read _ n | .write _ n => n

/-- The call an access at `pos` makes on the file. -/
def Access.call (pos : BitVec 64) : Access → FileOperation
  | .read count _ => .readAt pos count
  | .write data _ => .writeAt pos data

/-- The calls a stream client expects on the file from position `pos`, and where it ends: each
access at the position where the previous one ended. -/
def streamCalls : BitVec 64 → List Access → List FileOperation × BitVec 64
  | pos, [] => ([], pos)
  | pos, a :: rest =>
    let r := streamCalls (pos + a.transferred) rest
    (a.call pos :: r.1, r.2)

/-- A request and its answers carry out an access: a `Read` of at most `MAX_BUF` bytes that the
file answers with at most that many, or a `Write` the file answers with the count written, each
in either of its two forms, with the response delivered. -/
def Access.ServedBy : Access → FileRequest × FileAnswers → Prop
  | .read count n, (req, ans) => (req = .read count ∨ req = .readDeprecated count) ∧
      ¬maxBuf < count ∧ ans.readAt = .ok n ∧ n ≤ count ∧ ans.delivered = true
  | .write data n, (req, ans) => (req = .write data ∨ req = .writeDeprecated data) ∧
      ans.writeAt = .ok n ∧ ans.delivered = true

/-- What an access needs of the connection's flags: `OPEN_RIGHT_READABLE` to read, and
`OPEN_RIGHT_WRITABLE` without `OPEN_FLAG_APPEND` to write at the seek. -/
def Access.Permitted (flags : BitVec 32) : Access → Prop
  | .read _ _ => flags &&& openRightReadable ≠ 0
  | .write _ _ => flags &&& openRightWritable ≠ 0 ∧ flags &&& openFlagAppend = 0

/-- One access: the call at the seek, and the seek moved by the bytes transferred. -/
theorem handleRequest_access (env : FileEnv) {c : FileConnection} {a : Access}
    {q : FileRequest × FileAnswers} (hp : a.Permitted c.flags) (hs : a.ServedBy q) :
    ∃ resp, handleRequest env q.2 c q.1 =
      .outcome ⟨{ c with seek := c.seek + a.transferred }, [a.call c.seek], some resp, .alive⟩ := by
  obtain ⟨req, ans⟩ := q
  cases a with
  | read count n =>
    obtain ⟨hreq, hc, hn, hle, hd⟩ := hs
    have h := readReply_seek hp hc hn hle hd
    rcases hreq with rfl | rfl <;> exact ⟨_, by simp only [handleRequest]; exact h⟩
  | write data n =>
    obtain ⟨hreq, hn, hd⟩ := hs
    obtain ⟨hw, ha⟩ := hp
    have hw' : ¬c.flags &&& openRightWritable = 0#32 := hw
    have ha' : c.flags &&& openFlagAppend = 0#32 := ha
    rcases hreq with rfl | rfl <;>
      exact ⟨.write .ok n, by simp [handleRequest, handleWrite, handleWriteAt, FileAnswers.reply, hw', ha',
        hn, hd, Access.transferred, Access.call, -openRightWritable_eq, -openFlagAppend_eq]⟩

/-- Read and Write make the file a stream: on a connection whose flags permit every access, a
run of `Read` and `Write` requests that the file answers makes exactly the calls a sequential
client expects, each at the position where the previous access ended, and leaves the seek where
the last one ended, with the loop waiting for the next request. -/
theorem handleRequests_stream (env : FileEnv) (c : FileConnection) (accs : List Access)
    (reqs : List (FileRequest × FileAnswers)) (hp : ∀ a ∈ accs, a.Permitted c.flags)
    (hs : List.Forall₂ Access.ServedBy accs reqs) :
    handleRequests env c reqs =
      ({ c with seek := (streamCalls c.seek accs).2 }, (streamCalls c.seek accs).1, .noRequest) := by
  induction hs generalizing c with
  | nil => rfl
  | @cons a q accs reqs hq _ ih =>
    obtain ⟨resp, h⟩ := handleRequest_access env (hp a (.head _)) hq
    obtain ⟨req, ans⟩ := q
    rw [handleRequests, h]
    dsimp only
    rw [ih { c with seek := c.seek + a.transferred } fun a' ha' => hp a' (.tail _ ha')]
    rfl

/-- `handleRequests_stream` on a readable and writable connection that writes three bytes and then
asks to read eight, of which the file returns five. -/
theorem handleRequests_stream_write_read :
    let env : FileEnv := ⟨.ok, fun _ _ => .ok (), 0⟩
    let ok : FileAnswers := ⟨.ok 0, .ok 0, .ok (0, 0), .ok (), .ok (), .ok 0, .ok (), .ok (), .ok (),
      .ok (), .ok (), .ok (), true⟩
    let c : FileConnection := ⟨⟨false⟩, openRightReadable ||| openRightWritable, 0⟩
    let accs := [Access.write [1, 2, 3] 3, Access.read 8 5]
    let reqs := [(FileRequest.write [1, 2, 3], { ok with writeAt := .ok 3 }),
      (FileRequest.read 8, { ok with readAt := .ok 5 })]
    (∀ a ∈ accs, a.Permitted c.flags) ∧ List.Forall₂ Access.ServedBy accs reqs ∧
    handleRequests env c reqs =
      ({ c with seek := (streamCalls c.seek accs).2 }, (streamCalls c.seek accs).1, .noRequest) := by
  intro env ok c accs reqs
  have hp : ∀ a ∈ accs, a.Permitted c.flags := by
    intro a ha
    simp only [accs, List.mem_cons, List.mem_singleton, List.not_mem_nil, or_false] at ha
    rcases ha with rfl | rfl
    · exact ⟨by decide, by decide⟩
    · show (openRightReadable ||| openRightWritable) &&& openRightReadable ≠ 0
      decide
  have hs : List.Forall₂ Access.ServedBy accs reqs :=
    .cons ⟨.inl rfl, rfl, rfl⟩ (.cons ⟨.inl rfl, by decide, rfl, by decide, rfl⟩ .nil)
  exact ⟨hp, hs, handleRequests_stream env c accs reqs hp hs⟩

/-! ## A refused request leaves the cursor -/

end FileConnection

/-- The status a response reports, if it reports one. -/
def FileResponse.status? : FileResponse → Option Status
  | .status s | .read s _ | .write s _ | .seek s _ | .attrs s | .flags s _ | .buffer s => some s
  | .describe | .onOpen _ => none

namespace FileConnection

section
variable {ans : FileAnswers} {c : FileConnection}

/-- A reply keeps the connection it is given, and reports its response's status if delivered. -/
theorem reply_refused {c' : FileConnection} {ops : List FileOperation} {resp : FileResponse}
    {o : FileOutcome} {s : Status} (h : ans.reply c' ops resp = .outcome o)
    (hr : o.response.bind FileResponse.status? = some s) : o.conn = c' ∧ resp.status? = some s := by
  unfold FileAnswers.reply at h
  split at h <;> cases h
  · exact ⟨rfl, hr⟩
  · cases hr

/-- A target computed with a status other than `OK` is the current seek: `End` when the file's
size is unknown. -/
theorem seekTarget_refused {offset : BitVec 64} {origin : SeekOrigin}
    (h : (seekTarget ans c offset origin).1 ≠ .ok) :
    (seekTarget ans c offset origin).2.1 = c.seek.toNat := by
  cases origin with
  | start | current => exact absurd rfl h
  | «end» =>
    cases hg : ans.getSize with
    | ok size => simp [seekTarget, hg] at h
    | error e => simp [seekTarget, hg]

theorem handleSeek_refused {offset : BitVec 64} {origin : SeekOrigin}
    (h : (handleSeek ans c offset origin).1.1 ≠ .ok) : (handleSeek ans c offset origin).2.1 = c := by
  unfold handleSeek at *
  dsimp only at h ⊢
  split_ifs at h ⊢ with hn hneg
  · rfl
  · rfl
  · rw [seekTarget_refused h, BitVec.ofInt_natCast, BitVec.ofNat_toNat, BitVec.setWidth_eq]

theorem handleWrite_refused {content : List UInt8} (h : (handleWrite ans c content).1.1 ≠ .ok) :
    (handleWrite ans c content).2.1 = c := by
  unfold handleWrite handleWriteAt at *
  split_ifs at h ⊢
  · rfl
  · cases happ : ans.append with
    | ok p => simp [happ] at h
    | error e => simp [happ]
  · cases hw : ans.writeAt with
    | ok n => simp [hw] at h
    | error e => simp [hw]

/-- A refused request leaves the cursor and the flags: every request whose response reports a
status other than `OK` leaves the connection's seek and flags as they were. -/
theorem refused_keeps_cursor (env : FileEnv) (req : FileRequest) {o : FileOutcome}
    (h : handleRequest env ans c req = .outcome o) {s : Status}
    (hr : o.response.bind FileResponse.status? = some s) (hs : s ≠ .ok) :
    o.conn.seek = c.seek ∧ o.conn.flags = c.flags := by
  -- a reply keeps the connection it is given; whether that is `c` may depend on the status
  have hkeep {c' : FileConnection} {ops : List FileOperation} {resp : FileResponse}
      (h' : ans.reply c' ops resp = .outcome o) (hc : resp.status? = some s → c' = c) :
      o.conn.seek = c.seek ∧ o.conn.flags = c.flags := by
    obtain ⟨hc', hst⟩ := reply_refused h' hr
    rw [hc', hc hst]
    exact ⟨rfl, rfl⟩
  cases req with
  | clone _ | closeDeprecated =>
    cases h
    exact ⟨rfl, rfl⟩
  | close =>
    simp only [handleRequest] at h
    split at h <;> cases h <;> exact ⟨rfl, rfl⟩
  | describe =>
    simp only [handleRequest] at h
    split at h
    · cases h
      exact ⟨rfl, rfl⟩
    · exact hkeep h fun _ => rfl
  | readDeprecated _ | read _ | readAtDeprecated _ _ | readAt _ _ =>
    simp only [handleRequest, readReply] at h
    split at h
    · exact hkeep h fun _ => rfl
    · split_ifs at h
      all_goals first
        | exact hkeep h fun _ => rfl
        | (cases h; done)
        | (cases h; exact absurd (Option.some.inj hr).symm hs)
  | writeDeprecated data | write data =>
    simp only [handleRequest] at h
    exact hkeep h fun hst => handleWrite_refused ((Option.some.inj hst).trans_ne hs)
  | seekDeprecated offset origin | seek origin offset =>
    simp only [handleRequest] at h
    exact hkeep h fun hst => handleSeek_refused ((Option.some.inj hst).trans_ne hs)
  | setFlags _ | setFlagsDeprecatedUseNode _ =>
    simp only [handleRequest] at h
    exact hkeep h fun hst => absurd (Option.some.inj hst).symm hs
  | _ =>
    simp only [handleRequest] at h
    exact hkeep h fun _ => rfl

end

/-- `refused_keeps_cursor` at a `Seek(End, 3)` whose size query fails with `IO`: the seek stays
at 5. -/
theorem refused_keeps_cursor_seek_end :
    let env : FileEnv := ⟨.ok, fun _ _ => .ok (), 0⟩
    let ans : FileAnswers := ⟨.ok 0, .ok 0, .ok (0, 0), .ok (), .ok (), .error .io, .ok (), .ok (),
      .ok (), .ok (), .ok (), .ok (), true⟩
    let c : FileConnection := ⟨⟨false⟩, openRightReadable, 5⟩
    let o : FileOutcome := ⟨c, [.getSize], some (.seek .io 5), .alive⟩
    handleRequest env ans c (.seek .end 3) = .outcome o ∧
      o.response.bind FileResponse.status? = some .io ∧ Status.io ≠ .ok ∧
      o.conn.seek = c.seek ∧ o.conn.flags = c.flags := by
  intro env ans c o
  have h : handleRequest env ans c (.seek .end 3) = .outcome o := by decide
  exact ⟨h, rfl, nofun, refused_keeps_cursor env (.seek .end 3) h rfl nofun⟩

end FileConnection

end FuchsiaVfs
