import FuchsiaVfs.File.Connection

/-!
# Opening and closing the backing file

`create_connection_async` wraps the file in an `OpenFile` before it validates the flags, and the
wrapper closes the file when it is dropped unless it was closed through it. Only `Close` and
`CloseDeprecated` close through it, and both end the request loop. So a file that is still open
stays so until the request that ends the loop, which closes it at most once and as its last call
(`handleRequest_closesOnce`, `handleRequests_closesOnce`), and over a whole connection that does
not panic, the backing file's `close` is the last call and is made exactly once
(`close_invoked_once`), also when the connection is never created: a refused flag word or a
failed `File::open` still closes the file (`close_without_open`).
-/

namespace FuchsiaVfs

/-- What serving one request does with a file still open: it stays open with no `close`, or the
request ends the loop with the file closed by one `close`, its only call. -/
def Served.ClosesOnce : Served → Prop
  | .outcome o => (o.conn.file.closed = false ∧ FileOperation.close ∉ o.ops) ∨
      (o.state ≠ .alive ∧ o.conn.file.closed = true ∧ o.ops = [.close])
  | .panic ops => FileOperation.close ∉ ops

/-- Calls made, `close` the last of them and the only one. -/
def ClosedOnce (ops : List FileOperation) : Prop :=
  ∃ pre, ops = pre ++ [.close] ∧ FileOperation.close ∉ pre

theorem closedOnce_append {ops ops' : List FileOperation} (h : FileOperation.close ∉ ops)
    (h' : ClosedOnce ops') : ClosedOnce (ops ++ ops') := by
  obtain ⟨pre, rfl, hpre⟩ := h'
  exact ⟨ops ++ pre, by simp, by simp [h, hpre]⟩

theorem closedOnce_close {ops : List FileOperation} (h : FileOperation.close ∉ ops) :
    ClosedOnce (ops ++ [.close]) :=
  ⟨ops, rfl, h⟩

namespace FileConnection

section
variable {env : FileEnv} {ans : FileAnswers} {c : FileConnection}

theorem reply_closesOnce {c' : FileConnection} {ops : List FileOperation} {resp : FileResponse}
    (hf : c'.file.closed = false) (hops : ∀ op ∈ ops, op ≠ .close) :
    (ans.reply c' ops resp).ClosesOnce := by
  unfold FileAnswers.reply
  split <;> exact .inl ⟨hf, fun h => hops _ h rfl⟩

theorem readReply_closesOnce {offset count : BitVec 64} {advance : Bool}
    (h : c.file.closed = false) : (readReply ans c offset count advance).ClosesOnce := by
  have hops : ∀ op ∈ (handleReadAt ans c offset count).2, op ≠ .close :=
    handleReadAt_forall fun _ => nofun
  unfold readReply
  dsimp only
  split
  · exact reply_closesOnce h hops
  · split_ifs
    · exact fun hc => hops _ hc rfl
    · exact .inl ⟨h, fun hc => hops _ hc rfl⟩
    · exact reply_closesOnce h hops

/-- Closing an open file through the wrapper calls `close` once and leaves it closed. -/
theorem OpenFile.close_of_open {f : OpenFile} {answer : Except Status Unit} (h : f.closed = false) :
    f.close answer = (answer, ⟨true⟩, [.close]) := by
  simp [OpenFile.close, h]

/-- A request on a connection whose file is open keeps it open and calls no `close`, unless it
ends the loop, closing the file with one `close`. Reference: `FileConnection::handle_request`
(`io1.rs:217`). -/
theorem handleRequest_closesOnce (h : c.file.closed = false) (req : FileRequest) :
    (handleRequest env ans c req).ClosesOnce := by
  cases req with
  | clone => exact .inl ⟨h, by simp [handleRequest]⟩
  | closeDeprecated =>
    simp only [handleRequest, OpenFile.close_of_open h]
    exact .inr ⟨nofun, rfl, rfl⟩
  | close =>
    simp only [handleRequest, OpenFile.close_of_open h]
    split_ifs
    · exact .inr ⟨nofun, rfl, rfl⟩
    · exact .inr ⟨nofun, rfl, rfl⟩
  | describe =>
    simp only [handleRequest]
    split
    · exact .inl ⟨h, by simp⟩
    · exact reply_closesOnce h (by simp)
  | syncDeprecated | sync | getAttr | getFlags | getFlagsDeprecatedUseNode | advisoryLock
  | queryFilesystem | setFlags _ | setFlagsDeprecatedUseNode _ => exact reply_closesOnce h (by simp)
  | setAttr _ | truncate _ | resize _ => exact reply_closesOnce h (writableCall_forall fun _ => nofun)
  | readDeprecated _ | read _ | readAtDeprecated _ _ | readAt _ _ => exact readReply_closesOnce h
  | writeDeprecated _ | write _ =>
    exact reply_closesOnce (by rw [handleWrite_conn]; exact h)
      (handleWrite_forall fun _ => ⟨nofun, nofun⟩)
  | writeAtDeprecated _ _ | writeAt _ _ => exact reply_closesOnce h (handleWriteAt_forall fun _ => nofun)
  | seekDeprecated _ _ | seek _ _ =>
    exact reply_closesOnce (by rw [handleSeek_conn]; exact h) (handleSeek_forall nofun)
  | getBuffer _ | getBackingMemory _ => exact reply_closesOnce h (handleGetBuffer_forall nofun)

end

/-- The request loop from a connection whose file is open: the file stays open with no `close`
made, or the loop ended by `Closed` or `Dropped` with the file closed by one `close`, the last
call. -/
theorem handleRequests_closesOnce (env : FileEnv) (reqs : List (FileRequest × FileAnswers))
    {c : FileConnection} (h : c.file.closed = false) :
    ((handleRequests env c reqs).1.file.closed = false ∧
      FileOperation.close ∉ (handleRequests env c reqs).2.1) ∨
    ((handleRequests env c reqs).2.2 ≠ .panicked ∧ (handleRequests env c reqs).1.file.closed = true ∧
      ClosedOnce (handleRequests env c reqs).2.1) := by
  induction reqs generalizing c with
  | nil => exact .inl ⟨h, by simp [handleRequests]⟩
  | cons q rest ih =>
    obtain ⟨req, ans⟩ := q
    have hc : (handleRequest env ans c req).ClosesOnce := handleRequest_closesOnce h req
    simp only [handleRequests]
    split
    · next ops hs => rw [hs] at hc; exact .inl ⟨h, hc⟩
    · next o hs =>
      rw [hs] at hc
      rcases hc with ⟨hf, hops⟩ | ⟨hst, hf, hops⟩
      · split
        · rcases ih hf with ⟨hf', hops'⟩ | ⟨hend, hf', hc'⟩
          · exact .inl ⟨hf', by simp [hops, hops']⟩
          · exact .inr ⟨hend, hf', closedOnce_append hops hc'⟩
        · exact .inl ⟨hf, hops⟩
        · exact .inl ⟨hf, hops⟩
      · split
        · contradiction
        · exact .inr ⟨nofun, hf, [], hops, List.not_mem_nil _⟩
        · exact .inr ⟨nofun, hf, [], hops, List.not_mem_nil _⟩

/-- `create_connection_async` closes the file on every early return, once and last, and
otherwise hands on an open file without calling `close`. -/
theorem createConnectionAsync_closes (env : FileEnv) (ans : OpenAnswers) (flags : BitVec 32) :
    (∀ c, (createConnectionAsync env ans flags).1 = some c →
      c.file.closed = false ∧ FileOperation.close ∉ (createConnectionAsync env ans flags).2.1) ∧
    ((createConnectionAsync env ans flags).1 = none →
      ClosedOnce (createConnectionAsync env ans flags).2.1) := by
  have hops (p : Prop) [Decidable p] (f : BitVec 32) :
      FileOperation.close ∉ FileOperation.init f :: if p then [FileOperation.truncate 0] else [] := by
    split_ifs <;> simp
  unfold createConnectionAsync
  dsimp only
  split
  · exact ⟨nofun, fun _ => ⟨[], rfl, List.not_mem_nil _⟩⟩
  · split
    · exact ⟨nofun, fun _ => ⟨[.init _], rfl, by simp⟩⟩
    · split
      · exact ⟨nofun, fun _ => closedOnce_close (hops _ _)⟩
      · exact ⟨nofun, fun _ => closedOnce_close (hops _ _)⟩
      · split
        · exact ⟨nofun, fun _ => closedOnce_close (hops _ _)⟩
        · exact ⟨fun c hc => by cases hc; exact ⟨rfl, hops _ _⟩, nofun⟩

/-- The backing file's `open` and `close` are paired through the `OpenFile` wrapper: for every
file flag validator, any answers of the backing file and the channel, any flag word and any
requests, a connection whose request loop does not panic calls the backing file's `close` exactly
once, as its last call, whether or not `File::open` was called or succeeded. -/
theorem close_invoked_once (env : FileEnv) (ans : OpenAnswers) (flags : BitVec 32)
    (reqs : List (FileRequest × FileAnswers)) (h : (lifetime env ans flags reqs).2 ≠ some .panicked) :
    ClosedOnce (lifetime env ans flags reqs).1 := by
  have hc := createConnectionAsync_closes env ans flags
  revert h
  unfold lifetime
  split
  · next ops s hcr => exact fun _ => by simpa [hcr] using hc.2 (by simp [hcr])
  · next c ops s hcr =>
    intro hp
    obtain ⟨hf, hops⟩ := hc.1 c (by simp [hcr])
    simp only [hcr] at hops
    have hp : (handleRequests env c reqs).2.2 ≠ .panicked := fun h' => hp (by simp [h'])
    simp only [hp, if_false]
    rcases handleRequests_closesOnce env reqs hf with ⟨hf', hops'⟩ | ⟨-, hf', hc'⟩
    · rw [OpenFile.drop, if_neg (by simp [hf']), List.append_assoc]
      exact closedOnce_append hops (closedOnce_close hops')
    · rw [OpenFile.drop, if_pos hf', List.append_nil]
      exact closedOnce_append hops hc'

/-- `close_invoked_once` for a connection whose flags are accepted, opened with no requests. -/
theorem close_invoked_once_idle :
    let env : FileEnv := ⟨.ok, fun _ _ => .ok (), 0⟩
    let ans : OpenAnswers := ⟨.ok (), .ok (), .ok (), true, true⟩
    (lifetime env ans openRightReadable []).2 ≠ some .panicked ∧
      ClosedOnce (lifetime env ans openRightReadable []).1 :=
  ⟨by decide, close_invoked_once _ _ _ _ (by decide)⟩

/-- The file is closed also when it was never opened: a flag word the validator refuses makes
`close` the only call, and a failed `File::open` is followed by `close`. -/
theorem close_without_open :
    lifetime ⟨fun _ => .error .invalidArgs, fun _ _ => .ok (), 0⟩
        ⟨.ok (), .ok (), .ok (), true, true⟩ 0 [] = ([.close], none) ∧
    lifetime ⟨.ok, fun _ _ => .ok (), 0⟩
        ⟨.error .io, .ok (), .ok (), true, true⟩ 0 [] = ([.init 0, .close], none) :=
  ⟨rfl, rfl⟩

end FileConnection

/-! ## Opening first and once -/

/-- The calls a served request made. -/
def Served.ops : Served → List FileOperation
  | .outcome o => o.ops
  | .panic ops => ops

@[simp] theorem Served.ops_outcome (o : FileOutcome) : (Served.outcome o).ops = o.ops := rfl

@[simp] theorem Served.ops_panic (ops : List FileOperation) : (Served.panic ops).ops = ops := rfl

/-- A call other than the backing file's `File::open`. -/
def FileOperation.NotInit (op : FileOperation) : Prop :=
  ∀ flags, op ≠ .init flags

theorem OpenFile.drop_notInit (f : OpenFile) : ∀ op ∈ f.drop, op.NotInit := by
  unfold OpenFile.drop
  split_ifs <;> simp [FileOperation.NotInit]

section
variable {env : FileEnv} {ans : FileAnswers} {c : FileConnection}

@[simp] theorem FileAnswers.reply_ops (c' : FileConnection) (ops : List FileOperation)
    (resp : FileResponse) : (ans.reply c' ops resp).ops = ops := by
  unfold FileAnswers.reply
  split <;> rfl

theorem FileConnection.readReply_ops (offset count : BitVec 64) (advance : Bool) :
    (FileConnection.readReply ans c offset count advance).ops =
      (FileConnection.handleReadAt ans c offset count).2 := by
  unfold FileConnection.readReply
  dsimp only
  split
  · simp
  · split_ifs <;> simp

/-- No request calls `File::open`: only `create_connection_async` does. -/
theorem FileConnection.handleRequest_notInit (req : FileRequest) :
    ∀ op ∈ (FileConnection.handleRequest env ans c req).ops, op.NotInit := by
  have hc : ∀ f : OpenFile, ∀ a, ∀ op ∈ (f.close a).2.2, op.NotInit :=
    fun _ _ => FileConnection.OpenFile.close_forall fun _ => nofun
  cases req with
  | closeDeprecated | close =>
    simp only [FileConnection.handleRequest]
    first | exact hc _ _ | (split <;> exact hc _ _)
  | describe =>
    simp only [FileConnection.handleRequest]
    split <;> simp [FileOperation.NotInit]
  | readDeprecated _ | read _ | readAtDeprecated _ _ | readAt _ _ =>
    simp only [FileConnection.handleRequest, FileConnection.readReply_ops]
    exact FileConnection.handleReadAt_forall fun _ _ => nofun
  | writeDeprecated _ | write _ =>
    simp only [FileConnection.handleRequest, FileAnswers.reply_ops]
    exact FileConnection.handleWrite_forall fun _ => ⟨fun _ => nofun, fun _ => nofun⟩
  | writeAtDeprecated _ _ | writeAt _ _ =>
    simp only [FileConnection.handleRequest, FileAnswers.reply_ops]
    exact FileConnection.handleWriteAt_forall fun _ _ => nofun
  | seekDeprecated _ _ | seek _ _ =>
    simp only [FileConnection.handleRequest, FileAnswers.reply_ops]
    exact FileConnection.handleSeek_forall fun _ => nofun
  | setAttr _ | truncate _ | resize _ =>
    simp only [FileConnection.handleRequest, FileAnswers.reply_ops, FileConnection.handleSetAttr,
      FileConnection.handleTruncate]
    exact FileConnection.writableCall_forall fun _ _ => nofun
  | getBuffer _ | getBackingMemory _ =>
    simp only [FileConnection.handleRequest, FileAnswers.reply_ops]
    exact FileConnection.handleGetBuffer_forall fun _ => nofun
  | _ => simp [FileConnection.handleRequest, FileOperation.NotInit]

end

theorem FileConnection.handleRequests_notInit (env : FileEnv) (c : FileConnection)
    (reqs : List (FileRequest × FileAnswers)) :
    ∀ op ∈ (FileConnection.handleRequests env c reqs).2.1, op.NotInit := by
  induction reqs generalizing c with
  | nil => simp [FileConnection.handleRequests]
  | cons q rest ih =>
    obtain ⟨req, ans⟩ := q
    have h : ∀ op ∈ (FileConnection.handleRequest env ans c req).ops, op.NotInit :=
      FileConnection.handleRequest_notInit req
    simp only [FileConnection.handleRequests]
    split
    · next ops hs => rw [hs] at h; exact h
    · next o hs =>
      rw [hs] at h
      split
      · intro op hop
        rcases List.mem_append.1 hop with hop | hop
        · exact h op hop
        · exact ih o.conn op hop
      · exact h
      · exact h

/-- `create_connection_async` calls `File::open` first, with the validated flags, and never
again; when the validator refuses the flags, its only call is the `close` of the dropped
wrapper. -/
theorem FileConnection.createConnectionAsync_init (env : FileEnv) (ans : OpenAnswers)
    (flags : BitVec 32) :
    (∃ s, env.newConnectionValidateFlags flags = .error s ∧
      (FileConnection.createConnectionAsync env ans flags).1 = none ∧
      (FileConnection.createConnectionAsync env ans flags).2.1 = [.close]) ∨
    ∃ g, env.newConnectionValidateFlags flags = .ok g ∧ ∃ rest,
      (FileConnection.createConnectionAsync env ans flags).2.1 = .init g :: rest ∧
      ∀ op ∈ rest, op.NotInit := by
  unfold FileConnection.createConnectionAsync
  dsimp only
  split
  · next s hv => exact .inl ⟨s, hv, rfl, rfl⟩
  · next g hv =>
    refine .inr ⟨g, hv, ?_⟩
    repeat' split
    all_goals exact ⟨_, rfl, by simp [OpenFile.drop, FileOperation.NotInit]⟩

/-- After `create_connection_async`, a connection calls `File::open` no more, and one that was
not created calls nothing more. -/
theorem FileConnection.lifetime_ops (env : FileEnv) (ans : OpenAnswers) (flags : BitVec 32)
    (reqs : List (FileRequest × FileAnswers)) :
    ∃ tail, (FileConnection.lifetime env ans flags reqs).1 =
        (FileConnection.createConnectionAsync env ans flags).2.1 ++ tail ∧
      (∀ op ∈ tail, op.NotInit) ∧
      ((FileConnection.createConnectionAsync env ans flags).1 = none → tail = []) := by
  unfold FileConnection.lifetime
  split
  · next ops _ h => exact ⟨[], by simp [h], by simp, fun _ => rfl⟩
  · next c ops _ h =>
    refine ⟨_, by rw [h]; exact List.append_assoc _ _ _, fun op hop => ?_, by simp [h]⟩
    rcases List.mem_append.1 hop with hop | hop
    · exact FileConnection.handleRequests_notInit env c reqs op hop
    · split_ifs at hop
      · cases hop
      · exact OpenFile.drop_notInit _ op hop

/-- The backing file is opened first, once, with the flags the validator returned: for every
file flag validator, any answers of the backing file and the channel, any flag word and any
requests, a whole connection either has its flags refused, with the dropped wrapper's `close`
its only call, or calls `File::open` with the validated flags before any other call, and never
calls it again. -/
theorem FileConnection.file_opened_first_once (env : FileEnv) (ans : OpenAnswers)
    (flags : BitVec 32) (reqs : List (FileRequest × FileAnswers)) :
    (∃ s, env.newConnectionValidateFlags flags = .error s ∧
      (FileConnection.lifetime env ans flags reqs).1 = [.close]) ∨
    ∃ g, env.newConnectionValidateFlags flags = .ok g ∧ ∃ rest,
      (FileConnection.lifetime env ans flags reqs).1 = .init g :: rest ∧
      ∀ f, FileOperation.init f ∉ rest := by
  obtain ⟨tail, hl, ht, hnone⟩ := FileConnection.lifetime_ops env ans flags reqs
  rw [hl]
  rcases FileConnection.createConnectionAsync_init env ans flags with
    ⟨s, hv, hn, hops⟩ | ⟨g, hv, rest, hops, hrest⟩
  · exact .inl ⟨s, hv, by rw [hops, hnone hn, List.append_nil]⟩
  · refine .inr ⟨g, hv, rest ++ tail, by rw [hops, List.cons_append], fun f hf => ?_⟩
    rcases List.mem_append.1 hf with hf | hf
    · exact hrest _ hf f rfl
    · exact ht _ hf f rfl

/-- A connection whose flags are accepted, with no requests: `File::open`, then `close`. -/
example :
    FileConnection.lifetime ⟨.ok, fun _ _ => .ok (), 0⟩ ⟨.ok (), .ok (), .ok (), true, true⟩
      openRightReadable [] = ([.init openRightReadable, .close], some .noRequest) := rfl

end FuchsiaVfs
