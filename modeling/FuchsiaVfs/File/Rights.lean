import FuchsiaVfs.File.Connection

/-!
# A file connection's rights

`SetFlags` is the only request that writes the flags, and it writes only `OPEN_FLAG_APPEND`; every
handler that calls `read_at` tests `OPEN_RIGHT_READABLE` first, and every one that calls
`write_at`, `append`, `truncate` or `set_attrs` tests `OPEN_RIGHT_WRITABLE`. So one request keeps
every flag but `OPEN_FLAG_APPEND` and calls the backing file only as the flags permit
(`handleRequest_keeps`), and over the whole request loop the flags the connection was created
with decide every call it makes (`file_rights_fixed`).
-/

namespace FuchsiaVfs

/-- A call the flags permit: `read_at` needs `OPEN_RIGHT_READABLE`; `write_at`, `append`,
`truncate` and `set_attrs` need `OPEN_RIGHT_WRITABLE`. -/
def FileOperation.Permitted (flags : BitVec 32) : FileOperation → Prop
  | .readAt _ _ => flags &&& openRightReadable ≠ 0
  | .writeAt _ _ | .append _ | .truncate _ | .setAttrs _ => flags &&& openRightWritable ≠ 0
  | .init _ | .getBuffer _ | .getSize | .getAttrs | .close | .sync => True

instance (flags : BitVec 32) : DecidablePred (FileOperation.Permitted flags)
  | .readAt _ _ => inferInstanceAs (Decidable (_ ≠ _))
  | .writeAt _ _ | .append _ | .truncate _ | .setAttrs _ => inferInstanceAs (Decidable (_ ≠ _))
  | .init _ | .getBuffer _ | .getSize | .getAttrs | .close | .sync =>
    inferInstanceAs (Decidable True)

/-- The flags but `OPEN_FLAG_APPEND` decide the rights. -/
theorem and_right_eq_of_append (x : BitVec 32) {r : BitVec 32} (hr : ~~~openFlagAppend &&& r = r) :
    x &&& r = (x &&& ~~~openFlagAppend) &&& r := by
  rw [BitVec.and_assoc, hr]

/-- Flags that agree but for `OPEN_FLAG_APPEND` permit the same calls. -/
theorem FileOperation.permitted_congr {a b : BitVec 32}
    (h : a &&& ~~~openFlagAppend = b &&& ~~~openFlagAppend) (op : FileOperation) :
    op.Permitted a ↔ op.Permitted b := by
  have hr := and_right_eq_of_append a (r := openRightReadable) (by decide)
  have hw := and_right_eq_of_append a (r := openRightWritable) (by decide)
  rw [h, ← and_right_eq_of_append b (by decide)] at hr hw
  cases op <;> simp only [FileOperation.Permitted, hr, hw]

/-- What serving one request may do to the rights of `c`: keep every flag but
`OPEN_FLAG_APPEND`, and call the backing file only as `c`'s flags permit. -/
def Served.Keeps (c : FileConnection) : Served → Prop
  | .outcome o => o.conn.flags &&& ~~~openFlagAppend = c.flags &&& ~~~openFlagAppend ∧
      ∀ op ∈ o.ops, op.Permitted c.flags
  | .panic ops => ∀ op ∈ ops, op.Permitted c.flags

namespace FileConnection

section
variable {env : FileEnv} {ans : FileAnswers} {c : FileConnection}

theorem reply_keeps {c' : FileConnection} {ops : List FileOperation} {resp : FileResponse}
    (hf : c'.flags &&& ~~~openFlagAppend = c.flags &&& ~~~openFlagAppend)
    (hops : ∀ op ∈ ops, op.Permitted c.flags) : (ans.reply c' ops resp).Keeps c := by
  unfold FileAnswers.reply
  split <;> exact ⟨hf, hops⟩

theorem readReply_keeps {offset count : BitVec 64} {advance : Bool} :
    (readReply ans c offset count advance).Keeps c := by
  have hops : ∀ op ∈ (handleReadAt ans c offset count).2, op.Permitted c.flags :=
    handleReadAt_forall id
  unfold readReply
  dsimp only
  split
  · exact reply_keeps rfl hops
  · split_ifs
    · exact hops
    · exact ⟨rfl, hops⟩
    · exact reply_keeps rfl hops

/-- `SetFlags` writes only `OPEN_FLAG_APPEND`. -/
theorem setFlags_and_not_append (x y : BitVec 32) :
    ((x &&& ~~~openFlagAppend) ||| (y &&& openFlagAppend)) &&& ~~~openFlagAppend =
      x &&& ~~~openFlagAppend := by
  ext i
  simp only [BitVec.getLsbD_and, BitVec.getLsbD_or, BitVec.getLsbD_not]
  cases x.getLsbD i <;> cases openFlagAppend.getLsbD i <;> simp

/-- One request keeps every flag but `OPEN_FLAG_APPEND`, and calls the backing file only as
the flags permit. Reference: `FileConnection::handle_request` (`io1.rs:217`). -/
theorem handleRequest_keeps (req : FileRequest) : (handleRequest env ans c req).Keeps c := by
  cases req with
  | clone => exact ⟨rfl, by simp [handleRequest]⟩
  | closeDeprecated => exact ⟨rfl, OpenFile.close_forall trivial⟩
  | close =>
    simp only [handleRequest]
    split_ifs <;> exact ⟨rfl, OpenFile.close_forall trivial⟩
  | describe =>
    simp only [handleRequest]
    split
    · exact ⟨rfl, by simp⟩
    · exact reply_keeps rfl (by simp)
  | syncDeprecated | sync | getAttr | getFlags | getFlagsDeprecatedUseNode | advisoryLock
  | queryFilesystem => exact reply_keeps rfl (by simp [FileOperation.Permitted])
  | setAttr flags | truncate flags | resize flags => exact reply_keeps rfl (writableCall_forall id)
  | readDeprecated count | read count | readAtDeprecated offset count | readAt offset count =>
    exact readReply_keeps
  | writeDeprecated data | write data =>
    exact reply_keeps (by rw [handleWrite_conn]) (handleWrite_forall fun h => ⟨h, h⟩)
  | writeAtDeprecated offset data | writeAt offset data =>
    exact reply_keeps rfl (handleWriteAt_forall id)
  | seekDeprecated offset origin | seek origin offset =>
    exact reply_keeps (by rw [handleSeek_conn]) (handleSeek_forall trivial)
  | setFlags flags | setFlagsDeprecatedUseNode flags =>
    exact reply_keeps (setFlags_and_not_append _ _) (by simp)
  | getBuffer flags | getBackingMemory flags => exact reply_keeps rfl (handleGetBuffer_forall trivial)

end

/-- File-connection rights are fixed for the connection's lifetime and gate every call on the
backing file: from any connection state with flags `F`, for every sequence of requests (any
`SetFlags` among them) with any answers of the backing file and the channel, the flags when the
request loop ends differ from `F` at most in `OPEN_FLAG_APPEND`, and every call the loop made
is permitted by `F`: `read_at` only if `F` has `OPEN_RIGHT_READABLE`, `write_at`, `append`,
`truncate` and `set_attrs` only if `F` has `OPEN_RIGHT_WRITABLE`. -/
theorem file_rights_fixed (env : FileEnv) (c : FileConnection)
    (reqs : List (FileRequest × FileAnswers)) :
    (handleRequests env c reqs).1.flags &&& ~~~openFlagAppend = c.flags &&& ~~~openFlagAppend ∧
    ∀ op ∈ (handleRequests env c reqs).2.1, op.Permitted c.flags := by
  induction reqs generalizing c with
  | nil => simp [handleRequests]
  | cons q rest ih =>
    obtain ⟨req, ans⟩ := q
    have hk : (handleRequest env ans c req).Keeps c := handleRequest_keeps req
    simp only [handleRequests]
    split
    · next ops h => rw [h] at hk; exact ⟨rfl, hk⟩
    · next o h =>
      rw [h] at hk
      obtain ⟨hf, hops⟩ := hk
      split
      · obtain ⟨hf', hops'⟩ := ih o.conn
        refine ⟨hf'.trans hf, fun op hop => ?_⟩
        rcases List.mem_append.1 hop with hop | hop
        · exact hops op hop
        · exact (FileOperation.permitted_congr hf op).1 (hops' op hop)
      · exact ⟨hf, hops⟩
      · exact ⟨hf, hops⟩

end FileConnection

end FuchsiaVfs
