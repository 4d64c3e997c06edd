import FuchsiaVfs.Directory.Connection

/-!
# The file connection

`file/connection/io1.rs`: a connection to a file keeps its flags and a 64-bit seek position and
serves one request at a time, calling the backing `File`. The model records every call it makes
on the backing file as a `FileOperation`, the record the tests' mock file keeps, and takes what
the file answers, and whether each response reaches the client, as the `FileAnswers` of the
request. Any backing file, shared with any other connections, answers some sequence of these, so
a statement over every list of requests with their answers covers every run of one connection.

* `handleRequest` is `FileConnection::handle_request`, through its helpers `handleReadAt`,
  `handleWrite`, `handleWriteAt`, `handleSeek` and the rest;
* `handleRequests` is the request loop;
* `createConnectionAsync` is `create_connection_async` up to its request loop, and `lifetime` a whole
  connection, from `OpenFile::new` to the drop of the connection.

The `OpenFile` wrapper (`file/connection/util.rs`), the file flag validators (`file/common.rs`)
and `GET_FLAGS_VISIBLE` (`common.rs`) are not under `src/`: the wrapper is modelled from the
spec, the others are parameters of the run (`FileEnv`).
-/

namespace FuchsiaVfs

/-- `fidl_fuchsia_io::MAX_BUF = 8192`, the most bytes one read may ask for. -/
def maxBuf : BitVec 64 := 8192

/-- A call the connection makes on the backing file: the mock file's `FileOperation`
(`io1.rs:604`), which records one per call. -/
inductive FileOperation
  | init (flags : BitVec 32)
  | readAt (offset count : BitVec 64)
  | writeAt (offset : BitVec 64) (content : List UInt8)
  | append (content : List UInt8)
  | truncate (length : BitVec 64)
  | getBuffer (flags : BitVec 32)
  | getSize
  | getAttrs
  | setAttrs (flags : BitVec 32)
  | close
  | sync
  deriving DecidableEq, Repr

/-- `fidl_fuchsia_io::SeekOrigin`. -/
inductive SeekOrigin
  | start
  | current
  | «end»
  deriving DecidableEq, Repr

/-- A `fuchsia.io` file request as the connection receives it (`FileRequest`). The `i64` offset
of a seek is its 64-bit two's complement word. -/
inductive FileRequest
  | clone (flags : BitVec 32)
  | closeDeprecated
  | close
  | describe
  | syncDeprecated
  | sync
  | getAttr
  | setAttr (flags : BitVec 32)
  | readDeprecated (count : BitVec 64)
  | read (count : BitVec 64)
  | readAtDeprecated (offset count : BitVec 64)
  | readAt (offset count : BitVec 64)
  | writeDeprecated (data : List UInt8)
  | write (data : List UInt8)
  | writeAtDeprecated (offset : BitVec 64) (data : List UInt8)
  | writeAt (offset : BitVec 64) (data : List UInt8)
  | seekDeprecated (offset : BitVec 64) (origin : SeekOrigin)
  | seek (origin : SeekOrigin) (offset : BitVec 64)
  | truncate (length : BitVec 64)
  | resize (length : BitVec 64)
  | getFlags
  | getFlagsDeprecatedUseNode
  | setFlags (flags : BitVec 32)
  | setFlagsDeprecatedUseNode (flags : BitVec 32)
  | getBuffer (flags : BitVec 32)
  | getBackingMemory (flags : BitVec 32)
  | advisoryLock
  | queryFilesystem
  deriving Repr

/-- What the connection sends back: the status, and the count, offset or flags the response
carries (a deprecated request and its successor carry the same data). A `Clone` answers on the new
channel with its `OpenOutcome`. -/
inductive FileResponse
  | status (s : Status)
  | read (s : Status) (count : BitVec 64)
  | write (s : Status) (actual : BitVec 64)
  | seek (s : Status) (offset : BitVec 64)
  | attrs (s : Status)
  | flags (s : Status) (flags : BitVec 32)
  | buffer (s : Status)
  | describe
  | onOpen (outcome : OpenOutcome)
  deriving DecidableEq, Repr

/-- What the backing file answers to each call one request may make (it makes at most one of each
kind), and whether `responder.send` delivers the response. -/
structure FileAnswers where
  readAt : Except Status (BitVec 64)
  writeAt : Except Status (BitVec 64)
  append : Except Status (BitVec 64 × BitVec 64)
  truncate : Except Status Unit
  getBuffer : Except Status Unit
  getSize : Except Status (BitVec 64)
  getAttrs : Except Status Unit
  setAttrs : Except Status Unit
  close : Except Status Unit
  sync : Except Status Unit
  describe : Except Status Unit
  queryFilesystem : Except Status Unit
  delivered : Bool

/-- The parts of the VFS the file connection calls that are not under `src/`: the file versions
of the flag validators (`file/common.rs`), the connection's `readable`, `writable` and
`executable` arguments already applied, and `GET_FLAGS_VISIBLE` (`common.rs`). -/
structure FileEnv where
  newConnectionValidateFlags : BitVec 32 → Except Status (BitVec 32)
  getBufferValidateFlags : BitVec 32 → BitVec 32 → Except Status Unit
  getFlagsVisible : BitVec 32

/-! ## The connection's state -/

/-- Modelled from the spec: the `OpenFile` wrapper of the backing file
(`file/connection/util.rs`, not under `src/`), "Close: always invoked (explicitly or implicitly
on drop) ... exactly once; double-close must not double-flush": whether it has closed the
file. -/
structure OpenFile where
  closed : Bool
  deriving DecidableEq, Repr

/-- Modelled from the spec: closing through the wrapper calls the backing file's `close` once;
a second close calls nothing. -/
def OpenFile.close (f : OpenFile) (answer : Except Status Unit) :
    Except Status Unit × OpenFile × List FileOperation :=
  if f.closed then (.error .badHandle, f, []) else (answer, ⟨true⟩, [.close])

/-- Modelled from the spec: dropping the wrapper closes the file unless it was closed. -/
def OpenFile.drop (f : OpenFile) : List FileOperation :=
  if f.closed then [] else [.close]

/-- The state of a `FileConnection` (`io1.rs:34`): the wrapped file, the flags, the seek. -/
structure FileConnection where
  file : OpenFile
  flags : BitVec 32
  seek : BitVec 64
  deriving DecidableEq, Repr

/-- `ConnectionState` (`io1.rs:62`), what a handled request leaves the connection in. -/
inductive ConnectionState
  | alive
  | closed
  | dropped
  deriving DecidableEq, Repr

/-- What serving one request did: the connection afterwards, the calls made on the backing
file, the response sent (if any), and the state. -/
structure FileOutcome where
  conn : FileConnection
  ops : List FileOperation
  response : Option FileResponse
  state : ConnectionState
  deriving DecidableEq, Repr

/-- A request is served to an outcome, or the handler panics after the calls it made: slicing
the read buffer at a count above its length (`&buffer[..bytes_read as usize]`). -/
inductive Served
  | outcome (o : FileOutcome)
  | panic (ops : List FileOperation)
  deriving DecidableEq, Repr

/-- `responder.send(..)?`: the response is sent and the connection stays alive, or sending
fails and the error drops the connection. -/
def FileAnswers.reply (ans : FileAnswers) (c : FileConnection) (ops : List FileOperation)
    (resp : FileResponse) : Served :=
  if ans.delivered then .outcome ⟨c, ops, some resp, .alive⟩ else .outcome ⟨c, ops, none, .dropped⟩

/-! ## The handlers -/

namespace FileConnection

section
variable (env : FileEnv) (ans : FileAnswers) (c : FileConnection)

/-- `FileConnection::handle_read_at` (`io1.rs:472`): the count the backing file read, or the
status. -/
def handleReadAt (offset count : BitVec 64) : Except Status (BitVec 64) × List FileOperation :=
  if c.flags &&& openRightReadable == 0 then (.error .badHandle, [])
  else if count > maxBuf then (.error .outOfRange, [])
  else (ans.readAt, [.readAt offset count])

/-- `FileConnection::handle_write_at` (`io1.rs:511`). -/
def handleWriteAt (offset : BitVec 64) (content : List UInt8) :
    (Status × BitVec 64) × List FileOperation :=
  if c.flags &&& openRightWritable == 0 then ((.badHandle, 0), [])
  else
    ((match ans.writeAt with
      | .ok bytes => (.ok, bytes)
      | .error e => (e, 0)), [.writeAt offset content])

/-- `FileConnection::handle_write` (`io1.rs:489`): with `OPEN_FLAG_APPEND` the file appends and
the end it reports becomes the seek; otherwise a write at the seek, which then advances by the
count written (`self.seek += actual`, a `u64` addition). -/
def handleWrite (content : List UInt8) :
    (Status × BitVec 64) × FileConnection × List FileOperation :=
  if c.flags &&& openRightWritable == 0 then ((.badHandle, 0), c, [])
  else if c.flags &&& openFlagAppend != 0 then
    match ans.append with
    | .ok (bytes, offset) => ((.ok, bytes), { c with seek := offset }, [.append content])
    | .error e => ((e, 0), c, [.append content])
  else
    let r := handleWriteAt ans c c.seek content
    (r.1, { c with seek := c.seek + r.1.2 }, r.2)

/-- The status and target of a seek (`io1.rs:527-541`), over the integers as the `i128` the code
computes in, and the calls made: `End` asks the file's size, and when that fails the target is
the current seek. -/
def seekTarget (offset : BitVec 64) : SeekOrigin → Status × Int × List FileOperation
  | .start => (.ok, offset.toInt, [])
  | .current => (.ok, c.seek.toNat + offset.toInt, [])
  | .«end» =>
    match ans.getSize with
    | .ok size => (.ok, size.toNat + offset.toInt, [.getSize])
    | .error e => (e, c.seek.toNat, [.getSize])

/-- `FileConnection::handle_seek` (`io1.rs:522`): a negative target is refused with
`OUT_OF_RANGE`; any other is stored as `new_seek as u64`, its low 64 bits. -/
def handleSeek (offset : BitVec 64) (origin : SeekOrigin) :
    (Status × BitVec 64) × FileConnection × List FileOperation :=
  if c.flags &&& openFlagNodeReference != 0 then ((.badHandle, 0), c, [])
  else
    let r := seekTarget ans c offset origin
    if r.2.1 < 0 then ((.outOfRange, c.seek), c, r.2.2)
    else ((r.1, BitVec.ofInt 64 r.2.1), { c with seek := BitVec.ofInt 64 r.2.1 }, r.2.2)

/-- A call only a writable connection makes (`handle_set_attr`, `handle_truncate`): refused
with `BAD_HANDLE` without `OPEN_RIGHT_WRITABLE`, otherwise the file's answer. -/
def writableCall (op : FileOperation) (answer : Except Status Unit) :
    Status × List FileOperation :=
  if c.flags &&& openRightWritable == 0 then (.badHandle, []) else (statusOf answer, [op])

/-- `FileConnection::handle_set_attr` (`io1.rs:554`). -/
def handleSetAttr (flags : BitVec 32) : Status × List FileOperation :=
  writableCall c (.setAttrs flags) ans.setAttrs

/-- `FileConnection::handle_truncate` (`io1.rs:566`). -/
def handleTruncate (length : BitVec 64) : Status × List FileOperation :=
  writableCall c (.truncate length) ans.truncate

/-- `FileConnection::handle_get_buffer` (`io1.rs:577`). -/
def handleGetBuffer (flags : BitVec 32) : Status × List FileOperation :=
  match env.getBufferValidateFlags flags c.flags with
  | .error s => (s, [])
  | .ok () => (statusOf ans.getBuffer, [.getBuffer flags])

/-- A read at `offset` and its response; `Read` (`advance`) then moves the seek by the count
read (`self.seek += advance`, a `u64` addition, once the response is sent), `ReadAt` does not. A
count above the one asked for panics. -/
def readReply (offset count : BitVec 64) (advance : Bool) : Served :=
  let r := handleReadAt ans c offset count
  match r.1 with
  | .error s => ans.reply c r.2 (.read s 0)
  | .ok n =>
    if count < n then .panic r.2
    else if advance && ans.delivered then
      .outcome ⟨{ c with seek := c.seek + n }, r.2, some (.read .ok n), .alive⟩
    else ans.reply c r.2 (.read .ok n)

/-- `FileConnection::handle_request` (`io1.rs:217`). -/
def handleRequest : FileRequest → Served
  | .clone flags => .outcome ⟨c, [], some (.onOpen (handleClone c.flags flags 0)), .alive⟩
  | .closeDeprecated =>
    let r := c.file.close ans.close
    .outcome ⟨{ c with file := r.2.1 }, r.2.2,
      if ans.delivered then some (.status (statusOf r.1)) else none, .closed⟩
  | .close =>
    let r := c.file.close ans.close
    if ans.delivered then
      .outcome ⟨{ c with file := r.2.1 }, r.2.2, some (.status (statusOf r.1)), .closed⟩
    else .outcome ⟨{ c with file := r.2.1 }, r.2.2, none, .dropped⟩
  | .describe =>
    match ans.describe with
    | .error _ => .outcome ⟨c, [], none, .dropped⟩
    | .ok () => ans.reply c [] .describe
  | .syncDeprecated | .sync => ans.reply c [.sync] (.status (statusOf ans.sync))
  | .getAttr => ans.reply c [.getAttrs] (.attrs (statusOf ans.getAttrs))
  | .setAttr flags =>
    let r := handleSetAttr ans c flags
    ans.reply c r.2 (.status r.1)
  | .readDeprecated count | .read count => readReply ans c c.seek count true
  | .readAtDeprecated offset count | .readAt offset count => readReply ans c offset count false
  | .writeDeprecated data | .write data =>
    let r := handleWrite ans c data
    ans.reply r.2.1 r.2.2 (.write r.1.1 r.1.2)
  | .writeAtDeprecated offset data | .writeAt offset data =>
    let r := handleWriteAt ans c offset data
    ans.reply c r.2 (.write r.1.1 r.1.2)
  | .seekDeprecated offset origin | .seek origin offset =>
    let r := handleSeek ans c offset origin
    ans.reply r.2.1 r.2.2 (.seek r.1.1 r.1.2)
  | .truncate length | .resize length =>
    let r := handleTruncate ans c length
    ans.reply c r.2 (.status r.1)
  | .getFlags | .getFlagsDeprecatedUseNode =>
    ans.reply c [] (.flags .ok (c.flags &&& env.getFlagsVisible))
  | .setFlags flags | .setFlagsDeprecatedUseNode flags =>
    ans.reply { c with flags := (c.flags &&& ~~~openFlagAppend) ||| (flags &&& openFlagAppend) }
      [] (.status .ok)
  | .getBuffer flags | .getBackingMemory flags =>
    let r := handleGetBuffer env ans c flags
    ans.reply c r.2 (.buffer r.1)
  | .advisoryLock => ans.reply c [] (.status .notSupported)
  | .queryFilesystem => ans.reply c [] (.status (statusOf ans.queryFilesystem))

end

/-! ## What each handler calls -/

section
variable {env : FileEnv} {ans : FileAnswers} {c : FileConnection} {P : FileOperation → Prop}

/-- `handle_read_at` calls `read_at` only on a readable connection. -/
theorem handleReadAt_forall {offset count : BitVec 64}
    (hP : c.flags &&& openRightReadable ≠ 0 → P (.readAt offset count)) :
    ∀ op ∈ (handleReadAt ans c offset count).2, P op := by
  unfold handleReadAt
  split_ifs with hr
  · simp
  · simp
  · simpa using hP (by simpa using hr)

/-- `handle_write_at` calls `write_at` only on a writable connection. -/
theorem handleWriteAt_forall {offset : BitVec 64} {content : List UInt8}
    (hP : c.flags &&& openRightWritable ≠ 0 → P (.writeAt offset content)) :
    ∀ op ∈ (handleWriteAt ans c offset content).2, P op := by
  unfold handleWriteAt
  split_ifs with hw
  · simp
  · simpa using hP (by simpa using hw)

/-- `handle_write` calls `append` or `write_at` at the seek, only on a writable connection. -/
theorem handleWrite_forall {content : List UInt8}
    (hP : c.flags &&& openRightWritable ≠ 0 → P (.append content) ∧ P (.writeAt c.seek content)) :
    ∀ op ∈ (handleWrite ans c content).2.2, P op := by
  unfold handleWrite
  split_ifs with hw
  · simp
  · split <;> simpa using (hP (by simpa using hw)).1
  · exact handleWriteAt_forall fun h => (hP h).2

/-- `handle_write` changes only the seek. -/
theorem handleWrite_conn {content : List UInt8} :
    (handleWrite ans c content).2.1 = { c with seek := (handleWrite ans c content).2.1.seek } := by
  unfold handleWrite
  split_ifs
  · rfl
  · split <;> rfl
  · rfl

/-- `handle_seek` calls at most `get_size`. -/
theorem handleSeek_forall {offset : BitVec 64} {origin : SeekOrigin} (hP : P .getSize) :
    ∀ op ∈ (handleSeek ans c offset origin).2.2, P op := by
  have hops : ∀ op ∈ (seekTarget ans c offset origin).2.2, P op := by
    unfold seekTarget
    split
    · simp
    · simp
    · split <;> simpa using hP
  unfold handleSeek
  dsimp only
  split_ifs
  · simp
  · exact hops
  · exact hops

/-- `handle_seek` changes only the seek. -/
theorem handleSeek_conn {offset : BitVec 64} {origin : SeekOrigin} :
    (handleSeek ans c offset origin).2.1 =
      { c with seek := (handleSeek ans c offset origin).2.1.seek } := by
  unfold handleSeek
  dsimp only
  split_ifs <;> rfl

theorem writableCall_forall {op : FileOperation} {answer : Except Status Unit}
    (hP : c.flags &&& openRightWritable ≠ 0 → P op) : ∀ o ∈ (writableCall c op answer).2, P o := by
  unfold writableCall
  split_ifs with hw
  · simp
  · simpa using hP (by simpa using hw)

theorem handleGetBuffer_forall {flags : BitVec 32} (hP : P (.getBuffer flags)) :
    ∀ op ∈ (handleGetBuffer env ans c flags).2, P op := by
  unfold handleGetBuffer
  split <;> simp [hP]

theorem OpenFile.close_forall {f : OpenFile} {answer : Except Status Unit} (hP : P .close) :
    ∀ op ∈ (f.close answer).2.2, P op := by
  unfold OpenFile.close
  split_ifs <;> simp [hP]

end

end FileConnection

/-- How the request loop ended: no further request (the stream ended, a message failed to
decode, or the shutdown signal fired), `Closed`, `Dropped`, or a panic. -/
inductive LoopEnd
  | noRequest
  | closed
  | dropped
  | panicked
  deriving DecidableEq, Repr

namespace FileConnection

/-! ## The request loop and the whole connection -/

/-- `FileConnection::handle_requests` (`io1.rs:176`) over the requests that arrive, each with the
answers it gets: the connection when the loop ends, the calls made on the backing file, and how
the loop ended. -/
def handleRequests (env : FileEnv) :
    FileConnection → List (FileRequest × FileAnswers) → FileConnection × List FileOperation × LoopEnd
  | c, [] => (c, [], .noRequest)
  | c, (req, ans) :: rest =>
    match handleRequest env ans c req with
    | .panic ops => (c, ops, .panicked)
    | .outcome o =>
      match o.state with
      | .alive =>
        let r := handleRequests env o.conn rest
        (r.1, o.ops ++ r.2.1, r.2.2)
      | .closed => (o.conn, o.ops, .closed)
      | .dropped => (o.conn, o.ops, .dropped)

/-- What the backing file and the channel answer while a connection is created: `File::open`,
the `truncate(0)` of `OPEN_FLAG_TRUNCATE`, `describe`, turning the channel into a request
stream, and sending `OnOpen`. -/
structure OpenAnswers where
  fileOpen : Except Status Unit
  truncate : Except Status Unit
  describe : Except Status Unit
  intoStream : Bool
  sendOnOpen : Bool

/-- `FileConnection::create_connection_async` (`io1.rs:102`) up to its request loop: the
connection it goes on to serve, the calls made on the backing file, and the status an `OnOpen`
reports. The `OpenFile` is made first, so every early return drops it. -/
def createConnectionAsync (env : FileEnv) (ans : OpenAnswers) (flags : BitVec 32) :
    Option FileConnection × List FileOperation × Option Status :=
  let file : OpenFile := ⟨false⟩
  match env.newConnectionValidateFlags flags with
  | .error status => (none, file.drop, some status)
  | .ok flags =>
    match ans.fileOpen with
    | .error status => (none, .init flags :: file.drop, some status)
    | .ok () =>
      let truncate := flags &&& openFlagTruncate != 0
      let describe := flags &&& openFlagDescribe != 0
      let ops := FileOperation.init flags :: if truncate then [.truncate 0] else []
      match (if truncate then ans.truncate else .ok ()),
        (if describe then ans.describe else .ok ()) with
      | .error status, _ => (none, ops ++ file.drop, some status)
      | .ok (), .error status => (none, ops ++ file.drop, some status)
      | .ok (), .ok () =>
        if !ans.intoStream || describe && !ans.sendOnOpen then (none, ops ++ file.drop, none)
        else (some ⟨file, flags, 0⟩, ops, if describe then some .ok else none)

/-- A whole connection: created, then serving the requests that arrive, then dropped, which
drops its `OpenFile`. A panic is taken to end the task without running the drop. The calls made
on the backing file, and how the request loop ended if it ran. -/
def lifetime (env : FileEnv) (ans : OpenAnswers) (flags : BitVec 32)
    (reqs : List (FileRequest × FileAnswers)) : List FileOperation × Option LoopEnd :=
  match createConnectionAsync env ans flags with
  | (none, ops, _) => (ops, none)
  | (some c, ops, _) =>
    let r := handleRequests env c reqs
    (ops ++ r.2.1 ++ (if r.2.2 = .panicked then [] else r.1.file.drop), some r.2.2)

end FileConnection

end FuchsiaVfs
