import FuchsiaVfs.Path
import FuchsiaVfs.Directory.Dirents

/-!
# The remote forwarding node

`remote.rs`: a `Remote` forwards an open to the routing function it was built with, unless the
open asks for the node itself (`OPEN_FLAG_NODE_REFERENCE`) or for no remote
(`OPEN_FLAG_NO_REMOTE`). Such an open must come with an empty path and gets a connection to the
local node, with `OPEN_FLAG_NO_REMOTE` turned into `OPEN_FLAG_NODE_REFERENCE`. The routing
function and the service connection the local node gets (`service/connection/io1.rs`) are not
under `src/`, so no request of the modelled connections reaches a remote.
-/

namespace FuchsiaVfs

open BitVec

/-- `OPEN_FLAG_NO_REMOTE = 0x00200000`. -/
def openFlagNoRemote : BitVec 32 := 0x00200000#32

/-- `fuchsia.io` `INO_UNKNOWN = u64::MAX`. -/
def inoUnknown : BitVec 64 := 0xFFFFFFFFFFFFFFFF#64

/-- A `Remote` node (`remote.rs:79`); of its routing function only what it is called with is
modelled (`RemoteOpen.remote`). -/
structure Remote where
  direntType : UInt8
  deriving DecidableEq, Repr

/-- `remote_boxed` (`remote.rs:43`): a remote of unknown type. -/
def remoteBoxed : Remote := ⟨direntTypeUnknown⟩

/-- `remote_dir` (`remote.rs:61`): a remote that forwards to a directory. -/
def remoteDir : Remote := ⟨direntTypeDirectory⟩

/-- `Remote::entry_info` (`remote.rs:136`); `none` is `EntryInfo::new`'s panic on a type it does
not know. -/
def Remote.entryInfo (r : Remote) : Option EntryInfo :=
  EntryInfo.new inoUnknown r.direntType

/-- Where `Remote::open` sends an open. -/
inductive RemoteOpen
  /-- `send_on_open_with_error(flags, server_end, status)`. -/
  | error (flags : BitVec 32) (status : Status)
  /-- `open_as_node`: a connection to the local node. -/
  | node (flags mode : BitVec 32)
  /-- `open_as_remote`: the routing function, called with the open as it is. -/
  | remote (flags mode : BitVec 32) (path : Path)
  deriving DecidableEq, Repr

/-- `Remote::open` (`remote.rs:113`). -/
def Remote.«open» (flags mode : BitVec 32) (path : Path) : RemoteOpen :=
  if flags &&& openFlagNodeReference != 0 || flags &&& openFlagNoRemote != 0 then
    if !path.isEmpty then .error flags .badPath
    else
      let flags := if flags &&& openFlagNoRemote != 0 then
        flags &&& ~~~openFlagNoRemote ||| openFlagNodeReference else flags
      .node flags mode
  else .remote flags mode path

end FuchsiaVfs
