import FuchsiaVfs.Io
import FuchsiaVfs.Flags
import FuchsiaVfs.Path
import FuchsiaVfs.Directory.Connection
import FuchsiaVfs.Directory.Dirents
import FuchsiaVfs.Filesystem.Rename
import FuchsiaVfs.Filesystem.Locks
import FuchsiaVfs.Directory.System
import FuchsiaVfs.Directory.Invariants
import FuchsiaVfs.Directory.Tokens
import FuchsiaVfs.File.Connection
import FuchsiaVfs.File.Rights
import FuchsiaVfs.File.Seek
import FuchsiaVfs.File.Lifetime
import FuchsiaVfs.Remote
