import FuchsiaVfs.Io

/-!
# Relative paths

`path.rs` is not under `src/`; the connections only use `Path::validate_and_split`, `is_dir`,
`next` and `is_empty`, and these are modelled from the spec: a path is split at `/` into its
components, a trailing `/` marks a directory, and empty, `.` and `..` components are refused
("rejects paths containing "." / ".." segments at the validation stage").
-/

namespace FuchsiaVfs

/-- Modelled from the spec: a validated relative path (`path.rs`, not under `src/`), the
components not yet consumed and whether it named a directory with a trailing `/`. -/
structure Path where
  components : List String
  isDir : Bool
  deriving DecidableEq, Repr

namespace Path

/-- Modelled from the spec: `Path::validate_and_split` (`path.rs`, not under `src/`). -/
def validateAndSplit (path : String) : Except Status Path :=
  let isDir := path.endsWith "/"
  let parts := path.splitOn "/"
  let parts := if isDir then parts.dropLast else parts
  if parts.any (fun c => c.isEmpty || c == "." || c == "..") then .error .badPath
  else .ok ⟨parts, isDir⟩

/-- Modelled from the spec: `Path::next`, the next component and the rest of the path. -/
def next (p : Path) : Option (String × Path) :=
  match p.components with
  | [] => none
  | c :: rest => some (c, { p with components := rest })

/-- Modelled from the spec: `Path::is_empty`, no component left. -/
def isEmpty (p : Path) : Bool := p.components.isEmpty

end Path

end FuchsiaVfs
