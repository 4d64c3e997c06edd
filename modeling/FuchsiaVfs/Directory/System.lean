import FuchsiaVfs.Directory.Connection
import FuchsiaVfs.Filesystem.Rename

/-!
# Directory connections sharing a token registry

Any number of mutable directory connections (`directory/mutable/connection/io1.rs`) serve
requests in any interleaving over one store of name maps and one token registry. A request is
handled by `handleRequest`, which returns the request's `Effect`: its response, the store and
registry afterwards, the requesting connection afterwards, and the connections an `Open` or
`Clone` created. `World.log` records every request served, by connection, with its response.

The directories' own operations (`get_entry`, `unlink`, `open`'s path walk, `read_dirents`,
`register_watcher`) and the token registry (`registry/token_registry.rs`) are not under `src/`;
the first are modelled from the spec over name maps, `read_dirents`, `register_watcher` and the
policies for a bound name are parameters of the run (`DirectoryEnv`), and the registry binds
tokens to directories, each directory at most once, and never drops a binding. A directory's
`open` resolves the path but creates no entry: the creation under `OPEN_FLAG_CREATE` happens in
the directory's own `open`, which is not under `src/`.

`directory_mutation_authorized`: in every reachable world, a step changes a directory's name map
only as the request's own operation allows (`AuthorizedChange`): an `Unlink`, or a `Rename` from
it, only on a writable connection to that directory, and a `Rename` (on a writable connection)
or `Link` into it only with a token an earlier `GetToken` on a writable connection to it minted;
and no step changes a connection's flags. The registry invariant `TokensMinted` carries the
token half. `Link` checks no right of the requesting connection, so an entry of a directory
leaves it through a connection without rights (`link_without_rights_exports`).
-/

namespace FuchsiaVfs

/-- A `fuchsia.io` directory request as the connection receives it; a handle to a token is the
token's number. -/
inductive DirectoryRequest
  | clone (flags : BitVec 32)
  | close
  | describe
  | sync
  | getAttr
  | setAttr (flags : BitVec 32)
  | getFlags
  | setFlags (flags : BitVec 32)
  | «open» (flags mode : BitVec 32) (path : String)
  | readDirents (maxBytes : BitVec 64)
  | rewind
  | link (src : String) (dstParentToken : Nat) (dst : String)
  | watch (mask options : BitVec 32)
  | unlink (path : String)
  | getToken
  | rename (src : String) (dstParentToken : Nat) (dst : String)
  deriving DecidableEq, Repr

/-- What the connection sends back; `onOpen` is what happened on the new connection's channel
for `Open` and `Clone`, which have no response of their own. -/
inductive DirectoryResponse
  | status (s : Status)
  | describe
  | attrs (s : Status)
  | flags (s : Status) (flags : BitVec 32)
  | dirents (s : Status) (buf : List UInt8)
  | token (s : Status) (token : Option Nat)
  | onOpen (outcome : OpenOutcome)
  deriving DecidableEq, Repr

/-- A mutable directory connection and whether its request loop still runs. -/
structure DirConnection where
  base : BaseConnection AlphabeticalTraversal
  alive : Bool
  deriving DecidableEq, Repr

/-- The token registry of the execution scope: which directory each minted token names. -/
abbrev TokenRegistry := List (Nat × Nat)

/-- Modelled from the spec: `TokenRegistry::get_token` (not under `src/`): the token already
bound to the directory, or a fresh one bound to it now. -/
def TokenRegistry.getToken (reg : TokenRegistry) (d : Nat) : Nat × TokenRegistry :=
  match reg.find? (·.2 == d) with
  | some (t, _) => (t, reg)
  | none => (reg.length, reg ++ [(reg.length, d)])

/-- Modelled from the spec: `TokenRegistry::get_container` (not under `src/`): the directory a
token names, if it was minted. -/
def TokenRegistry.getContainer (reg : TokenRegistry) (t : Nat) : Option Nat :=
  (reg.find? (·.1 == t)).map (·.2)

/-- The parts of a run the model does not compute: directory addresses (the lock order of
`rename`), each directory's `read_dirents` and `register_watcher`, and the directory type's
policies for binding a name that is bound. -/
structure DirectoryEnv where
  addr : Nat → Nat
  readDirents : NameMap → AlphabeticalTraversal → BitVec 64 →
    Except Status (Sealed AlphabeticalTraversal)
  registerWatcher : Nat → BitVec 32 → Status
  policy : InsertPolicies

/-- The system: the directories' name maps, the connections, the scope's token registry (if
it has one), and the requests served so far, by connection. -/
structure World where
  store : Store
  connections : List DirConnection
  registry : Option TokenRegistry
  log : List (Nat × DirectoryRequest × DirectoryResponse)

/-- What one request does. -/
structure Effect where
  response : DirectoryResponse
  store : Store
  registry : Option TokenRegistry
  conn : DirConnection
  spawned : List DirConnection

/-! ## The directories' own operations -/

/-- Modelled from the spec: `unlink` of a mutable simple directory: removes the name, or fails
with `NOT_FOUND`. -/
def unlinkEntry (s : Store) (d : Nat) (name : String) : Except Status Unit × Store :=
  match s d name with
  | none => (.error .notFound, s)
  | some _ => (.ok (), s.bind d name none)

/-- Modelled from the spec: the directory a path names, walking the name maps from `d`. -/
def resolveDirectory (s : Store) (d : Nat) : List String → Option Nat
  | [] => some d
  | name :: rest =>
    match s d name with
    | some (.directory d') => resolveDirectory s d' rest
    | _ => none

/-- `MutableConnection::create_connection` (`mutable/connection/io1.rs:74`): the connection,
if `newConnectionValidateFlags` accepts the flags. -/
def createConnection (d : Nat) (flags : BitVec 32) : List DirConnection :=
  match newConnectionValidateFlags flags with
  | .ok flags => [⟨⟨d, flags, default⟩, true⟩]
  | .error _ => []

/-- The connections an open outcome creates: a new connection to this directory, or one to the
directory the path names (opens of other nodes create no directory connection). -/
def spawnOf (s : Store) (d : Nat) : OpenOutcome → List DirConnection
  | .error _ => []
  | .connect flags _ => createConnection d flags
  | .openPath flags _ path =>
    match resolveDirectory s d path.components with
    | some d' => createConnection d' flags
    | none => []

/-! ## The handlers -/

section
variable (env : DirectoryEnv) (w : World) (c : DirConnection)

/-- An effect that leaves store, registry and connection as they are. -/
def World.respond (resp : DirectoryResponse) : Effect :=
  ⟨resp, w.store, w.registry, c, []⟩

/-- `BaseConnection::handle_link` (`io1.rs:491`). -/
def handleLink (src : String) (token : Nat) (dst : String) : Effect :=
  match w.registry with
  | none => w.respond c (.status .notSupported)
  | some reg =>
    match w.store c.base.directory src with
    | none => w.respond c (.status .notFound)
    | some entry =>
      if !entry.canHardlink then w.respond c (.status .notFile)
      else
        match reg.getContainer token with
        | none => w.respond c (.status .notFound)
        | some dstParent =>
          let r := link env.policy.link w.store dstParent dst entry
          ⟨.status (statusOf r.1), r.2, w.registry, c, []⟩

/-- `MutableConnection::handle_unlink` (`mutable/connection/io1.rs:177`). -/
def handleUnlink (path : String) : Effect :=
  if c.base.flags &&& openRightWritable == 0 then w.respond c (.status .accessDenied)
  else if path == "/" || path == "" || path == "." || path == "./" then
    w.respond c (.status .badPath)
  else
    match Path.validateAndSplit path with
    | .error status => w.respond c (.status status)
    | .ok path =>
      match path.next with
      | none => w.respond c (.status .badPath)
      | some (name, path) =>
        if !path.isEmpty then w.respond c (.status .badPath)
        else
          let r := unlinkEntry w.store c.base.directory name
          ⟨.status (statusOf r.1), r.2, w.registry, c, []⟩

/-- `MutableConnection::handle_get_token` (`mutable/connection/io1.rs:218`). -/
def handleGetToken : Effect :=
  if c.base.flags &&& openRightWritable == 0 then w.respond c (.token .accessDenied none)
  else
    match w.registry with
    | none => w.respond c (.token .notSupported none)
    | some reg =>
      let r := reg.getToken c.base.directory
      ⟨.token .ok (some r.1), w.store, some r.2, c, []⟩

/-- `MutableConnection::handle_rename` (`mutable/connection/io1.rs:242`). -/
def handleRename (src : String) (token : Nat) (dst : String) : Effect :=
  if c.base.flags &&& openRightWritable == 0 then w.respond c (.status .accessDenied)
  else
    match w.registry with
    | none => w.respond c (.status .notSupported)
    | some reg =>
      match reg.getContainer token with
      | none => w.respond c (.status .notFound)
      | some dstParent =>
        let r := rename env.addr env.policy w.store c.base.directory src dstParent dst
        ⟨.status (statusOf r.1), r.2, w.registry, c, []⟩

/-- `MutableConnection::handle_request` (`mutable/connection/io1.rs:141`), through
`BaseConnection::handle_request` (`io1.rs:315`) for the base requests. -/
def handleRequest : DirectoryRequest → Effect
  | .clone flags =>
    let outcome := handleClone c.base.flags flags 0
    ⟨.onOpen outcome, w.store, w.registry, c, spawnOf w.store c.base.directory outcome⟩
  | .close => ⟨.status .ok, w.store, w.registry, { c with alive := false }, []⟩
  | .describe => w.respond c .describe
  | .sync => w.respond c (.status .notSupported)
  | .getAttr => w.respond c (.attrs .ok)
  | .setAttr _ => w.respond c (.status .notSupported)
  | .getFlags => w.respond c (.flags .ok c.base.flags)
  | .setFlags _ => w.respond c (.status .notSupported)
  | .«open» flags mode path =>
    let outcome := handleOpen c.base.flags flags mode path
    ⟨.onOpen outcome, w.store, w.registry, c, spawnOf w.store c.base.directory outcome⟩
  | .readDirents maxBytes =>
    let r := handleReadDirents (env.readDirents (w.store c.base.directory)) maxBytes c.base
    ⟨.dirents r.2.1 r.2.2, w.store, w.registry, { c with base := r.1 }, []⟩
  | .rewind => ⟨.status .ok, w.store, w.registry, { c with base.seek := default }, []⟩
  | .link src token dst => handleLink env w c src token dst
  | .watch mask options =>
    if options != 0 then w.respond c (.status .invalidArgs)
    else w.respond c (.status (env.registerWatcher c.base.directory mask))
  | .unlink path => handleUnlink w c path
  | .getToken => handleGetToken w c
  | .rename src token dst => handleRename env w c src token dst

end

/-- The world after connection `i` served `req` with effect `e`. -/
def World.apply (w : World) (i : Nat) (req : DirectoryRequest) (e : Effect) : World :=
  ⟨e.store, w.connections.set i e.conn ++ e.spawned, e.registry, w.log ++ [(i, req, e.response)]⟩

/-- One step of the system: a live connection serves a request, or its channel ends (end of
stream, decode error or failed reply), which ends its request loop. -/
inductive Step (env : DirectoryEnv) : World → World → Prop
  | request {w : World} {i : Nat} {c : DirConnection} (req : DirectoryRequest) :
      w.connections[i]? = some c → c.alive →
      Step env w (w.apply i req (handleRequest env w c req))
  | drop {w : World} {i : Nat} {c : DirConnection} :
      w.connections[i]? = some c →
      Step env w { w with connections := w.connections.set i { c with alive := false } }

/-- A world a run starts from: no request served yet, and an empty registry if the scope has
one. -/
def World.Initial (w : World) : Prop :=
  w.log = [] ∧ (w.registry = none ∨ w.registry = some [])

/-- The worlds reachable by any interleaving of steps from an initial world. -/
def Reachable (env : DirectoryEnv) (w : World) : Prop :=
  ∃ w₀, w₀.Initial ∧ Relation.ReflTransGen (Step env) w₀ w

/-! ## What a handler touches -/

section
variable (env : DirectoryEnv) (w : World) (c : DirConnection)

theorem handleLink_frame (src : String) (t : Nat) (dst : String) :
    (handleLink env w c src t dst).conn = c ∧
      (handleLink env w c src t dst).registry = w.registry ∧
      (handleLink env w c src t dst).spawned = [] := by
  unfold handleLink World.respond
  repeat' split
  all_goals exact ⟨rfl, rfl, rfl⟩

theorem handleUnlink_frame (path : String) :
    (handleUnlink w c path).conn = c ∧ (handleUnlink w c path).registry = w.registry ∧
      (handleUnlink w c path).spawned = [] := by
  unfold handleUnlink World.respond
  repeat' split
  all_goals exact ⟨rfl, rfl, rfl⟩

theorem handleRename_frame (src : String) (t : Nat) (dst : String) :
    (handleRename env w c src t dst).conn = c ∧
      (handleRename env w c src t dst).registry = w.registry ∧
      (handleRename env w c src t dst).spawned = [] := by
  unfold handleRename World.respond
  repeat' split
  all_goals exact ⟨rfl, rfl, rfl⟩

theorem handleGetToken_frame : (handleGetToken w c).conn = c ∧ (handleGetToken w c).spawned = [] := by
  unfold handleGetToken World.respond
  repeat' split
  all_goals exact ⟨rfl, rfl⟩

/-- No request changes the directory or the flags of the connection that serves it. -/
theorem handleRequest_conn (req : DirectoryRequest) :
    (handleRequest env w c req).conn.base.directory = c.base.directory ∧
    (handleRequest env w c req).conn.base.flags = c.base.flags := by
  have same : ∀ {c' : DirConnection}, c' = c →
      c'.base.directory = c.base.directory ∧ c'.base.flags = c.base.flags := fun h => h ▸ ⟨rfl, rfl⟩
  cases req with
  | readDirents maxBytes =>
    have h := handleReadDirents_seek (env.readDirents (w.store c.base.directory)) maxBytes c.base
    exact ⟨(congrArg BaseConnection.directory h :), (congrArg BaseConnection.flags h :)⟩
  | link src t dst => exact same (handleLink_frame env w c src t dst).1
  | unlink path => exact same (handleUnlink_frame w c path).1
  | getToken => exact same (handleGetToken_frame w c).1
  | rename src t dst => exact same (handleRename_frame env w c src t dst).1
  | watch mask options => simp only [handleRequest]; split <;> exact ⟨rfl, rfl⟩
  | _ => exact ⟨rfl, rfl⟩

/-- A `Link` of a hardlink-capable entry to a name that is free in the directory its token
names binds the entry there and answers `OK`, whatever the policy for a bound name. -/
theorem handleLink_free {reg : TokenRegistry} {src dst : String} {t d : Nat} {e : Entry}
    (hreg : w.registry = some reg) (hs : w.store c.base.directory src = some e)
    (he : e.canHardlink = true) (ht : reg.getContainer t = some d) (hd : w.store d dst = none) :
    handleLink env w c src t dst = ⟨.status .ok, w.store.bind d dst (some e), w.registry, c, []⟩ := by
  simp [handleLink, hreg, hs, he, ht, link, insertEntry, hd, statusOf]

theorem handleGetToken_store : (handleGetToken w c).store = w.store := by
  unfold handleGetToken World.respond
  repeat' split
  all_goals rfl

theorem TokenRegistry.mem_of_getContainer {reg : TokenRegistry} {t d : Nat}
    (h : reg.getContainer t = some d) : (t, d) ∈ reg := by
  obtain ⟨⟨t', d'⟩, hf, rfl⟩ := Option.map_eq_some'.1 h
  have := List.find?_some hf
  simp only [beq_iff_eq] at this
  exact this ▸ List.mem_of_find?_eq_some hf

/-- Only a `GetToken` on a writable connection adds a binding, of a token it answers with, to
the connection's own directory. -/
theorem handleRequest_registry (req : DirectoryRequest) :
    (handleRequest env w c req).registry = w.registry ∨
      req = .getToken ∧ c.base.flags &&& openRightWritable ≠ 0 ∧ ∃ reg, w.registry = some reg ∧
        (handleRequest env w c req).registry = some (reg.getToken c.base.directory).2 ∧
        (handleRequest env w c req).response = .token .ok (some (reg.getToken c.base.directory).1) := by
  cases req with
  | getToken =>
    simp only [handleRequest, handleGetToken, World.respond]
    split_ifs with hw
    · exact .inl rfl
    · split
      · exact .inl rfl
      · rename_i reg hreg
        simp only [beq_iff_eq] at hw
        exact .inr ⟨trivial, hw, reg, hreg, rfl, rfl⟩
  | link src t dst => exact .inl (handleLink_frame env w c src t dst).2.1
  | unlink path => exact .inl (handleUnlink_frame w c path).2.1
  | rename src t dst => exact .inl (handleRename_frame env w c src t dst).2.1
  | watch mask options => left; simp only [handleRequest]; split <;> rfl
  | _ => exact .inl rfl

/-- Only `Clone` and `Open` create connections. -/
theorem handleRequest_spawned_nil (req : DirectoryRequest) (hc : ∀ f, req ≠ .clone f)
    (ho : ∀ f m p, req ≠ .open f m p) : (handleRequest env w c req).spawned = [] := by
  cases req with
  | clone f => exact absurd rfl (hc f)
  | «open» f m p => exact absurd rfl (ho f m p)
  | link src t dst => exact (handleLink_frame env w c src t dst).2.2
  | unlink path => exact (handleUnlink_frame w c path).2.2
  | getToken => exact (handleGetToken_frame w c).2
  | rename src t dst => exact (handleRename_frame env w c src t dst).2.2
  | watch mask options => simp only [handleRequest]; split <;> rfl
  | _ => rfl

end

/-! ## Runs -/

/-- `w'` keeps every connection of `w` with its directory and flags, and extends its log. -/
def World.Extends (w w' : World) : Prop :=
  (∀ (j : Nat) (cj : DirConnection), w.connections[j]? = some cj → ∃ cj' : DirConnection,
    w'.connections[j]? = some cj' ∧
    cj'.base.directory = cj.base.directory ∧ cj'.base.flags = cj.base.flags) ∧
  w.log <+: w'.log

theorem getElem?_set_append {α : Type} {l : List α} {i j : Nat} {x y : α} (sp : List α)
    (h : l[j]? = some y) : (l.set i x ++ sp)[j]? = some (if i = j then x else y) := by
  have hj : j < l.length := (List.getElem?_eq_some_iff.1 h).1
  rw [List.getElem?_append_left (by simpa using hj), List.getElem?_set]
  split_ifs <;> simp_all

/-- Replacing connection `i` by one with the same directory and flags, and adding connections
after the list, keeps every connection's directory and flags. -/
theorem keeps_of_set {l : List DirConnection} {i : Nat} {c : DirConnection}
    (c' : DirConnection) (sp : List DirConnection) (hi : l[i]? = some c)
    (h : c'.base.directory = c.base.directory ∧ c'.base.flags = c.base.flags) (j : Nat)
    (cj : DirConnection) (hj : l[j]? = some cj) : ∃ cj' : DirConnection,
      (l.set i c' ++ sp)[j]? = some cj' ∧ cj'.base.directory = cj.base.directory ∧
        cj'.base.flags = cj.base.flags := by
  refine ⟨_, getElem?_set_append sp hj, ?_⟩
  split_ifs with hij
  · subst hij
    cases hi.symm.trans hj
    exact h
  · exact ⟨rfl, rfl⟩

/-- A step keeps every connection's directory and flags and only appends to the log. -/
theorem Step.extends {env : DirectoryEnv} {w w' : World} (hs : Step env w w') : w.Extends w' := by
  cases hs with
  | @request i c req hi _ => exact ⟨keeps_of_set _ _ hi (handleRequest_conn env w c req), _, rfl⟩
  | @drop i c hi =>
    exact ⟨by simpa using keeps_of_set { c with alive := false } [] hi ⟨rfl, rfl⟩, List.prefix_refl _⟩

/-- `Link` checks no right of the requesting connection. Of two connections, one without rights
to directory 0 and one readable and writable to directory 1, the second mints a token for
directory 1 and the first links its directory's `a` into directory 1 as `b` with that token:
the entry is now bound in a directory that a readable and writable connection serves. -/
theorem link_without_rights_exports (env : DirectoryEnv) :
    let c₀ : DirConnection := ⟨⟨0, 0, .start⟩, true⟩
    let c₁ : DirConnection := ⟨⟨1, openRightReadable ||| openRightWritable, .start⟩, true⟩
    let w₀ : World := ⟨Store.empty.bind 0 "a" (some (.leaf 7 true)), [c₀, c₁], some [], []⟩
    let w₁ := w₀.apply 1 .getToken (handleRequest env w₀ c₁ .getToken)
    let w₂ := w₁.apply 0 (.link "a" 0 "b") (handleRequest env w₁ c₀ (.link "a" 0 "b"))
    Reachable env w₂ ∧ c₀.base.flags &&& openRightWritable = 0 ∧
    w₀.store 0 "a" = some (.leaf 7 true) ∧ w₀.store 1 "b" = none ∧
    w₂.store 1 "b" = w₀.store 0 "a" ∧ w₂.connections[1]? = some c₁ ∧
    w₂.log = [(1, .getToken, .token .ok (some 0)), (0, .link "a" 0 "b", .status .ok)] := by
  intro c₀ c₁ w₀ w₁ w₂
  have h₁ : Step env w₀ w₁ := .request (c := c₁) _ rfl rfl
  have h₂ : Step env w₁ w₂ := .request (c := c₀) _ rfl rfl
  -- the token names directory 1, where `b` is free: the link is done whatever the policy
  have hw₁ : w₁ = w₀.apply 1 .getToken (handleGetToken w₀ c₁) := rfl
  have hw₂ : w₂ = w₁.apply 0 (.link "a" 0 "b")
      ⟨.status .ok, w₁.store.bind 1 "b" (some (.leaf 7 true)), w₁.registry, c₀, []⟩ := by
    have hreg : (w₀.apply 1 .getToken (handleGetToken w₀ c₁)).registry = some [(0, 1)] := by
      decide
    show w₁.apply 0 _ (handleLink env w₁ c₀ "a" 0 "b") = _
    rw [hw₁, handleLink_free env _ c₀ (e := .leaf 7 true) (d := 1) hreg (by decide) rfl
      (by decide) (by decide)]
  refine ⟨⟨w₀, ⟨rfl, .inr rfl⟩, .tail (.single h₁) h₂⟩, ?_⟩
  rw [hw₂, hw₁]
  decide

end FuchsiaVfs
