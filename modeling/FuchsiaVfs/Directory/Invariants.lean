import FuchsiaVfs.Directory.System

/-!
# Invariants of every reachable world

Three facts hold in every world that any interleaving of requests over any number of directory
connections reaches, from a start where they hold.

No entry that cannot be hardlinked is bound twice (`no_hardlinks_reachable`). `handle_link`
refuses an entry whose `can_hardlink` is false: every directory, and any other node that says so.
Every branch of `SimpleFilesystem::rename` removes the source binding before it binds the entry
at the destination, whatever the policy for a bound name. So no directory is ever aliased. The
proof is layered as the store is written: one lemma for unbinding a name and one for binding an
entry that is hardlink-capable or bound nowhere, then one per primitive, then one per handler.

Every connection holds a flag word that `new_connection_validate_flags` returned
(`connections_validated`). A request never changes a connection's flags, and every connection
an `Open` or a `Clone` creates goes through `create_connection`, which validates its flags. So
no connection ever holds `OPEN_FLAG_APPEND`, `OPEN_FLAG_TRUNCATE` or a POSIX flag.

Rights only narrow (`rights_only_narrow`): a connection an `Open` or a `Clone` creates holds no
right the connection that served the request lacks, so every connection holds no right that a
connection the run started with lacks. The child path soft-fails the POSIX flags in
`check_child_connection_flags`, the clone path in `inheritRightsForClone`.
-/

namespace FuchsiaVfs

/-- Every entry that cannot be hardlinked is bound under at most one name of one directory. -/
def Store.NoHardlinks (s : Store) : Prop :=
  ∀ e : Entry, e.canHardlink = false → ∀ d₁ n₁ d₂ n₂, s d₁ n₁ = some e → s d₂ n₂ = some e →
    d₁ = d₂ ∧ n₁ = n₂

namespace Store.NoHardlinks

variable {s : Store}

/-- Unbinding a name. -/
theorem bind_none (h : s.NoHardlinks) (d : Nat) (name : String) :
    (s.bind d name none).NoHardlinks := by
  intro e he d₁ n₁ d₂ n₂ h₁ h₂
  simp only [Store.bind_apply] at h₁ h₂
  split_ifs at h₁ h₂
  exact h e he d₁ n₁ d₂ n₂ h₁ h₂

/-- Binding an entry that is hardlink-capable or bound nowhere. -/
theorem bind_some (h : s.NoHardlinks) {d : Nat} {name : String} {e : Entry}
    (hfresh : e.canHardlink = false → ∀ d' n', s d' n' ≠ some e) :
    (s.bind d name (some e)).NoHardlinks := by
  intro e' he' d₁ n₁ d₂ n₂ h₁ h₂
  simp only [Store.bind_apply] at h₁ h₂
  split_ifs at h₁ h₂ with hb₁ hb₂ hb₂
  · exact ⟨hb₁.1.trans hb₂.1.symm, hb₁.2.trans hb₂.2.symm⟩
  · cases h₁
    exact (hfresh he' _ _ h₂).elim
  · cases h₂
    exact (hfresh he' _ _ h₁).elim
  · exact h e' he' _ _ _ _ h₁ h₂

/-- Once its one binding is removed, an entry that cannot be hardlinked is bound nowhere. -/
theorem unbound_of_bind_none (h : s.NoHardlinks) {d : Nat} {name : String} {e : Entry}
    (hs : s d name = some e) (he : e.canHardlink = false) (d' : Nat) (n' : String) :
    s.bind d name none d' n' ≠ some e := by
  intro h'
  simp only [Store.bind_apply] at h'
  split_ifs at h' with hb
  exact hb (h e he d' n' d name h' hs)

/-! ## The primitives -/

/-- Binding an entry that is hardlink-capable or bound nowhere, under any policy. -/
theorem insertEntry (h : s.NoHardlinks) (p : BoundPolicy) {d : Nat} {name : String} {e : Entry}
    (hfresh : e.canHardlink = false → ∀ d' n', s d' n' ≠ some e) :
    (FuchsiaVfs.insertEntry p s d name e).2.NoHardlinks := by
  unfold FuchsiaVfs.insertEntry
  split
  · exact h
  · exact h.bind_some hfresh

theorem unlinkEntry (h : s.NoHardlinks) (d : Nat) (name : String) :
    (FuchsiaVfs.unlinkEntry s d name).2.NoHardlinks := by
  unfold FuchsiaVfs.unlinkEntry
  split
  · exact h
  · exact h.bind_none d name

/-- Every branch of `rename` is a move: it removes the source binding, then binds the entry it
removed. -/
theorem rename (h : s.NoHardlinks) (addr : Nat → Nat) (pol : InsertPolicies) (srcDir : Nat)
    (src : String) (dstDir : Nat) (dst : String) :
    (FuchsiaVfs.rename addr pol s srcDir src dstDir dst).2.NoHardlinks := by
  rw [rename_eq_moveEntry_ite]
  unfold moveEntry
  cases hs : s srcDir src with
  | none => exact h
  | some e => exact (h.bind_none srcDir src).insertEntry _ fun he => h.unbound_of_bind_none hs he

end Store.NoHardlinks

/-! ## The handlers -/

section
variable (env : DirectoryEnv) (w : World) (c : DirConnection)

/-- `Link` binds only an entry that is hardlink-capable. -/
theorem handleLink_noHardlinks (h : w.store.NoHardlinks) (src : String) (t : Nat) (dst : String) :
    (handleLink env w c src t dst).store.NoHardlinks := by
  unfold handleLink World.respond
  repeat' split
  all_goals first | exact h | exact h.insertEntry _ fun he => by simp_all

theorem handleUnlink_noHardlinks (h : w.store.NoHardlinks) (path : String) :
    (handleUnlink w c path).store.NoHardlinks := by
  unfold handleUnlink World.respond
  repeat' split
  all_goals first | exact h | exact h.unlinkEntry _ _

theorem handleRename_noHardlinks (h : w.store.NoHardlinks) (src : String) (t : Nat)
    (dst : String) : (handleRename env w c src t dst).store.NoHardlinks := by
  unfold handleRename World.respond
  repeat' split
  all_goals first | exact h | exact h.rename _ _ _ _ _ _

theorem handleRequest_noHardlinks (h : w.store.NoHardlinks) (req : DirectoryRequest) :
    (handleRequest env w c req).store.NoHardlinks := by
  cases req with
  | link src t dst => exact handleLink_noHardlinks env w c h src t dst
  | unlink path => exact handleUnlink_noHardlinks w c h path
  | rename src t dst => exact handleRename_noHardlinks env w c h src t dst
  | getToken => exact (handleGetToken_store w c).symm ▸ h
  | watch mask options =>
    simp only [handleRequest]
    split <;> exact h
  | _ => exact h

end

theorem Step.noHardlinks {env : DirectoryEnv} {w w' : World} (hs : Step env w w')
    (h : w.store.NoHardlinks) : w'.store.NoHardlinks := by
  cases hs with
  | request req => exact handleRequest_noHardlinks env w _ h req
  | drop => exact h

/-- Directories are never aliased: from a store where every directory, and every other entry
that cannot be hardlinked, is bound under at most one name of one directory, every interleaving
of requests over any number of connections keeps it so. -/
theorem no_hardlinks_reachable {env : DirectoryEnv} {w₀ w : World}
    (h₀ : w₀.store.NoHardlinks) (hrun : Relation.ReflTransGen (Step env) w₀ w) :
    w.store.NoHardlinks := by
  induction hrun with
  | refl => exact h₀
  | tail _ hs ih => exact hs.noHardlinks ih

/-- `no_hardlinks_reachable` after a refused `Link` of a directory: directory 0 binds `sub` to
directory 1, and a writable connection to directory 0 asks to link `sub` as `copy` into
directory 0 under its own token. -/
theorem no_hardlinks_reachable_link_directory :
    let env : DirectoryEnv := ⟨id, fun _ _ _ => .error .notSupported, fun _ _ => .notSupported,
      ⟨.replace, .replace, .replace⟩⟩
    let c : DirConnection := ⟨⟨0, openRightWritable, .start⟩, true⟩
    let w₀ : World := ⟨Store.empty.bind 0 "sub" (some (.directory 1)), [c], some [(0, 0)], []⟩
    let w₁ := w₀.apply 0 (.link "sub" 0 "copy") (handleRequest env w₀ c (.link "sub" 0 "copy"))
    w₀.store.NoHardlinks ∧ Relation.ReflTransGen (Step env) w₀ w₁ ∧ w₁.store.NoHardlinks := by
  intro env c w₀ w₁
  have h₀ : w₀.store.NoHardlinks := by
    intro e _ d₁ n₁ d₂ n₂ h₁ h₂
    simp only [w₀, Store.bind_apply, Store.empty] at h₁ h₂
    split_ifs at h₁ h₂ with hb₁ hb₂
    exact ⟨hb₁.1.trans hb₂.1.symm, hb₁.2.trans hb₂.2.symm⟩
  have hrun : Relation.ReflTransGen (Step env) w₀ w₁ := .single (.request (c := c) _ rfl rfl)
  exact ⟨h₀, hrun, no_hardlinks_reachable h₀ hrun⟩

/-! ## Every connection's flags passed the validator -/

/-- A flag word `newConnectionValidateFlags` returned. -/
def Validated (flags : BitVec 32) : Prop :=
  ∃ f, newConnectionValidateFlags f = .ok flags

/-- Every connection of the world holds a validated flag word. -/
def World.FlagsValidated (w : World) : Prop :=
  ∀ c ∈ w.connections, Validated c.base.flags

theorem createConnection_validated {d : Nat} {flags : BitVec 32} :
    ∀ c ∈ createConnection d flags, Validated c.base.flags := by
  unfold createConnection
  split
  · next g hg =>
    intro c hc
    rw [List.mem_singleton] at hc
    subst hc
    exact ⟨flags, hg⟩
  · simp

theorem spawnOf_validated (s : Store) (d : Nat) (o : OpenOutcome) :
    ∀ c ∈ spawnOf s d o, Validated c.base.flags := by
  unfold spawnOf
  split
  · simp
  · exact createConnection_validated
  · split
    · exact createConnection_validated
    · simp

/-- Only `Open` and `Clone` create connections, through `create_connection`. -/
theorem handleRequest_spawned_validated (env : DirectoryEnv) (w : World) (c : DirConnection)
    (req : DirectoryRequest) : ∀ c' ∈ (handleRequest env w c req).spawned, Validated c'.base.flags := by
  cases req with
  | clone _ | «open» _ _ _ => exact spawnOf_validated _ _ _
  | _ =>
    rw [handleRequest_spawned_nil env w c _ (fun _ => by simp) (fun _ _ _ => by simp)]
    exact fun _ h => nomatch h

theorem Step.flagsValidated {env : DirectoryEnv} {w w' : World} (hs : Step env w w')
    (h : w.FlagsValidated) : w'.FlagsValidated := by
  cases hs with
  | @request i c req hi _ =>
    intro c' hc'
    rcases List.mem_append.1 hc' with hc' | hc'
    · rcases List.mem_or_eq_of_mem_set hc' with hc' | rfl
      · exact h c' hc'
      · rw [(handleRequest_conn env w c req).2]
        exact h c (List.getElem?_mem hi)
    · exact handleRequest_spawned_validated env w c req c' hc'
  | @drop i c hi =>
    intro c' hc'
    rcases List.mem_or_eq_of_mem_set hc' with hc' | rfl
    · exact h c' hc'
    · exact h c (List.getElem?_mem hi)

/-- Every connection is created through the validator: from a world whose connections hold flag
words `new_connection_validate_flags` returned, every interleaving of requests, `Open` and `Clone`
among them, leaves only such connections, none holding `OPEN_FLAG_APPEND`, `OPEN_FLAG_TRUNCATE`
or a POSIX flag. -/
theorem connections_validated {env : DirectoryEnv} {w₀ w : World} (h₀ : w₀.FlagsValidated)
    (hrun : Relation.ReflTransGen (Step env) w₀ w) :
    ∀ c ∈ w.connections, Validated c.base.flags ∧
      c.base.flags &&& (openFlagAppend ||| openFlagTruncate) = 0 ∧
      c.base.flags &&& (openFlagPosixDeprecated ||| openFlagPosixWritable |||
        openFlagPosixExecutable) = 0 := by
  have hw : w.FlagsValidated := by
    induction hrun with
    | refl => exact h₀
    | tail _ hs ih => exact hs.flagsValidated ih
  intro c hc
  obtain ⟨f, hf⟩ := hw c hc
  obtain ⟨f', -, -, -, -, hg, hp, -⟩ := newConnectionValidateFlags_eq_ok hf
  exact ⟨⟨f, hf⟩, hp, hg ▸ expandPosixRights_and_posix f'⟩

/-- `connections_validated` after a readable connection clones itself with the same rights. -/
theorem connections_validated_clone :
    let env : DirectoryEnv := ⟨id, fun _ _ _ => .error .notSupported, fun _ _ => .notSupported,
      ⟨.replace, .replace, .replace⟩⟩
    let c : DirConnection := ⟨⟨0, openRightReadable, .start⟩, true⟩
    let w₀ : World := ⟨Store.empty, [c], none, []⟩
    let w₁ := w₀.apply 0 (.clone cloneFlagSameRights)
      (handleRequest env w₀ c (.clone cloneFlagSameRights))
    w₀.FlagsValidated ∧ Relation.ReflTransGen (Step env) w₀ w₁ ∧
    ∀ c ∈ w₁.connections, Validated c.base.flags ∧
      c.base.flags &&& (openFlagAppend ||| openFlagTruncate) = 0 ∧
      c.base.flags &&& (openFlagPosixDeprecated ||| openFlagPosixWritable |||
        openFlagPosixExecutable) = 0 := by
  intro env c w₀ w₁
  have h₀ : w₀.FlagsValidated := by
    intro c' hc'
    rw [List.mem_singleton] at hc'
    subst hc'
    exact ⟨openRightReadable, rfl⟩
  have hrun : Relation.ReflTransGen (Step env) w₀ w₁ := .single (.request (c := c) _ rfl rfl)
  exact ⟨h₀, hrun, connections_validated h₀ hrun⟩

/-! ## Rights only narrow -/

theorem createConnection_rightsWithin {d : Nat} {f p : BitVec 32}
    (hf : ∀ g, newConnectionValidateFlags f = .ok g → RightsWithin g p) :
    ∀ c ∈ createConnection d f, RightsWithin c.base.flags p := by
  unfold createConnection
  split
  · next g hg =>
    intro c hc
    rw [List.mem_singleton] at hc
    subst hc
    exact hf g hg
  · simp

/-- The connections an open outcome creates hold no right `p` lacks when the flags it carries
validate to such words. -/
theorem spawnOf_rightsWithin (s : Store) (d : Nat) {p : BitVec 32} {o : OpenOutcome}
    (hc : ∀ f m, o = .connect f m → ∀ g, newConnectionValidateFlags f = .ok g → RightsWithin g p)
    (ho : ∀ f m q, o = .openPath f m q →
      ∀ g, newConnectionValidateFlags f = .ok g → RightsWithin g p) :
    ∀ c ∈ spawnOf s d o, RightsWithin c.base.flags p := by
  unfold spawnOf
  split
  · simp
  · exact createConnection_rightsWithin (hc _ _ rfl)
  · split
    · exact createConnection_rightsWithin (ho _ _ _ rfl)
    · simp

/-- Every connection a request creates holds no right the connection that served it lacks: a
`Clone` or an `Open` of `"."` through `inheritRightsForClone`, an `Open` of a child through
`checkChildConnectionFlags`. -/
theorem handleRequest_spawned_rightsWithin (env : DirectoryEnv) (w : World) (c : DirConnection)
    (req : DirectoryRequest) :
    ∀ c' ∈ (handleRequest env w c req).spawned, RightsWithin c'.base.flags c.base.flags := by
  cases req with
  | clone flags =>
    refine spawnOf_rightsWithin _ _ (fun f m h g hv => ?_) (fun f m q h => ?_)
    · exact clone_validate_rightsWithin (handleClone_eq_connect h) hv
    · unfold handleClone at h
      split at h <;> cases h
  | «open» flags mode path =>
    refine spawnOf_rightsWithin _ _ (fun f m h g hv => ?_) (fun f m q h g hv => ?_)
    · exact clone_validate_rightsWithin (handleOpen_cases.2 f m h) hv
    · obtain ⟨m₀, hc⟩ := handleOpen_cases.1 f m q h
      exact checkChild_validate_rightsWithin hc hv
  | _ =>
    rw [handleRequest_spawned_nil env w c _ (fun _ => by simp) (fun _ _ _ => by simp)]
    exact fun _ h => nomatch h

/-- Every connection of `w` holds no right that some connection of `w₀` lacks. -/
def World.RightsFrom (w₀ w : World) : Prop :=
  ∀ c ∈ w.connections, ∃ c₀ ∈ w₀.connections, RightsWithin c.base.flags c₀.base.flags

theorem Step.rightsFrom {env : DirectoryEnv} {w₀ w w' : World} (hs : Step env w w')
    (h : w₀.RightsFrom w) : w₀.RightsFrom w' := by
  cases hs with
  | @request i c req hi _ =>
    intro c' hc'
    have hc := h c (List.getElem?_mem hi)
    rcases List.mem_append.1 hc' with hc' | hc'
    · rcases List.mem_or_eq_of_mem_set hc' with hc' | rfl
      · exact h c' hc'
      · rw [(handleRequest_conn env w c req).2]
        exact hc
    · obtain ⟨c₀, hc₀, hr⟩ := hc
      exact ⟨c₀, hc₀, (handleRequest_spawned_rightsWithin env w c req c' hc').trans hr⟩
  | @drop i c hi =>
    intro c' hc'
    rcases List.mem_or_eq_of_mem_set hc' with hc' | rfl
    · exact h c' hc'
    · exact h c (List.getElem?_mem hi)

/-- Rights only narrow, never escalate. In every step, each connection an `Open` or a `Clone`
creates holds no right of `READABLE`, `WRITABLE`, `EXECUTABLE` and `ADMIN` that the connection
serving the request lacks, POSIX flags included. So after every interleaving of requests over
any number of connections, every connection holds no right that one of the connections the run
started with lacks. -/
theorem rights_only_narrow {env : DirectoryEnv} {w₀ w : World}
    (hrun : Relation.ReflTransGen (Step env) w₀ w) :
    (∀ (i : Nat) (c : DirConnection) (req : DirectoryRequest), w.connections[i]? = some c →
      ∀ c' ∈ (handleRequest env w c req).spawned, RightsWithin c'.base.flags c.base.flags) ∧
    ∀ c ∈ w.connections, ∃ c₀ ∈ w₀.connections, RightsWithin c.base.flags c₀.base.flags := by
  refine ⟨fun _ c req _ => handleRequest_spawned_rightsWithin env w c req, ?_⟩
  induction hrun with
  | refl => exact fun c hc => ⟨c, hc, fun _ _ h => h⟩
  | tail _ hs ih => exact hs.rightsFrom ih

/-- `rights_only_narrow` after a read-only connection clones itself asking for
`OPEN_FLAG_POSIX_WRITABLE`: the flag soft-fails and the clone is read-only. -/
theorem rights_only_narrow_clone_posix :
    let env : DirectoryEnv := ⟨id, fun _ _ _ => .error .notSupported, fun _ _ => .notSupported,
      ⟨.replace, .replace, .replace⟩⟩
    let c : DirConnection := ⟨⟨0, openRightReadable, .start⟩, true⟩
    let req := DirectoryRequest.clone (openRightReadable ||| openFlagPosixWritable)
    let w₀ : World := ⟨Store.empty, [c], none, []⟩
    let w₁ := w₀.apply 0 req (handleRequest env w₀ c req)
    Relation.ReflTransGen (Step env) w₀ w₁ ∧
    w₁.connections = [c, ⟨⟨0, openRightReadable, .start⟩, true⟩] ∧
    (∀ (i : Nat) (c : DirConnection) (req : DirectoryRequest), w₁.connections[i]? = some c →
      ∀ c' ∈ (handleRequest env w₁ c req).spawned, RightsWithin c'.base.flags c.base.flags) ∧
    ∀ c ∈ w₁.connections, ∃ c₀ ∈ w₀.connections, RightsWithin c.base.flags c₀.base.flags := by
  intro env c req w₀ w₁
  have hrun : Relation.ReflTransGen (Step env) w₀ w₁ := .single (.request (c := c) _ rfl rfl)
  exact ⟨hrun, by decide, rights_only_narrow hrun⟩

end FuchsiaVfs
