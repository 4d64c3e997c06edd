import FuchsiaVfs.Io

/-!
# `SimpleFilesystem::rename` and the directory primitives it calls

`filesystem/simple.rs` picks one of three primitives of the directory type by comparing the
two directories' addresses: `rename_from` on the source when it is lower, `rename_within` when
the two coincide, and `rename_to` on the destination when it is lower. The primitives, `link`
and `remove_entry_impl` belong to the mutable simple directory (`directory/helper.rs`,
`directory/mutable/simple.rs`), which is not under `src/`; they are modelled from spec §4.5
over name maps held in a store indexed by directory identity. What a primitive does with a bound
destination name the spec leaves to the directory type, so each primitive that binds a name
takes its own `BoundPolicy`: replace the binding, or refuse with a status. A primitive mutates
in place, so each returns its status together with the store as it is afterwards, also after
an error.

`rename_eq_moveEntry_ite`: whatever the addresses, each branch is the move `moveEntry` under the
policy of the primitive that binds the destination name. So the branches agree when the
primitives share one policy (`rename_outcome`), and the address order decides the outcome when
they do not. The move removes the source binding before it binds the destination, so when the
destination refuses the name the source entry is gone (`rename_refused_drops_entry`).
-/

namespace FuchsiaVfs

/-- A node a directory binds a name to: a directory, or another node and whether it reports
itself hardlink-capable. -/
inductive Entry
  | directory (id : Nat)
  | leaf (id : Nat) (hardlinkable : Bool)
  deriving DecidableEq, Repr

/-- `DirectoryEntry::can_hardlink`: a directory is never hardlink-capable. -/
def Entry.canHardlink : Entry → Bool
  | .directory _ => false
  | .leaf _ hardlinkable => hardlinkable

/-- A directory's name map. -/
abbrev NameMap := String → Option Entry

/-- The name maps of all directories, by directory identity. -/
abbrev Store := Nat → NameMap

/-- The store in which no directory binds any name. -/
def Store.empty : Store := fun _ _ => none

/-- The store with name `name` of directory `d` bound to `e`. -/
def Store.bind (s : Store) (d : Nat) (name : String) (e : Option Entry) : Store :=
  Function.update s d (Function.update (s d) name e)

@[simp] theorem Store.bind_apply (s : Store) (d d' : Nat) (name name' : String)
    (e : Option Entry) :
    s.bind d name e d' name' = if d' = d ∧ name' = name then e else s d' name' := by
  by_cases hd : d' = d <;> by_cases hn : name' = name <;>
    simp [Store.bind, Function.update, hd, hn]

/-! ## The directory primitives -/

/-- What a primitive does when asked to bind a name that is bound: replace the binding, or
refuse with a status. The spec leaves it to the directory type ("destination exists and policy
forbids overwrite → caller-defined status (collaborator contract, not core)"). -/
inductive BoundPolicy
  | replace
  | refuse (status : Status)
  deriving DecidableEq, Repr

/-- The bound-name policy of each primitive that binds a name: `link` (which the callback of
`rename_from` calls), `rename_to` and `rename_within`. Each is the directory type's own. -/
structure InsertPolicies where
  link : BoundPolicy
  renameTo : BoundPolicy
  renameWithin : BoundPolicy
  deriving DecidableEq, Repr

/-- Modelled from the spec: binding `name` of directory `d` to `entry` under a primitive's
policy for a bound name. -/
def insertEntry (policy : BoundPolicy) (s : Store) (d : Nat) (name : String) (entry : Entry) :
    Except Status Unit × Store :=
  match s d name, policy with
  | some _, .refuse status => (.error status, s)
  | _, _ => (.ok (), s.bind d name (some entry))

/-- Modelled from the spec: `link` of a mutable simple directory binds `name` to `entry`, under
the directory's policy for a bound name. -/
def link (policy : BoundPolicy) (s : Store) (d : Nat) (name : String) (entry : Entry) :
    Except Status Unit × Store :=
  insertEntry policy s d name entry

/-- Modelled from the spec: `remove_entry_impl`: removes `name` and returns what it was bound
to. -/
def removeEntryImpl (s : Store) (d : Nat) (name : String) : Option Entry × Store :=
  match s d name with
  | none => (none, s)
  | some entry => (some entry, s.bind d name none)

/-- Modelled from the spec: `rename_within`, "remove-then-reinsert under one lock". -/
def renameWithin (policy : BoundPolicy) (s : Store) (d : Nat) (src dst : String) :
    Except Status Unit × Store :=
  match removeEntryImpl s d src with
  | (none, s) => (.error .notFound, s)
  | (some entry, s) => insertEntry policy s d dst entry

/-- Modelled from the spec: `rename_from`: under the source directory's lock the entry is
removed and handed to the callback `to_`, which completes the insert. -/
def renameFrom (s : Store) (d : Nat) (src : String)
    (to_ : Entry → Store → Except Status Unit × Store) : Except Status Unit × Store :=
  match removeEntryImpl s d src with
  | (none, s) => (.error .notFound, s)
  | (some entry, s) => to_ entry s

/-- Modelled from the spec: `rename_to`: under the destination directory's lock the callback
`from_` removes the entry from the source, and the entry is then inserted. -/
def renameTo (policy : BoundPolicy) (s : Store) (d : Nat) (dst : String)
    (from_ : Store → Except Status Entry × Store) : Except Status Unit × Store :=
  match from_ s with
  | (.error status, s) => (.error status, s)
  | (.ok entry, s) => insertEntry policy s d dst entry

/-! ## The address-order dispatch -/

/-- The three branches of `SimpleFilesystem::rename`. -/
inductive RenameBranch
  | renameFrom
  | renameWithin
  | renameTo
  deriving DecidableEq, Repr

/-- The branch `rename` takes for the addresses of the source and destination directories
(`simple.rs:44-66`). -/
def renameBranch (srcOrder dstOrder : Nat) : RenameBranch :=
  if srcOrder < dstOrder then .renameFrom
  else if srcOrder == dstOrder then .renameWithin
  else .renameTo

/-- The policy of the primitive that binds the destination name in each branch. -/
def InsertPolicies.ofBranch (pol : InsertPolicies) : RenameBranch → BoundPolicy
  | .renameFrom => pol.link
  | .renameWithin => pol.renameWithin
  | .renameTo => pol.renameTo

/-- `SimpleFilesystem::rename` (`simple.rs:26`); `addr` gives each directory's address, and
`pol` the directory type's policies for a bound name. -/
def rename (addr : Nat → Nat) (pol : InsertPolicies) (s : Store) (srcDir : Nat) (src : String)
    (dstDir : Nat) (dst : String) : Except Status Unit × Store :=
  match renameBranch (addr srcDir) (addr dstDir) with
  | .renameFrom => renameFrom s srcDir src (fun entry s => link pol.link s dstDir dst entry)
  | .renameWithin => renameWithin pol.renameWithin s srcDir src dst
  | .renameTo => renameTo pol.renameTo s dstDir dst (fun s =>
      match removeEntryImpl s srcDir src with
      | (none, s) => (.error .notFound, s)
      | (some entry, s) => (.ok entry, s))

/-! ## What every branch computes -/

/-- The move spec §4.5 describes, independent of any lock order: remove the source binding,
then bind the entry at the destination under `policy`. -/
def moveEntry (policy : BoundPolicy) (s : Store) (srcDir : Nat) (src : String) (dstDir : Nat)
    (dst : String) : Except Status Unit × Store :=
  match s srcDir src with
  | none => (.error .notFound, s)
  | some entry => insertEntry policy (s.bind srcDir src none) dstDir dst entry

/-- Every branch is the move under the policy of the primitive that binds the destination name:
into the destination, or into the source directory itself when the two addresses coincide
(`rename_within`), whatever the addresses. -/
theorem rename_eq_moveEntry_ite (addr : Nat → Nat) (pol : InsertPolicies) (s : Store)
    (srcDir : Nat) (src : String) (dstDir : Nat) (dst : String) :
    rename addr pol s srcDir src dstDir dst =
      moveEntry (pol.ofBranch (renameBranch (addr srcDir) (addr dstDir))) s srcDir src
        (if addr srcDir = addr dstDir then srcDir else dstDir) dst := by
  unfold rename renameBranch
  simp only [beq_iff_eq]
  split_ifs <;> first | (exfalso; omega) | skip
  all_goals
    simp only [InsertPolicies.ofBranch, renameFrom, renameWithin, renameTo, removeEntryImpl,
      moveEntry, link]
    cases s srcDir src <;> rfl

/-- With distinct addresses for distinct directories and one policy shared by the three
primitives, the branches agree: `rename` is the move whichever directory has the lower
address. -/
theorem rename_eq_moveEntry (addr : Nat → Nat) (haddr : Function.Injective addr)
    (pol : InsertPolicies) (p : BoundPolicy)
    (hp : pol.link = p ∧ pol.renameTo = p ∧ pol.renameWithin = p) (s : Store) (srcDir : Nat)
    (src : String) (dstDir : Nat) (dst : String) :
    rename addr pol s srcDir src dstDir dst = moveEntry p s srcDir src dstDir dst := by
  have hb : pol.ofBranch (renameBranch (addr srcDir) (addr dstDir)) = p := by
    unfold renameBranch
    split_ifs <;> simp [InsertPolicies.ofBranch, hp]
  rw [rename_eq_moveEntry_ite, hb]
  split_ifs with h
  · rw [haddr h]
  · rfl

/-! ## Which directories a primitive touches -/

theorem Store.bind_ne {s : Store} {d d' : Nat} {name : String} {e : Option Entry} (h : d' ≠ d) :
    s.bind d name e d' = s d' := by
  funext name'; simp [h]

theorem insertEntry_frame {p : BoundPolicy} {s : Store} {d d' : Nat} {name : String} {e : Entry}
    (h : (insertEntry p s d name e).2 d' ≠ s d') : d' = d := by
  by_contra hd
  unfold insertEntry at h
  split at h <;> simp_all [Store.bind_ne]

theorem removeEntryImpl_frame {s : Store} {d d' : Nat} {name : String}
    (h : (removeEntryImpl s d name).2 d' ≠ s d') : d' = d := by
  by_contra hd
  unfold removeEntryImpl at h
  split at h <;> simp_all [Store.bind_ne]

/-- A move changes no directory but its two. -/
theorem moveEntry_frame {p : BoundPolicy} {s : Store} {a d x : Nat} {src dst : String}
    (hxa : x ≠ a) (hxd : x ≠ d) : (moveEntry p s a src d dst).2 x = s x := by
  unfold moveEntry
  cases s a src with
  | none => rfl
  | some e =>
    have hl : (insertEntry p (s.bind a src none) d dst e).2 x = (s.bind a src none) x :=
      by_contra fun h => hxd (insertEntry_frame h)
    rw [hl, Store.bind_ne hxa]

/-- `rename` changes no directory but its source and its destination. -/
theorem rename_frame {addr : Nat → Nat} {pol : InsertPolicies} {s : Store} {srcDir dstDir d : Nat}
    {src dst : String} (h : (rename addr pol s srcDir src dstDir dst).2 d ≠ s d) :
    d = srcDir ∨ d = dstDir := by
  rw [rename_eq_moveEntry_ite] at h
  by_contra hd
  push_neg at hd
  have hx : d ≠ (if addr srcDir = addr dstDir then srcDir else dstDir) := by
    split_ifs
    exacts [hd.1, hd.2]
  exact h (moveEntry_frame hd.1 hx)

/-- A move reads only its two directories: on stores that agree there, it answers the same and
leaves the same maps there. -/
theorem moveEntry_congr {p : BoundPolicy} {s s' : Store} {a d : Nat} (src dst : String)
    (ha : s a = s' a) (hd : s d = s' d) :
    (moveEntry p s a src d dst).1 = (moveEntry p s' a src d dst).1 ∧
      ∀ x, x = a ∨ x = d → (moveEntry p s a src d dst).2 x = (moveEntry p s' a src d dst).2 x := by
  have h1 : s a src = s' a src := by rw [ha]
  have h2 : (s.bind a src none) d dst = (s'.bind a src none) d dst := by simp [ha, hd]
  unfold moveEntry insertEntry
  rw [h1]
  cases s' a src with
  | none => exact ⟨rfl, by rintro x (rfl | rfl) <;> assumption⟩
  | some e =>
    dsimp only
    rw [h2]
    cases (s'.bind a src none) d dst <;> cases p <;>
      exact ⟨rfl, by rintro x (rfl | rfl) <;> funext n <;> simp [ha, hd]⟩

/-- `rename` reads only its source and destination directories. -/
theorem rename_congr (addr : Nat → Nat) (pol : InsertPolicies) {s s' : Store}
    {srcDir dstDir : Nat} (src dst : String) (hs : s srcDir = s' srcDir) (hd : s dstDir = s' dstDir) :
    (rename addr pol s srcDir src dstDir dst).1 = (rename addr pol s' srcDir src dstDir dst).1 ∧
      ∀ x, x = srcDir ∨ x = dstDir → (rename addr pol s srcDir src dstDir dst).2 x =
        (rename addr pol s' srcDir src dstDir dst).2 x := by
  rw [rename_eq_moveEntry_ite, rename_eq_moveEntry_ite]
  split_ifs
  · obtain ⟨h1, h2⟩ := moveEntry_congr (p := pol.ofBranch _) src dst hs hs
    refine ⟨h1, fun x hx => ?_⟩
    by_cases hxa : x = srcDir
    · exact h2 x (.inl hxa)
    · rw [moveEntry_frame hxa hxa, moveEntry_frame hxa hxa, hx.resolve_left hxa, hd]
  · exact moveEntry_congr src dst hs hd

/-! ## The outcome -/

/-- `SimpleFilesystem::rename` when the three primitives share one policy `p` for a bound name,
in every branch: `NOT_FOUND` with both maps unchanged when the source name is unbound; when the
destination name is bound once the source binding is gone and `p` refuses, `p`'s status with
that binding already removed and nothing else changed; otherwise `OK`, the entry bound at the
destination, the source name unbound and nothing else changed. -/
theorem rename_outcome (addr : Nat → Nat) (haddr : Function.Injective addr) (pol : InsertPolicies)
    (p : BoundPolicy) (hp : pol.link = p ∧ pol.renameTo = p ∧ pol.renameWithin = p) (s : Store)
    (srcDir : Nat) (src : String) (dstDir : Nat) (dst : String) :
    rename addr pol s srcDir src dstDir dst = moveEntry p s srcDir src dstDir dst ∧
    (s srcDir src = none → rename addr pol s srcDir src dstDir dst = (.error .notFound, s)) ∧
    (∀ e status, s srcDir src = some e → (s.bind srcDir src none) dstDir dst ≠ none →
      p = .refuse status →
      rename addr pol s srcDir src dstDir dst = (.error status, s.bind srcDir src none)) ∧
    (∀ e, s srcDir src = some e → ((s.bind srcDir src none) dstDir dst = none ∨ p = .replace) →
      rename addr pol s srcDir src dstDir dst =
        (.ok (), (s.bind srcDir src none).bind dstDir dst (some e))) := by
  rw [rename_eq_moveEntry addr haddr pol p hp]
  refine ⟨rfl, fun h => by simp [moveEntry, h], fun e status h hd hst => ?_, fun e h hd => ?_⟩ <;>
    simp only [moveEntry, h, insertEntry]
  · obtain ⟨e', he'⟩ := Option.ne_none_iff_exists'.1 hd
    rw [he', hst]
  · rcases hd with hd | rfl
    · rw [hd]
    · cases (s.bind srcDir src none) dstDir dst <;> rfl

/-- `rename_outcome` at the identity addresses with every primitive refusing a bound name with
`ALREADY_EXISTS`, on a store that binds `a` in directory 0 and `b` in directory 1: the move of
`a` onto `b` is refused with `a` already unbound, and the move of `a` to the free `c` is done. -/
theorem rename_outcome_bound :
    let s := (Store.empty.bind 0 "a" (some (.leaf 1 true))).bind 1 "b" (some (.leaf 2 true))
    let p : BoundPolicy := .refuse .alreadyExists
    Function.Injective (id : Nat → Nat) ∧
    ((⟨p, p, p⟩ : InsertPolicies).link = p ∧ (⟨p, p, p⟩ : InsertPolicies).renameTo = p ∧
      (⟨p, p, p⟩ : InsertPolicies).renameWithin = p) ∧
    rename id ⟨p, p, p⟩ s 0 "a" 1 "b" = (.error .alreadyExists, s.bind 0 "a" none) ∧
    rename id ⟨p, p, p⟩ s 0 "a" 1 "c" =
      (.ok (), (s.bind 0 "a" none).bind 1 "c" (some (.leaf 1 true))) := by
  intro s p
  have hp : (⟨p, p, p⟩ : InsertPolicies).link = p ∧ (⟨p, p, p⟩ : InsertPolicies).renameTo = p ∧
      (⟨p, p, p⟩ : InsertPolicies).renameWithin = p := ⟨rfl, rfl, rfl⟩
  have ha : s 0 "a" = some (.leaf 1 true) := by simp [s]
  refine ⟨Function.injective_id, hp, ?_, ?_⟩
  · exact (rename_outcome id Function.injective_id _ p hp s 0 "a" 1 "b").2.2.1 _ _ ha
      (by simp [s]) rfl
  · exact (rename_outcome id Function.injective_id _ p hp s 0 "a" 1 "c").2.2.2 _ ha
      (.inl rfl)

/-- A refused insertion loses the source entry, and primitives with different policies make the
address order matter. With every primitive refusing a bound name, moving `a` of directory 0 onto
the bound `b` of directory 1 fails with `ALREADY_EXISTS` and `a` is no longer bound. With `link`
refusing and `rename_to` replacing, the same move fails when directory 0 has the lower address
(`rename_from`, whose callback is `link`) and succeeds when directory 1 has it (`rename_to`). -/
theorem rename_refused_drops_entry :
    let s := (Store.empty.bind 0 "a" (some (.leaf 1 true))).bind 1 "b" (some (.leaf 2 true))
    let refuse : BoundPolicy := .refuse .alreadyExists
    let swap : Nat → Nat := fun d => if d = 0 then 1 else if d = 1 then 0 else d
    rename id ⟨refuse, refuse, refuse⟩ s 0 "a" 1 "b" = (.error .alreadyExists, s.bind 0 "a" none) ∧
      s 0 "a" = some (.leaf 1 true) ∧ s.bind 0 "a" none ≠ s ∧
      (rename id ⟨refuse, .replace, .replace⟩ s 0 "a" 1 "b").1 = .error .alreadyExists ∧
      (rename swap ⟨refuse, .replace, .replace⟩ s 0 "a" 1 "b").1 = .ok () := by
  intro s refuse swap
  refine ⟨rfl, by simp [s], fun h => ?_, rfl, rfl⟩
  have := congrFun (congrFun h 0) "a"
  simp [s] at this

end FuchsiaVfs
