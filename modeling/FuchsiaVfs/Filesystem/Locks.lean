import FuchsiaVfs.Filesystem.Rename

/-!
# The directory locks concurrent renames take

Each `SimpleFilesystem::rename` call is a thread that takes the directory locks of the branch
`renameBranch` picks, in the order the branch's primitives take them: `rename_from` locks the
source and then, in its callback's `link`, the destination; `rename_to` locks the destination
and then, in its callback's `remove_entry_impl`, the source; `rename_within` locks the one
directory. The primitives are not under `src/`, and the order inside them is spec §4.5's ("lock
B only entered while holding lock A"). A lock is named by its directory's address.

`LockStep` interleaves any number of such threads: a thread takes its next lock when no other
thread holds it, and releases all its locks once it holds them all. `rename_locks_deadlock_free`:
every thread takes at most two locks, in strictly increasing address order, so in no reachable
state is there a cycle of threads each waiting for a lock the next one holds. The argument is
the classical one: the lock a waiting thread wants is above every lock it holds, so along a
chain of waits the wanted locks strictly increase (`waitsFor_chain_lt`).

Two calls that hold all their locks at the same time in a reachable state hold disjoint lock
sets, since no lock is held by two threads (`LockStep.locksExclusive`); so the two renames
commute, whichever order their critical sections are taken in (`rename_disjoint_commute`): each
reads and writes only its own two directories.
-/

namespace FuchsiaVfs

/-- The locks, by address, that the primitives of a branch take, in order (spec §4.5). -/
def RenameBranch.locks : RenameBranch → Nat → Nat → List Nat
  | .renameFrom, srcOrder, dstOrder => [srcOrder, dstOrder]
  | .renameWithin, srcOrder, _ => [srcOrder]
  | .renameTo, srcOrder, dstOrder => [dstOrder, srcOrder]

/-- The locks a `rename` of `srcDir` into `dstDir` takes, in order. -/
def renameLocks (addr : Nat → Nat) (srcDir dstDir : Nat) : List Nat :=
  (renameBranch (addr srcDir) (addr dstDir)).locks (addr srcDir) (addr dstDir)

/-- The lower address first, and a single lock when the two directories coincide. -/
theorem renameLocks_eq (addr : Nat → Nat) (srcDir dstDir : Nat) :
    renameLocks addr srcDir dstDir =
      if addr srcDir = addr dstDir then [addr srcDir]
      else [min (addr srcDir) (addr dstDir), max (addr srcDir) (addr dstDir)] := by
  unfold renameLocks renameBranch
  split_ifs <;> simp_all [RenameBranch.locks]; omega

/-- At most two locks, in strictly increasing order. -/
theorem renameLocks_sorted (addr : Nat → Nat) (srcDir dstDir : Nat) :
    (renameLocks addr srcDir dstDir).Sorted (· < ·) ∧
      (renameLocks addr srcDir dstDir).length ≤ 2 := by
  rw [renameLocks_eq]
  split_ifs <;> simp; omega

/-! ## The interleaved lock steps -/

/-- A thread of the lock system: the locks it takes in order, how many of them it holds, and
whether it has released them and returned. -/
structure LockThread where
  locks : List Nat
  acquired : Nat
  finished : Bool
  deriving DecidableEq, Repr

/-- The locks a thread holds. -/
def LockThread.held (t : LockThread) : List Nat :=
  if t.finished then [] else t.locks.take t.acquired

/-- The lock a thread takes next, if it is still taking locks. -/
def LockThread.next? (t : LockThread) : Option Nat :=
  if t.finished then none else t.locks[t.acquired]?

/-- One step of one thread of `ts`. -/
inductive LockStep : List LockThread → List LockThread → Prop
  /-- Thread `i` takes its next lock `l`, which no other thread holds. -/
  | acquire {ts : List LockThread} {i : Nat} {t : LockThread} {l : Nat} :
      ts[i]? = some t → t.next? = some l → (∀ j u, j ≠ i → ts[j]? = some u → l ∉ u.held) →
      LockStep ts (ts.set i { t with acquired := t.acquired + 1 })
  /-- Thread `i` holds all its locks, releases them and returns. -/
  | release {ts : List LockThread} {i : Nat} {t : LockThread} :
      ts[i]? = some t → t.finished = false → t.acquired = t.locks.length →
      LockStep ts (ts.set i { t with finished := true })

/-- The threads of concurrent `rename` calls, one per `(srcDir, dstDir)`, before any lock is
taken. -/
def renameThreads (addr : Nat → Nat) (calls : List (Nat × Nat)) : List LockThread :=
  calls.map fun (srcDir, dstDir) => ⟨renameLocks addr srcDir dstDir, 0, false⟩

/-- Thread `i` waits for a lock thread `j` holds. -/
def WaitsFor (ts : List LockThread) (i j : Nat) : Prop :=
  i ≠ j ∧ ∃ t u l, ts[i]? = some t ∧ ts[j]? = some u ∧ t.next? = some l ∧ l ∈ u.held

/-! ## Ordered lock programs -/

/-- Every thread takes at most two locks, in strictly increasing order. -/
def OrderedLocks (ts : List LockThread) : Prop :=
  ∀ t ∈ ts, t.locks.Sorted (· < ·) ∧ t.locks.length ≤ 2

theorem orderedLocks_renameThreads (addr : Nat → Nat) (calls : List (Nat × Nat)) :
    OrderedLocks (renameThreads addr calls) := by
  simp only [OrderedLocks, renameThreads, List.mem_map]
  rintro t ⟨⟨srcDir, dstDir⟩, -, rfl⟩
  exact renameLocks_sorted addr srcDir dstDir

/-- A step changes no thread's lock program. -/
theorem LockStep.orderedLocks {ts ts' : List LockThread} (h : LockStep ts ts')
    (hts : OrderedLocks ts) : OrderedLocks ts' := by
  cases h with
  | acquire hi _ _ | release hi _ _ =>
    intro u hu
    rcases List.mem_or_eq_of_mem_set hu with hu | rfl
    · exact hts u hu
    · obtain ⟨hs, hlen⟩ := hts _ (List.getElem?_mem hi)
      exact ⟨hs, hlen⟩

theorem reachable_orderedLocks {ts ts' : List LockThread}
    (h : Relation.ReflTransGen LockStep ts ts') (hts : OrderedLocks ts) : OrderedLocks ts' := by
  induction h with
  | refl => exact hts
  | tail _ hstep ih => exact hstep.orderedLocks ih

/-- The lock a thread takes next is above every lock it holds. -/
theorem LockThread.held_lt_next {t : LockThread} (hs : t.locks.Sorted (· < ·)) {l l' : Nat}
    (hl : l ∈ t.held) (hn : t.next? = some l') : l < l' := by
  unfold LockThread.held LockThread.next? at *
  split_ifs at hl hn
  obtain ⟨k, hk, rfl⟩ := List.mem_take_iff_getElem.1 hl
  obtain ⟨hlt, rfl⟩ := List.getElem?_eq_some_iff.1 hn
  exact List.pairwise_iff_getElem.1 hs _ _ _ _ (lt_of_lt_of_le hk (min_le_left _ _))

/-- A thread holds at most two locks, in increasing order. -/
theorem LockThread.held_sorted {t : LockThread} (hs : t.locks.Sorted (· < ·))
    (hlen : t.locks.length ≤ 2) : t.held.Sorted (· < ·) ∧ t.held.length ≤ 2 := by
  unfold LockThread.held
  split_ifs
  · simp
  · exact ⟨hs.sublist (List.take_sublist _ _), by simp; omega⟩

section
variable {ts : List LockThread}

/-- Along a wait, the wanted lock strictly increases. -/
theorem waitsFor_lt (hts : OrderedLocks ts) {i j : Nat} (h : WaitsFor ts i j) {a b : Nat}
    (ha : ∀ t, ts[i]? = some t → t.next? = some a) (hb : ∀ u, ts[j]? = some u → u.next? = some b) :
    a < b := by
  obtain ⟨-, t, u, l, hi, hj, hl, hmem⟩ := h
  cases (ha t hi).symm.trans hl
  exact LockThread.held_lt_next (hts u (List.getElem?_mem hj)).1 hmem (hb u hj)

/-- The lock a waiting thread wants, if it is waiting. -/
theorem waitsFor_next (h : WaitsFor ts i j) : ∃ t l, ts[i]? = some t ∧ t.next? = some l := by
  obtain ⟨-, t, -, l, hi, -, hl, -⟩ := h
  exact ⟨t, l, hi, hl⟩

/-- Along a chain of waits the wanted locks strictly increase. -/
theorem waitsFor_chain_lt (hts : OrderedLocks ts) {i k : Nat}
    (h : Relation.TransGen (WaitsFor ts) i k) {t u : LockThread} {a c : Nat}
    (hi : ts[i]? = some t) (ha : t.next? = some a) (hk : ts[k]? = some u)
    (hc : u.next? = some c) : a < c := by
  have hA : ∀ t', ts[i]? = some t' → t'.next? = some a := fun t' h' => by
    cases hi.symm.trans h'; exact ha
  have hC : ∀ u', ts[k]? = some u' → u'.next? = some c := fun u' h' => by
    cases hk.symm.trans h'; exact hc
  clear hi ha hk hc
  induction h generalizing c with
  | single hw => exact waitsFor_lt hts hw hA hC
  | tail _ hw ih =>
    obtain ⟨v, b, hv, hb⟩ := waitsFor_next hw
    have hB : ∀ v' : LockThread, ts[_]? = some v' → v'.next? = some b := fun v' h' => by
      cases hv.symm.trans h'; exact hb
    exact (ih hB).trans (waitsFor_lt hts hw hB hC)

/-- No cycle of waits among threads with ordered lock programs. -/
theorem no_wait_cycle (hts : OrderedLocks ts) (i : Nat) :
    ¬Relation.TransGen (WaitsFor ts) i i := by
  intro h
  obtain ⟨j, hij, -⟩ := Relation.TransGen.head'_iff.1 h
  obtain ⟨t, a, hi, ha⟩ := waitsFor_next hij
  exact lt_irrefl a (waitsFor_chain_lt hts h hi ha hi ha)

end

/-- Concurrent renames cannot deadlock: for any addresses and any number of `rename` calls
over any directories, every call takes at most two locks, in strictly increasing address order
(the lower address first, one lock when the directories coincide), and no reachable state of
the interleaved lock steps has a cycle of calls each waiting for a lock the next one holds. -/
theorem rename_locks_deadlock_free (addr : Nat → Nat) (calls : List (Nat × Nat))
    (ts : List LockThread) (h : Relation.ReflTransGen LockStep (renameThreads addr calls) ts) :
    (∀ srcDir dstDir, renameLocks addr srcDir dstDir =
      if addr srcDir = addr dstDir then [addr srcDir]
      else [min (addr srcDir) (addr dstDir), max (addr srcDir) (addr dstDir)]) ∧
    (∀ t ∈ ts, t.held.Sorted (· < ·) ∧ t.held.length ≤ 2 ∧
      ∀ l ∈ t.held, ∀ l', t.next? = some l' → l < l') ∧
    ∀ i, ¬Relation.TransGen (WaitsFor ts) i i := by
  have hts := reachable_orderedLocks h (orderedLocks_renameThreads addr calls)
  refine ⟨renameLocks_eq addr, fun t ht => ?_, no_wait_cycle hts⟩
  obtain ⟨hs, hlen⟩ := hts t ht
  exact ⟨(t.held_sorted hs hlen).1, (t.held_sorted hs hlen).2,
    fun _ hl _ hn => t.held_lt_next hs hl hn⟩

/-- A thread takes its next lock when no thread holds it. -/
theorem LockStep.acquire_free {ts : List LockThread} {i : Nat} {t : LockThread} {l : Nat}
    (hi : ts[i]? = some t) (hn : t.next? = some l) (hfree : ∀ u ∈ ts, l ∉ u.held) :
    LockStep ts (ts.set i { t with acquired := t.acquired + 1 }) :=
  .acquire hi hn fun _ u _ hj => hfree u (List.getElem?_mem hj)

/-- Two opposite renames between directories 0 and 1 both lock 0 first: once the first has taken
it, the second waits for the first. -/
theorem opposite_first_acquire :
    Relation.ReflTransGen LockStep (renameThreads id [(0, 1), (1, 0)])
      [⟨[0, 1], 1, false⟩, ⟨[0, 1], 0, false⟩] ∧
    WaitsFor [⟨[0, 1], 1, false⟩, ⟨[0, 1], 0, false⟩] 1 0 :=
  ⟨.single (LockStep.acquire_free (i := 0) (t := ⟨[0, 1], 0, false⟩) (l := 0) rfl rfl (by decide)),
    by decide, _, _, 0, rfl, rfl, rfl, by decide⟩

/-- `rename_locks_deadlock_free` for two opposite renames, once the first holds the lock the
second waits for. -/
theorem rename_locks_deadlock_free_opposite :
    let ts : List LockThread := [⟨[0, 1], 1, false⟩, ⟨[0, 1], 0, false⟩]
    Relation.ReflTransGen LockStep (renameThreads id [(0, 1), (1, 0)]) ts ∧ WaitsFor ts 1 0 ∧
    (∀ srcDir dstDir, renameLocks id srcDir dstDir =
      if id srcDir = id dstDir then [id srcDir]
      else [min (id srcDir) (id dstDir), max (id srcDir) (id dstDir)]) ∧
    (∀ t ∈ ts, t.held.Sorted (· < ·) ∧ t.held.length ≤ 2 ∧
      ∀ l ∈ t.held, ∀ l', t.next? = some l' → l < l') ∧
    ∀ i, ¬Relation.TransGen (WaitsFor ts) i i :=
  ⟨opposite_first_acquire.1, opposite_first_acquire.2,
    rename_locks_deadlock_free id [(0, 1), (1, 0)] _ opposite_first_acquire.1⟩

/-! ## Exclusion, progress and termination

Deadlock freedom says no reachable state has a cycle of waits. The lock system does more: no
lock is ever held by two threads (`LockInvariant`); a reachable state where some call
has not returned can always step (`rename_locks_progress`); and every interleaving stops after
at most three steps per call (`rename_locks_steps_le`), since each step takes a lock or returns,
and a call takes at most two locks and returns once. Together: every maximal run ends with
every call returned. -/

/-- No thread has taken more locks than its program names. -/
def LocksWithin (ts : List LockThread) : Prop :=
  ∀ t ∈ ts, t.acquired ≤ t.locks.length

/-- No lock is held by two threads. -/
def LocksExclusive (ts : List LockThread) : Prop :=
  ∀ (i j : Nat) (t u : LockThread), i ≠ j → ts[i]? = some t → ts[j]? = some u →
    ∀ l ∈ t.held, l ∉ u.held

/-- What holds of every reachable state of the rename lock system. -/
structure LockInvariant (ts : List LockThread) : Prop where
  ordered : OrderedLocks ts
  within : LocksWithin ts
  exclusive : LocksExclusive ts

/-- The number of steps a thread has taken: one per lock, and one for the return. -/
def LockThread.stepsTaken (t : LockThread) : Nat :=
  t.acquired + t.finished.toNat

/-- The number of steps the threads have taken together. -/
def stepsTaken (ts : List LockThread) : Nat :=
  (ts.map LockThread.stepsTaken).sum

theorem LockThread.finished_of_mem_held {t : LockThread} {l : Nat} (h : l ∈ t.held) :
    t.finished = false := by
  unfold LockThread.held at h
  split_ifs at h with hf
  · simp at h
  · simpa using hf

theorem LockThread.next?_eq_some {t : LockThread} {l : Nat} (h : t.next? = some l) :
    t.finished = false ∧ t.acquired < t.locks.length := by
  unfold LockThread.next? at h
  split_ifs at h with hf
  exact ⟨by simpa using hf, (List.getElem?_eq_some_iff.1 h).1⟩

theorem LockThread.next?_isSome {t : LockThread} (hf : t.finished = false)
    (h : t.acquired < t.locks.length) : ∃ l, t.next? = some l :=
  ⟨t.locks[t.acquired], by simp [LockThread.next?, hf, h]⟩

/-- Taking the next lock adds it to the locks held. -/
theorem LockThread.held_acquire {t : LockThread} {l : Nat} (h : t.next? = some l) :
    { t with acquired := t.acquired + 1 }.held = t.held ++ [l] := by
  obtain ⟨hf, -⟩ := LockThread.next?_eq_some h
  simp only [LockThread.next?, LockThread.held, hf, Bool.false_eq_true, if_false] at h ⊢
  rw [List.take_succ, h]
  rfl

@[simp] theorem LockThread.held_release (t : LockThread) :
    { t with finished := true }.held = [] := rfl

/-- A thread of `ts.set i t'` is `t'` at `i` and the old thread elsewhere. -/
theorem getElem?_set_eq_some {ts : List LockThread} {i j : Nat} {t' u : LockThread}
    (h : (ts.set i t')[j]? = some u) : (j = i ∧ u = t') ∨ (j ≠ i ∧ ts[j]? = some u) := by
  rw [List.getElem?_set] at h
  split_ifs at h with hij <;> simp_all [eq_comm]

/-- Replacing thread `i` keeps locks exclusive when each lock the new thread holds is held by
the old one or by no other thread. -/
theorem LocksExclusive.set {ts : List LockThread} {i : Nat} {t t' : LockThread}
    (hex : LocksExclusive ts) (hi : ts[i]? = some t)
    (hnew : ∀ l ∈ t'.held, l ∈ t.held ∨ ∀ j u, j ≠ i → ts[j]? = some u → l ∉ u.held) :
    LocksExclusive (ts.set i t') := by
  unfold LocksExclusive
  intro a b ta tb hab ha hb l hla hlb
  rcases getElem?_set_eq_some ha with ⟨rfl, rfl⟩ | ⟨hai, hta⟩ <;>
    rcases getElem?_set_eq_some hb with ⟨rfl, rfl⟩ | ⟨hbi, htb⟩
  · exact hab rfl
  · rcases hnew l hla with hl | hl
    · exact hex _ _ _ _ hab hi htb l hl hlb
    · exact hl b tb hbi htb hlb
  · rcases hnew l hlb with hl | hl
    · exact hex _ _ _ _ hab hta hi l hla hl
    · exact hl a ta hai hta hla
  · exact hex _ _ _ _ hab hta htb l hla hlb

/-- A step keeps locks exclusive: a thread takes only a lock no other thread holds. -/
theorem LockStep.locksExclusive {ts ts' : List LockThread} (h : LockStep ts ts')
    (hex : LocksExclusive ts) : LocksExclusive ts' := by
  cases h with
  | acquire hi hn hfree =>
    refine hex.set hi fun l' hl' => ?_
    rw [LockThread.held_acquire hn, List.mem_append, List.mem_singleton] at hl'
    rcases hl' with hl' | rfl
    · exact .inl hl'
    · exact .inr hfree
  | release hi _ _ => exact hex.set hi (by simp)

/-- A step takes a lock only while one is left to take. -/
theorem LockStep.locksWithin {ts ts' : List LockThread} (h : LockStep ts ts')
    (hw : LocksWithin ts) : LocksWithin ts' := by
  intro u hu
  cases h with
  | acquire hi hn _ =>
    rcases List.mem_or_eq_of_mem_set hu with hu | rfl
    exacts [hw u hu, (LockThread.next?_eq_some hn).2]
  | @release _ t hi _ _ =>
    rcases List.mem_or_eq_of_mem_set hu with hu | rfl
    exacts [hw u hu, hw t (List.getElem?_mem hi)]

theorem LockStep.lockInvariant {ts ts' : List LockThread} (h : LockStep ts ts')
    (hi : LockInvariant ts) : LockInvariant ts' :=
  ⟨h.orderedLocks hi.ordered, h.locksWithin hi.within, h.locksExclusive hi.exclusive⟩

theorem lockInvariant_renameThreads (addr : Nat → Nat) (calls : List (Nat × Nat)) :
    LockInvariant (renameThreads addr calls) := by
  refine ⟨orderedLocks_renameThreads addr calls, ?_, ?_⟩
  · simp only [LocksWithin, renameThreads, List.mem_map]
    rintro _ ⟨_, -, rfl⟩
    exact Nat.zero_le _
  · unfold LocksExclusive
    intro i _ t _ _ hi
    obtain ⟨⟨srcDir, dstDir⟩, -, rfl⟩ := List.mem_map.1 (List.getElem?_mem hi)
    simp [LockThread.held]

theorem reachable_lockInvariant {ts ts' : List LockThread}
    (h : Relation.ReflTransGen LockStep ts ts') (hts : LockInvariant ts) : LockInvariant ts' := by
  induction h with
  | refl => exact hts
  | tail _ hstep ih => exact hstep.lockInvariant ih

theorem reachable_length {ts ts' : List LockThread} (h : Relation.ReflTransGen LockStep ts ts') :
    ts'.length = ts.length := by
  induction h with
  | refl => rfl
  | tail _ hstep ih => cases hstep <;> simpa using ih

/-- Some thread can step whenever one has not returned. If none holds all its locks, take the
highest lock a thread is waiting for: a thread holding it would itself be waiting for a higher
one, so no thread holds it. -/
theorem LockStep.progress {ts : List LockThread} (hts : OrderedLocks ts) (hw : LocksWithin ts)
    (hu : ∃ t ∈ ts, t.finished = false) : ∃ ts', LockStep ts ts' := by
  by_cases hr : ∃ (i : Nat) (t : LockThread), ts[i]? = some t ∧ t.finished = false ∧ t.acquired = t.locks.length
  · obtain ⟨i, t, hi, hf, ha⟩ := hr
    exact ⟨_, .release hi hf ha⟩
  push_neg at hr
  have hnext : ∀ (i : Nat) (t : LockThread), ts[i]? = some t → t.finished = false → ∃ l, t.next? = some l :=
    fun i t hi hf => LockThread.next?_isSome hf
      (lt_of_le_of_ne (hw t (List.getElem?_mem hi)) (hr i t hi hf))
  obtain ⟨t₀, ht₀, hf₀⟩ := hu
  obtain ⟨i₀, hi₀⟩ := List.mem_iff_getElem?.1 ht₀
  obtain ⟨l₀, hl₀⟩ := hnext _ _ hi₀ hf₀
  obtain ⟨l, hl, hmax⟩ := (ts.filterMap LockThread.next?).toFinset.exists_max_image id
    ⟨l₀, List.mem_toFinset.2 (List.mem_filterMap.2 ⟨t₀, ht₀, hl₀⟩)⟩
  simp only [List.mem_toFinset, List.mem_filterMap, id] at hl hmax
  obtain ⟨t, ht, hn⟩ := hl
  obtain ⟨i, hi⟩ := List.mem_iff_getElem?.1 ht
  refine ⟨_, .acquire hi hn fun j u _ hj hlu => ?_⟩
  have hu := List.getElem?_mem hj
  obtain ⟨l', hl'⟩ := hnext j u hj (LockThread.finished_of_mem_held hlu)
  exact (hmax l' ⟨u, hu, hl'⟩).not_lt (LockThread.held_lt_next (hts u hu).1 hlu hl')

theorem stepsTaken_set : ∀ {ts : List LockThread} {i : Nat} {t : LockThread} (t' : LockThread),
    ts[i]? = some t → stepsTaken (ts.set i t') + t.stepsTaken = stepsTaken ts + t'.stepsTaken
  | u :: us, 0, t, t', h => by
    simp only [List.getElem?_cons_zero, Option.some.injEq] at h
    subst h
    simp only [stepsTaken, List.set_cons_zero, List.map_cons, List.sum_cons]
    omega
  | u :: us, i + 1, t, t', h => by
    rw [List.getElem?_cons_succ] at h
    have ih := stepsTaken_set t' h
    simp only [stepsTaken, List.set_cons_succ, List.map_cons, List.sum_cons] at ih ⊢
    omega

/-- Every step is one more step of one thread. -/
theorem LockStep.stepsTaken_succ {ts ts' : List LockThread} (h : LockStep ts ts') :
    stepsTaken ts' = stepsTaken ts + 1 := by
  cases h with
  | @acquire _ t _ hi _ _ =>
    have := stepsTaken_set { t with acquired := t.acquired + 1 } hi
    simp only [LockThread.stepsTaken] at this
    omega
  | @release _ t hi hf _ =>
    have := stepsTaken_set { t with finished := true } hi
    simp only [LockThread.stepsTaken, hf, Bool.toNat_true, Bool.toNat_false] at this
    omega

/-- A thread takes at most two locks and returns once. -/
theorem stepsTaken_le {ts : List LockThread} (hts : OrderedLocks ts) (hw : LocksWithin ts) :
    stepsTaken ts ≤ 3 * ts.length := by
  have hle : ∀ n ∈ ts.map LockThread.stepsTaken, n ≤ 3 := by
    simp only [List.mem_map]
    rintro _ ⟨t, ht, rfl⟩
    have := (hts t ht).2
    have := hw t ht
    have := Bool.toNat_le t.finished
    simp only [LockThread.stepsTaken]
    omega
  simpa [mul_comm] using List.sum_le_card_nsmul _ 3 hle

/-- Concurrent renames never get stuck: in every reachable state where some `rename` call has
not returned, some call can take its next lock or release its locks and return. -/
theorem rename_locks_progress (addr : Nat → Nat) (calls : List (Nat × Nat))
    (ts : List LockThread) (h : Relation.ReflTransGen LockStep (renameThreads addr calls) ts)
    (hu : ∃ t ∈ ts, t.finished = false) : ∃ ts', LockStep ts ts' := by
  have hi := reachable_lockInvariant h (lockInvariant_renameThreads addr calls)
  exact LockStep.progress hi.ordered hi.within hu

/-- `rename_locks_progress` for two opposite renames, once the second waits for the lock the
first holds: the first can go on. -/
theorem rename_locks_progress_opposite :
    let ts : List LockThread := [⟨[0, 1], 1, false⟩, ⟨[0, 1], 0, false⟩]
    Relation.ReflTransGen LockStep (renameThreads id [(0, 1), (1, 0)]) ts ∧ WaitsFor ts 1 0 ∧
    (∃ t ∈ ts, t.finished = false) ∧ ∃ ts', LockStep ts ts' :=
  have hu : ∃ t ∈ ([⟨[0, 1], 1, false⟩, ⟨[0, 1], 0, false⟩] : List LockThread),
      t.finished = false := ⟨_, List.mem_cons_self _ _, rfl⟩
  ⟨opposite_first_acquire.1, opposite_first_acquire.2, hu,
    rename_locks_progress id [(0, 1), (1, 0)] _ opposite_first_acquire.1 hu⟩

/-- One rename between two directories runs its three steps: it takes both locks and
returns. -/
def renameRun : Nat → List LockThread
  | 0 => [⟨[0, 1], 0, false⟩]
  | 1 => [⟨[0, 1], 1, false⟩]
  | 2 => [⟨[0, 1], 2, false⟩]
  | _ => [⟨[0, 1], 2, true⟩]

/-- Concurrent renames terminate: every interleaving of the lock steps of `n` calls has at most
`3 * n` steps. -/
theorem rename_locks_steps_le (addr : Nat → Nat) (calls : List (Nat × Nat))
    (run : Nat → List LockThread) (n : Nat) (h0 : run 0 = renameThreads addr calls)
    (hrun : ∀ k < n, LockStep (run k) (run (k + 1))) : n ≤ 3 * calls.length := by
  have hreach : ∀ k ≤ n, Relation.ReflTransGen LockStep (renameThreads addr calls) (run k) ∧
      stepsTaken (run k) = k := by
    intro k hk
    induction k with
    | zero => exact ⟨h0 ▸ .refl, by
        simp [h0, stepsTaken, renameThreads, LockThread.stepsTaken, Function.comp_def]⟩
    | succ k ih =>
      obtain ⟨hr, hs⟩ := ih (by omega)
      have hstep := hrun k (by omega)
      exact ⟨hr.tail hstep, by rw [hstep.stepsTaken_succ, hs]⟩
  obtain ⟨hr, hs⟩ := hreach n le_rfl
  have hi := reachable_lockInvariant hr (lockInvariant_renameThreads addr calls)
  calc n = stepsTaken (run n) := hs.symm
    _ ≤ 3 * (run n).length := stepsTaken_le hi.ordered hi.within
    _ = 3 * calls.length := by rw [reachable_length hr]; simp [renameThreads]

/-- `rename_locks_steps_le` on one rename between two directories, whose run meets the bound. -/
theorem rename_locks_steps_le_single :
    renameRun 0 = renameThreads id [(0, 1)] ∧
      (∀ k < 3, LockStep (renameRun k) (renameRun (k + 1))) ∧ 3 ≤ 3 * [(0, 1)].length := by
  have hfree : ∀ k l j (u : LockThread), j ≠ 0 → (renameRun k)[j]? = some u → l ∉ u.held := by
    rintro (_ | _ | _ | k) l (_ | j) u hj h <;> first | exact absurd rfl hj | cases h
  have hrun : ∀ k < 3, LockStep (renameRun k) (renameRun (k + 1)) := by
    rintro (_ | _ | _ | k) hk
    · exact .acquire (i := 0) (t := ⟨[0, 1], 0, false⟩) (l := 0) rfl rfl (hfree 0 0)
    · exact .acquire (i := 0) (t := ⟨[0, 1], 1, false⟩) (l := 1) rfl rfl (hfree 1 1)
    · exact .release (i := 0) (t := ⟨[0, 1], 2, false⟩) rfl rfl rfl
    · omega
  exact ⟨rfl, hrun, rename_locks_steps_le id [(0, 1)] renameRun 3 rfl hrun⟩

/-! ## Renames that hold their locks at once commute -/

theorem mem_renameLocks (addr : Nat → Nat) (srcDir dstDir : Nat) :
    addr srcDir ∈ renameLocks addr srcDir dstDir ∧ addr dstDir ∈ renameLocks addr srcDir dstDir := by
  rw [renameLocks_eq]
  split_ifs with h
  · simp [h]
  · constructor <;> simp <;> omega

/-- Renames with disjoint lock sets have disjoint directories. -/
theorem ne_of_disjoint_renameLocks {addr : Nat → Nat} {a₁ b₁ a₂ b₂ : Nat}
    (h : ∀ l ∈ renameLocks addr a₁ b₁, l ∉ renameLocks addr a₂ b₂) {x y : Nat}
    (hx : x = a₁ ∨ x = b₁) (hy : y = a₂ ∨ y = b₂) : x ≠ y := by
  rintro rfl
  have h₁ : addr x ∈ renameLocks addr a₁ b₁ := by
    rcases hx with rfl | rfl
    exacts [(mem_renameLocks addr _ _).1, (mem_renameLocks addr _ _).2]
  have h₂ : addr x ∈ renameLocks addr a₂ b₂ := by
    rcases hy with rfl | rfl
    exacts [(mem_renameLocks addr _ _).1, (mem_renameLocks addr _ _).2]
  exact h _ h₁ h₂

theorem rename_frame_eq (addr : Nat → Nat) (pol : InsertPolicies) (s : Store)
    {srcDir dstDir x : Nat} (src dst : String) (hs : x ≠ srcDir) (hd : x ≠ dstDir) :
    (rename addr pol s srcDir src dstDir dst).2 x = s x :=
  by_contra fun h => (rename_frame h).elim hs hd

/-- Two `rename` calls whose lock sets are disjoint answer the same statuses and leave the same
store whichever runs first: each reads and writes only its own two directories. -/
theorem rename_commute_of_disjoint (addr : Nat → Nat) (pol : InsertPolicies) (s : Store)
    (a₁ : Nat) (src₁ : String) (b₁ : Nat) (dst₁ : String) (a₂ : Nat) (src₂ : String) (b₂ : Nat)
    (dst₂ : String) (h : ∀ l ∈ renameLocks addr a₁ b₁, l ∉ renameLocks addr a₂ b₂) :
    (rename addr pol (rename addr pol s a₁ src₁ b₁ dst₁).2 a₂ src₂ b₂ dst₂).1 =
        (rename addr pol s a₂ src₂ b₂ dst₂).1 ∧
    (rename addr pol (rename addr pol s a₂ src₂ b₂ dst₂).2 a₁ src₁ b₁ dst₁).1 =
        (rename addr pol s a₁ src₁ b₁ dst₁).1 ∧
    (rename addr pol (rename addr pol s a₁ src₁ b₁ dst₁).2 a₂ src₂ b₂ dst₂).2 =
        (rename addr pol (rename addr pol s a₂ src₂ b₂ dst₂).2 a₁ src₁ b₁ dst₁).2 := by
  have hne {x y : Nat} (hx : x = a₁ ∨ x = b₁) (hy : y = a₂ ∨ y = b₂) : x ≠ y :=
    ne_of_disjoint_renameLocks h hx hy
  -- each call leaves the other's directories as they were
  have h₁ {x : Nat} (hx : x = a₁ ∨ x = b₁) : (rename addr pol s a₂ src₂ b₂ dst₂).2 x = s x :=
    rename_frame_eq addr pol s src₂ dst₂ (hne hx (.inl rfl)) (hne hx (.inr rfl))
  have h₂ {x : Nat} (hx : x = a₂ ∨ x = b₂) : (rename addr pol s a₁ src₁ b₁ dst₁).2 x = s x :=
    rename_frame_eq addr pol s src₁ dst₁ (hne (.inl rfl) hx).symm (hne (.inr rfl) hx).symm
  obtain ⟨e₁, f₁⟩ := rename_congr addr pol src₁ dst₁ (h₁ (.inl rfl)) (h₁ (.inr rfl))
  obtain ⟨e₂, f₂⟩ := rename_congr addr pol src₂ dst₂ (h₂ (.inl rfl)) (h₂ (.inr rfl))
  refine ⟨e₂, e₁, funext fun x => ?_⟩
  by_cases hx₁ : x = a₁ ∨ x = b₁
  · rw [rename_frame_eq addr pol _ src₂ dst₂ (hne hx₁ (.inl rfl)) (hne hx₁ (.inr rfl)),
      f₁ x hx₁]
  rw [not_or] at hx₁
  by_cases hx₂ : x = a₂ ∨ x = b₂
  · rw [f₂ x hx₂, rename_frame_eq addr pol _ src₁ dst₁ hx₁.1 hx₁.2]
  rw [not_or] at hx₂
  -- a directory neither call names is kept by both orders
  rw [rename_frame_eq addr pol _ src₂ dst₂ hx₂.1 hx₂.2,
    rename_frame_eq addr pol _ src₁ dst₁ hx₁.1 hx₁.2, rename_frame_eq addr pol _ src₁ dst₁ hx₁.1 hx₁.2,
    rename_frame_eq addr pol _ src₂ dst₂ hx₂.1 hx₂.2]

/-- A step keeps every thread's lock program. -/
theorem LockStep.locks_eq {ts ts' : List LockThread} (h : LockStep ts ts') {i : Nat}
    {t' : LockThread} (ht' : ts'[i]? = some t') : ∃ t, ts[i]? = some t ∧ t'.locks = t.locks := by
  cases h with
  | acquire hi _ _ | release hi _ _ =>
    rcases getElem?_set_eq_some ht' with ⟨rfl, rfl⟩ | ⟨-, h'⟩
    · exact ⟨_, hi, rfl⟩
    · exact ⟨t', h', rfl⟩

/-- Each thread of a reachable state runs the lock program of its call. -/
theorem reachable_locks {addr : Nat → Nat} {calls : List (Nat × Nat)} {ts : List LockThread}
    (h : Relation.ReflTransGen LockStep (renameThreads addr calls) ts) :
    ∀ {i : Nat} {t : LockThread}, ts[i]? = some t →
      ∃ a b, calls[i]? = some (a, b) ∧ t.locks = renameLocks addr a b := by
  induction h with
  | refl =>
    intro i t ht
    simp only [renameThreads, List.getElem?_map, Option.map_eq_some'] at ht
    obtain ⟨⟨a, b⟩, hc, rfl⟩ := ht
    exact ⟨a, b, hc, rfl⟩
  | tail _ hs ih =>
    intro i t ht
    obtain ⟨t₀, h₀, he⟩ := hs.locks_eq ht
    obtain ⟨a, b, hc, hl⟩ := ih h₀
    exact ⟨a, b, hc, he.trans hl⟩

/-- A thread holds every lock of its program and has not returned. -/
def LockThread.HoldsAll (t : LockThread) : Prop :=
  t.finished = false ∧ t.acquired = t.locks.length

theorem LockThread.held_of_holdsAll {t : LockThread} (h : t.HoldsAll) : t.held = t.locks := by
  simp [LockThread.held, h.1, h.2]

/-- Renames that hold their locks at the same time commute. In every reachable state of the lock
steps of any `rename` calls, two distinct calls that both hold all their locks hold disjoint lock
sets; so for every policy, store and names, running the two renames in either order answers the
same statuses and leaves the same store. -/
theorem rename_disjoint_commute (addr : Nat → Nat) (calls : List (Nat × Nat))
    (ts : List LockThread) (h : Relation.ReflTransGen LockStep (renameThreads addr calls) ts)
    {i j : Nat} (hij : i ≠ j) {t u : LockThread} (ht : ts[i]? = some t) (hu : ts[j]? = some u)
    (hti : t.HoldsAll) (huj : u.HoldsAll) :
    ∃ a₁ b₁ a₂ b₂, calls[i]? = some (a₁, b₁) ∧ calls[j]? = some (a₂, b₂) ∧
      (∀ l ∈ renameLocks addr a₁ b₁, l ∉ renameLocks addr a₂ b₂) ∧
      ∀ (pol : InsertPolicies) (s : Store) (src₁ dst₁ src₂ dst₂ : String),
        (rename addr pol (rename addr pol s a₁ src₁ b₁ dst₁).2 a₂ src₂ b₂ dst₂).1 =
            (rename addr pol s a₂ src₂ b₂ dst₂).1 ∧
        (rename addr pol (rename addr pol s a₂ src₂ b₂ dst₂).2 a₁ src₁ b₁ dst₁).1 =
            (rename addr pol s a₁ src₁ b₁ dst₁).1 ∧
        (rename addr pol (rename addr pol s a₁ src₁ b₁ dst₁).2 a₂ src₂ b₂ dst₂).2 =
            (rename addr pol (rename addr pol s a₂ src₂ b₂ dst₂).2 a₁ src₁ b₁ dst₁).2 := by
  obtain ⟨a₁, b₁, hc₁, hl₁⟩ := reachable_locks h ht
  obtain ⟨a₂, b₂, hc₂, hl₂⟩ := reachable_locks h hu
  have hex := (reachable_lockInvariant h (lockInvariant_renameThreads addr calls)).exclusive
  -- the two calls hold their whole lock programs, which no lock is in twice
  have hdis : ∀ l ∈ renameLocks addr a₁ b₁, l ∉ renameLocks addr a₂ b₂ := by
    rw [← hl₁, ← hl₂, ← t.held_of_holdsAll hti, ← u.held_of_holdsAll huj]
    exact hex i j t u hij ht hu
  exact ⟨a₁, b₁, a₂, b₂, hc₁, hc₂, hdis, fun pol s src₁ dst₁ src₂ dst₂ =>
    rename_commute_of_disjoint addr pol s a₁ src₁ b₁ dst₁ a₂ src₂ b₂ dst₂ hdis⟩

/-- `rename_disjoint_commute` for a rename from directory 0 to 1 and one from 2 to 3, once both
hold their two locks. -/
theorem rename_disjoint_commute_apart :
    let ts : List LockThread := [⟨[0, 1], 2, false⟩, ⟨[2, 3], 2, false⟩]
    Relation.ReflTransGen LockStep (renameThreads id [(0, 1), (2, 3)]) ts ∧ (0 : Nat) ≠ 1 ∧
    ts[0]? = some ⟨[0, 1], 2, false⟩ ∧ ts[1]? = some ⟨[2, 3], 2, false⟩ ∧
    LockThread.HoldsAll ⟨[0, 1], 2, false⟩ ∧ LockThread.HoldsAll ⟨[2, 3], 2, false⟩ ∧
    ∃ a₁ b₁ a₂ b₂, [(0, 1), (2, 3)][0]? = some (a₁, b₁) ∧ [(0, 1), (2, 3)][1]? = some (a₂, b₂) ∧
      (∀ l ∈ renameLocks id a₁ b₁, l ∉ renameLocks id a₂ b₂) ∧
      ∀ (pol : InsertPolicies) (s : Store) (src₁ dst₁ src₂ dst₂ : String),
        (rename id pol (rename id pol s a₁ src₁ b₁ dst₁).2 a₂ src₂ b₂ dst₂).1 =
            (rename id pol s a₂ src₂ b₂ dst₂).1 ∧
        (rename id pol (rename id pol s a₂ src₂ b₂ dst₂).2 a₁ src₁ b₁ dst₁).1 =
            (rename id pol s a₁ src₁ b₁ dst₁).1 ∧
        (rename id pol (rename id pol s a₁ src₁ b₁ dst₁).2 a₂ src₂ b₂ dst₂).2 =
            (rename id pol (rename id pol s a₂ src₂ b₂ dst₂).2 a₁ src₁ b₁ dst₁).2 := by
  intro ts
  -- the first call takes 0 and 1, then the second takes 2 and 3
  have s₁ : LockStep (renameThreads id [(0, 1), (2, 3)])
      [⟨[0, 1], 1, false⟩, ⟨[2, 3], 0, false⟩] :=
    LockStep.acquire_free (i := 0) (t := ⟨[0, 1], 0, false⟩) (l := 0) rfl rfl (by decide)
  have s₂ : LockStep [⟨[0, 1], 1, false⟩, ⟨[2, 3], 0, false⟩]
      [⟨[0, 1], 2, false⟩, ⟨[2, 3], 0, false⟩] :=
    LockStep.acquire_free (i := 0) (t := ⟨[0, 1], 1, false⟩) (l := 1) rfl rfl (by decide)
  have s₃ : LockStep [⟨[0, 1], 2, false⟩, ⟨[2, 3], 0, false⟩]
      [⟨[0, 1], 2, false⟩, ⟨[2, 3], 1, false⟩] :=
    LockStep.acquire_free (i := 1) (t := ⟨[2, 3], 0, false⟩) (l := 2) rfl rfl (by decide)
  have s₄ : LockStep [⟨[0, 1], 2, false⟩, ⟨[2, 3], 1, false⟩] ts :=
    LockStep.acquire_free (i := 1) (t := ⟨[2, 3], 1, false⟩) (l := 3) rfl rfl (by decide)
  have hrun := Relation.ReflTransGen.tail (.tail (.tail (.single s₁) s₂) s₃) s₄
  exact ⟨hrun, by decide, rfl, rfl, ⟨rfl, rfl⟩, ⟨rfl, rfl⟩,
    rename_disjoint_commute id [(0, 1), (2, 3)] ts hrun (by decide) rfl rfl ⟨rfl, rfl⟩ ⟨rfl, rfl⟩⟩

end FuchsiaVfs
