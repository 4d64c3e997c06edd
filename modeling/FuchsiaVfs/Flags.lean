import FuchsiaVfs.Io

/-!
# Flag validation and rights inheritance

The pure flag functions of `directory/common.rs`: `newConnectionValidateFlags`, which a new
directory connection runs on its flags, and `checkChildConnectionFlags`, which a directory
runs before it hands an `Open` to a child. `stricterOrSameRights` and `inheritRightsForClone`
live in `vfs/rust/src/common.rs`, which is not under `src/`; they are modelled from the spec.

`open_child_rights_within` is the rights-narrowing property of an `Open`: the POSIX bits that
`checkChildConnectionFlags` lets through (`checkChildConnectionFlags_posix`) are exactly those
whose rights the parent holds, so the expansion `newConnectionValidateFlags` performs on them
(`newConnectionValidateFlags_rights`) never adds a right the parent lacks. A clone soft-fails
its POSIX flags the same way (`inheritRightsForClone_posix`), so it narrows too
(`clone_validate_rightsWithin`).
-/

namespace FuchsiaVfs

open BitVec

/-- The rights mask, `OPEN_RIGHT_READABLE | OPEN_RIGHT_WRITABLE | OPEN_RIGHT_ADMIN |
OPEN_RIGHT_EXECUTABLE`. -/
def openRights : BitVec 32 :=
  openRightReadable ||| openRightWritable ||| openRightAdmin ||| openRightExecutable

/-- Modelled from the spec: `stricter_or_same_rights` of `vfs/rust/src/common.rs` (not under
`src/`). Spec §4.1: "child's requested rights must be a subset of parent's rights". -/
def stricterOrSameRights (parentFlags flags : BitVec 32) : Bool :=
  flags &&& openRights &&& ~~~(parentFlags &&& openRights) == 0

/-- The POSIX block of `new_connection_validate_flags` (`common.rs:44-58`): the deprecated flag
expands to both POSIX flags, each surviving POSIX flag to its right, and the POSIX flags are
then removed. -/
def expandPosixRights (flags : BitVec 32) : BitVec 32 :=
  let flags := if flags &&& openFlagPosixDeprecated != 0 then
    flags ||| openFlagPosixWritable ||| openFlagPosixExecutable else flags
  let flags := if flags &&& (openFlagPosixDeprecated ||| openFlagPosixExecutable) != 0 then
    flags ||| openRightExecutable else flags
  let flags := if flags &&& (openFlagPosixDeprecated ||| openFlagPosixWritable) != 0 then
    flags ||| openRightWritable else flags
  flags &&& ~~~(openFlagPosixDeprecated ||| openFlagPosixWritable ||| openFlagPosixExecutable)

/-- `new_connection_validate_flags` (`common.rs:31`): the flags a new directory connection is
created with, or the status it is refused with. -/
def newConnectionValidateFlags (flags : BitVec 32) : Except Status (BitVec 32) :=
  let flags := if flags &&& openFlagNodeReference != 0 then
    flags &&& openFlagsAllowedWithNodeReference else flags
  let flags := if flags &&& openFlagDirectory != 0 then flags &&& ~~~openFlagDirectory else flags
  if flags &&& openFlagNotDirectory != 0 then .error .notFile
  else
    let flags := expandPosixRights flags
    let allowedFlags := openFlagNodeReference ||| openFlagDescribe ||| openFlagCreate |||
      openFlagCreateIfAbsent ||| openFlagDirectory ||| openRightReadable ||| openRightWritable |||
      openRightExecutable
    let prohibitedFlags := openFlagAppend ||| openFlagTruncate
    if flags &&& prohibitedFlags != 0 then .error .invalidArgs
    else if flags &&& ~~~allowedFlags != 0 then .error .notSupported
    else .ok flags

/-- The mode half of `check_child_connection_flags` (`common.rs:91-105`): a mode with no type
takes the directory type from `OPEN_FLAG_DIRECTORY`; a typed mode must agree with the
flags. -/
def checkChildMode (flags mode : BitVec 32) : Except Status (BitVec 32) :=
  let modeType := mode &&& modeTypeMask
  if modeType == 0 then
    .ok (if flags &&& openFlagDirectory != 0 then mode ||| modeTypeDirectory else mode)
  else if flags &&& openFlagDirectory != 0 && modeType != modeTypeDirectory then
    .error .invalidArgs
  else if flags &&& openFlagNotDirectory != 0 && modeType == modeTypeDirectory then
    .error .invalidArgs
  else .ok mode

/-- The POSIX handling of `check_child_connection_flags` (`common.rs:123-135`): the deprecated
flag is expanded, and a POSIX flag whose right the parent lacks is dropped ("soft fail"). -/
def posixSoftFail (parentFlags flags : BitVec 32) : BitVec 32 :=
  let flags := if flags &&& openFlagPosixDeprecated != 0 then
    (flags ||| openFlagPosixWritable ||| openFlagPosixExecutable) &&& ~~~openFlagPosixDeprecated
    else flags
  let flags := if parentFlags &&& openRightExecutable == 0 then
    flags &&& ~~~openFlagPosixExecutable else flags
  if parentFlags &&& openRightWritable == 0 then flags &&& ~~~openFlagPosixWritable else flags

/-- Modelled from the spec: `inherit_rights_for_clone` of `vfs/rust/src/common.rs` (not under
`src/`). Spec §4.1: "if SAME_RIGHTS requested, clone flags ignore any explicit rights and copy
parent's; explicit rights in clone must still be ⊆ parent's"; and spec §4.3: Clone uses "the same
rights-inheritance logic as Open", so the POSIX flags soft-fail as in
`check_child_connection_flags` (`posixSoftFail`). -/
def inheritRightsForClone (parentFlags flags : BitVec 32) : Except Status (BitVec 32) :=
  let flags := posixSoftFail parentFlags flags
  if flags &&& cloneFlagSameRights != 0 then
    .ok (flags &&& ~~~(cloneFlagSameRights ||| openRights) ||| parentFlags &&& openRights)
  else if stricterOrSameRights parentFlags flags then .ok flags
  else .error .accessDenied

/-- `check_child_connection_flags` (`common.rs:86`): the flags and mode an `Open` passes to a
child, or the status it is refused with. -/
def checkChildConnectionFlags (parentFlags flags mode : BitVec 32) :
    Except Status (BitVec 32 × BitVec 32) :=
  match checkChildMode flags mode with
  | .error e => .error e
  | .ok mode =>
    if flags &&& (openFlagNotDirectory ||| openFlagDirectory) ==
        openFlagNotDirectory ||| openFlagDirectory then .error .invalidArgs
    else if flags &&& openFlagCreateIfAbsent != 0 && flags &&& openFlagCreate == 0 then
      .error .invalidArgs
    else if flags &&& cloneFlagSameRights != 0 then .error .invalidArgs
    else
      let flags := posixSoftFail parentFlags flags
      if flags &&& openFlagCreate != 0 && parentFlags &&& openRightWritable == 0 then
        .error .accessDenied
      else if stricterOrSameRights parentFlags flags then .ok (flags, mode)
      else .error .accessDenied

/-! ## The validator's right bits -/

/-- A flag word `stricterOrSameRights` accepts holds no right its parent lacks. -/
theorem rightsWithin_of_stricterOrSameRights {p f : BitVec 32}
    (h : stricterOrSameRights p f = true) : RightsWithin f p := by
  simp only [stricterOrSameRights, openRights, beq_iff_eq] at h
  have hi (i : Nat) := congrArg (·.getLsbD i) h
  simp only [openRightReadable_eq, openRightWritable_eq, openRightAdmin_eq, openRightExecutable_eq,
    getLsbD_and, getLsbD_or, getLsbD_not, getLsbD_twoPow, getLsbD_zero] at hi
  refine (rightsWithin_iff f p).2 ⟨fun hf => ?_, fun hf => ?_, fun hf => ?_, fun hf => ?_⟩
  · simpa [hf] using hi 0
  · simpa [hf] using hi 1
  · simpa [hf] using hi 3
  · simpa [hf] using hi 2

/-- A bit of a conditional word is the bit of the word the condition picks. -/
theorem getLsbD_ite {w : Nat} (c : Prop) [Decidable c] (x y : BitVec w) (i : Nat) :
    (if c then x else y).getLsbD i = if c then x.getLsbD i else y.getLsbD i := by
  split_ifs <;> rfl

/-- The POSIX expansion keeps `READABLE` and `ADMIN`, and grants `WRITABLE` and `EXECUTABLE`
exactly from the right itself, the deprecated flag, or the matching POSIX flag. -/
theorem expandPosixRights_rights (f : BitVec 32) :
    (expandPosixRights f &&& openRightReadable ≠ 0 ↔ f &&& openRightReadable ≠ 0) ∧
    (expandPosixRights f &&& openRightWritable ≠ 0 ↔ f &&& openRightWritable ≠ 0 ∨
      f &&& openFlagPosixDeprecated ≠ 0 ∨ f &&& openFlagPosixWritable ≠ 0) ∧
    (expandPosixRights f &&& openRightExecutable ≠ 0 ↔ f &&& openRightExecutable ≠ 0 ∨
      f &&& openFlagPosixDeprecated ≠ 0 ∨ f &&& openFlagPosixExecutable ≠ 0) ∧
    (expandPosixRights f &&& openRightAdmin ≠ 0 ↔ f &&& openRightAdmin ≠ 0) := by
  unfold expandPosixRights
  simp only [openFlagPosixDeprecated_eq, openFlagPosixWritable_eq, openFlagPosixExecutable_eq,
    openRightReadable_eq, openRightWritable_eq, openRightExecutable_eq, openRightAdmin_eq,
    ofNat_eq_ofNat, bne_iff_ne, ne_eq, and_twoPow_eq_zero, and_or_eq_zero, getLsbD_ite, getLsbD_or,
    getLsbD_and, getLsbD_not, getLsbD_twoPow, Nat.reduceLT, Nat.reduceEqDiff, decide_True,
    decide_False, Bool.and_false, Bool.or_false, Bool.and_true, Bool.or_true, Bool.not_false,
    Bool.not_true, ite_self, Nat.lt_irrefl]
  -- What is left is a fact about five bits of `f`.
  generalize f.getLsbD 1 = b1, f.getLsbD 3 = b3, f.getLsbD 24 = b24, f.getLsbD 27 = b27,
    f.getLsbD 28 = b28
  revert b1 b3 b24 b27 b28
  decide

/-- What `newConnectionValidateFlags` accepts: the node-reference mask and the directory flag
leave a word `f'` of bits of `f` with no `DIRECTORY` and no `NOT_DIRECTORY`, and under
`NODE_REFERENCE` only the flags allowed with it; the result is its POSIX expansion, which holds no
prohibited and only allowed flags. -/
theorem newConnectionValidateFlags_eq_ok {f g : BitVec 32}
    (h : newConnectionValidateFlags f = .ok g) :
    ∃ f', (∀ i, f'.getLsbD i → f.getLsbD i) ∧ f' &&& openFlagNotDirectory = 0 ∧
      f' &&& openFlagDirectory = 0 ∧
      (f' &&& openFlagNodeReference ≠ 0 → f' &&& ~~~openFlagsAllowedWithNodeReference = 0) ∧
      g = expandPosixRights f' ∧ g &&& (openFlagAppend ||| openFlagTruncate) = 0 ∧
      g &&& ~~~(openFlagNodeReference ||| openFlagDescribe ||| openFlagCreate |||
        openFlagCreateIfAbsent ||| openFlagDirectory ||| openRightReadable ||| openRightWritable |||
        openRightExecutable) = 0 := by
  unfold newConnectionValidateFlags at h
  simp only at h
  generalize hm : (if f &&& openFlagNodeReference != 0 then
    f &&& openFlagsAllowedWithNodeReference else f) = f₁ at h
  generalize hd : (if f₁ &&& openFlagDirectory != 0 then
    f₁ &&& ~~~openFlagDirectory else f₁) = f₂ at h
  have hand {a b : BitVec 32} {i : Nat} (hi : (a &&& b).getLsbD i) : a.getLsbD i := by
    simp only [getLsbD_and, Bool.and_eq_true] at hi
    exact hi.1
  -- The mask keeps bits of `f`, and under `NODE_REFERENCE` only the allowed ones.
  have h₁ : (∀ i, f₁.getLsbD i → f.getLsbD i) ∧
      (f₁ &&& openFlagNodeReference ≠ 0 → f₁ &&& ~~~openFlagsAllowedWithNodeReference = 0) := by
    subst hm
    split_ifs with hn
    · refine ⟨fun i => hand, fun _ => ?_⟩
      rw [BitVec.and_assoc, show openFlagsAllowedWithNodeReference &&&
        ~~~openFlagsAllowedWithNodeReference = 0 by decide]
      exact BitVec.and_zero
    · simp only [bne_iff_ne, ne_eq, Classical.not_not] at hn
      exact ⟨fun i hi => hi, fun h' => absurd hn h'⟩
  -- Dropping `DIRECTORY` keeps bits of the masked word.
  have h₂ : (∀ i, f₂.getLsbD i → f₁.getLsbD i) ∧ f₂ &&& openFlagDirectory = 0 := by
    subst hd
    split_ifs with hd'
    · exact ⟨fun i => hand, and_not_and_eq_zero _ _⟩
    · simp only [bne_iff_ne, ne_eq, Classical.not_not] at hd'
      exact ⟨fun i hi => hi, hd'⟩
  split_ifs at h with h1 h2 h3
  cases h
  simp only [bne_iff_ne, ne_eq, Classical.not_not] at h1 h2 h3
  refine ⟨f₂, fun i hi => h₁.1 i (h₂.1 i hi), h1, h₂.2, fun hn => ?_, rfl, h2, h3⟩
  exact and_eq_zero_of_le h₂.1 (h₁.2 (and_ne_zero_mono h₂.1 hn))

/-- The right bits of a validated word: `READABLE` and `ADMIN` come from the input, and
`WRITABLE` and `EXECUTABLE` from the input's right or one of its POSIX flags. -/
theorem newConnectionValidateFlags_rights {f g : BitVec 32}
    (h : newConnectionValidateFlags f = .ok g) :
    (g &&& openRightReadable ≠ 0 → f &&& openRightReadable ≠ 0) ∧
    (g &&& openRightWritable ≠ 0 → f &&& openRightWritable ≠ 0 ∨
      f &&& openFlagPosixDeprecated ≠ 0 ∨ f &&& openFlagPosixWritable ≠ 0) ∧
    (g &&& openRightExecutable ≠ 0 → f &&& openRightExecutable ≠ 0 ∨
      f &&& openFlagPosixDeprecated ≠ 0 ∨ f &&& openFlagPosixExecutable ≠ 0) ∧
    (g &&& openRightAdmin ≠ 0 → f &&& openRightAdmin ≠ 0) := by
  obtain ⟨f', hle, -, -, -, rfl, -⟩ := newConnectionValidateFlags_eq_ok h
  obtain ⟨hr, hw, hx, ha⟩ := expandPosixRights_rights f'
  have m {c : BitVec 32} : f' &&& c ≠ 0 → f &&& c ≠ 0 := and_ne_zero_mono hle
  exact ⟨fun h => m (hr.1 h), fun h => (hw.1 h).imp m (Or.imp m m),
    fun h => (hx.1 h).imp m (Or.imp m m), fun h => m (ha.1 h)⟩

/-! ## The validator's normal form -/

/-- The POSIX expansion touches only the `WRITABLE`, `EXECUTABLE` and POSIX bits. -/
theorem getLsbD_expandPosixRights (f : BitVec 32) {i : Nat} (h1 : i ≠ 1) (h3 : i ≠ 3)
    (h24 : i ≠ 24) (h27 : i ≠ 27) (h28 : i ≠ 28) :
    (expandPosixRights f).getLsbD i = f.getLsbD i := by
  unfold expandPosixRights
  simp only [getLsbD_and, getLsbD_not, getLsbD_ite, getLsbD_or, openFlagPosixDeprecated_eq,
    openFlagPosixWritable_eq, openFlagPosixExecutable_eq, openRightWritable_eq, openRightExecutable_eq,
    getLsbD_twoPow, Ne.symm h1, Ne.symm h3, Ne.symm h24, Ne.symm h27, Ne.symm h28, decide_False,
    Bool.and_false, Bool.or_false, Bool.not_false, Bool.and_true, ite_self]
  cases hf : f.getLsbD i
  · rfl
  · simp [BitVec.lt_of_getLsbD hf]

/-- No POSIX flag is left after the expansion. -/
theorem expandPosixRights_and_posix (f : BitVec 32) : expandPosixRights f &&&
    (openFlagPosixDeprecated ||| openFlagPosixWritable ||| openFlagPosixExecutable) = 0 :=
  and_not_and_eq_zero _ _

/-- A word with no POSIX flag is its own expansion. -/
theorem expandPosixRights_eq_self {f : BitVec 32}
    (h : f &&& (openFlagPosixDeprecated ||| openFlagPosixWritable ||| openFlagPosixExecutable) = 0) :
    expandPosixRights f = f := by
  have hb := h
  simp only [ofNat_eq_ofNat, and_or_eq_zero] at hb
  obtain ⟨⟨hd, hw⟩, hx⟩ := hb
  unfold expandPosixRights
  simp only [ofNat_eq_ofNat, bne_iff_ne, ne_eq, and_or_eq_zero, hd, hw, hx, and_true,
    not_true_eq_false, if_false]
  exact and_not_eq_self h

/-- `new_connection_validate_flags` maps every accepted word to a fixed point: the result holds
no `DIRECTORY`, `NOT_DIRECTORY`, POSIX, `APPEND` or `TRUNCATE` flag, is accepted again unchanged,
and under `NODE_REFERENCE` holds no right, since the POSIX expansion runs on the masked word. -/
theorem newConnectionValidateFlags_normal_form {f g : BitVec 32}
    (h : newConnectionValidateFlags f = .ok g) :
    newConnectionValidateFlags g = .ok g ∧
    g &&& (openFlagDirectory ||| openFlagNotDirectory ||| openFlagPosixDeprecated |||
      openFlagPosixWritable ||| openFlagPosixExecutable ||| openFlagAppend ||| openFlagTruncate) = 0 ∧
    (g &&& openFlagNodeReference ≠ 0 → g &&& openRights = 0) := by
  obtain ⟨f', -, -, hd, hn, hg, hp, ha⟩ := newConnectionValidateFlags_eq_ok h
  have hP : g &&& (openFlagPosixDeprecated ||| openFlagPosixWritable ||| openFlagPosixExecutable) = 0 :=
    hg ▸ expandPosixRights_and_posix f'
  have hD : g &&& openFlagDirectory = 0 := by
    simpa [hg, getLsbD_expandPosixRights f' (i := 19)] using hd
  have hND : g &&& openFlagNotDirectory = 0 := and_eq_zero_of_and_not ha (by decide)
  have hM : g &&& openFlagNodeReference ≠ 0 → g &&& ~~~openFlagsAllowedWithNodeReference = 0 := by
    intro hr
    have hr' : f' &&& openFlagNodeReference ≠ 0 := by
      simpa [hg, getLsbD_expandPosixRights f' (i := 22)] using hr
    have hfP := and_eq_zero_of_and_not (hn hr') (c := openFlagPosixDeprecated |||
      openFlagPosixWritable ||| openFlagPosixExecutable) (by decide)
    rw [hg, expandPosixRights_eq_self hfP]
    exact hn hr'
  refine ⟨?_, ?_, fun hr => and_eq_zero_of_and_not (hM hr) (by decide)⟩
  · have h1 : (if g &&& openFlagNodeReference != 0 then
        g &&& openFlagsAllowedWithNodeReference else g) = g := by
      split_ifs with hr
      · simpa using and_not_eq_self (hM (by simpa using hr))
      · rfl
    unfold newConnectionValidateFlags
    simp only [h1, hD, hND, expandPosixRights_eq_self hP, hp, ha, bne_self_eq_false,
      Bool.false_eq_true, if_false]
  · simp only [ofNat_eq_ofNat, and_or_eq_zero] at hP hp ⊢
    exact ⟨⟨⟨⟨⟨⟨hD, hND⟩, hP.1.1⟩, hP.1.2⟩, hP.2⟩, hp.1⟩, hp.2⟩

/-- `newConnectionValidateFlags_normal_form` on a node-reference request with a right and the
deprecated POSIX flag: both are dropped. -/
theorem newConnectionValidateFlags_normal_form_nodeReference :
    newConnectionValidateFlags (openFlagNodeReference ||| openRightReadable ||| openFlagPosixDeprecated) =
      .ok openFlagNodeReference ∧
    (newConnectionValidateFlags openFlagNodeReference = .ok openFlagNodeReference ∧
    openFlagNodeReference &&& (openFlagDirectory ||| openFlagNotDirectory ||| openFlagPosixDeprecated |||
      openFlagPosixWritable ||| openFlagPosixExecutable ||| openFlagAppend ||| openFlagTruncate) = 0 ∧
    (openFlagNodeReference &&& openFlagNodeReference ≠ 0 → openFlagNodeReference &&& openRights = 0)) :=
  ⟨rfl, newConnectionValidateFlags_normal_form
    (f := openFlagNodeReference ||| openRightReadable ||| openFlagPosixDeprecated) rfl⟩

/-! ## The child check -/

/-- After the soft fail no deprecated flag is left, and a POSIX flag survives only where the
parent holds its right. -/
theorem posixSoftFail_posix (p f : BitVec 32) :
    posixSoftFail p f &&& openFlagPosixDeprecated = 0 ∧
    (posixSoftFail p f &&& openFlagPosixWritable ≠ 0 → p &&& openRightWritable ≠ 0) ∧
    (posixSoftFail p f &&& openFlagPosixExecutable ≠ 0 → p &&& openRightExecutable ≠ 0) := by
  unfold posixSoftFail
  simp only [openFlagPosixDeprecated_eq, openFlagPosixWritable_eq, openFlagPosixExecutable_eq,
    openRightWritable_eq, openRightExecutable_eq, ofNat_eq_ofNat, beq_iff_eq, bne_iff_ne, ne_eq,
    and_twoPow_eq_zero, getLsbD_ite, getLsbD_or, getLsbD_and, getLsbD_not, getLsbD_twoPow,
    Nat.reduceLT, Nat.reduceEqDiff, decide_True, decide_False, Bool.and_false, Bool.or_false,
    Bool.and_true, Bool.or_true, Bool.not_false, Bool.not_true, ite_self]
  generalize f.getLsbD 24 = b24, f.getLsbD 27 = b27, f.getLsbD 28 = b28, p.getLsbD 1 = b1,
    p.getLsbD 3 = b3
  revert b24 b27 b28 b1 b3
  decide

/-- A mode with the directory type bit has a type. -/
theorem or_modeTypeDirectory_type_ne_zero (mode : BitVec 32) :
    (mode ||| modeTypeDirectory) &&& modeTypeMask ≠ 0 := fun h => by
  simpa [modeTypeDirectory, modeTypeMask] using congrArg (getLsbD · 14) h

/-- A typed mode passes the mode check unchanged, and only if the type agrees with the flags:
the directory type under `OPEN_FLAG_DIRECTORY`, another type under `OPEN_FLAG_NOT_DIRECTORY`. -/
theorem checkChildMode_typed {f mode m' : BitVec 32} (ht : mode &&& modeTypeMask ≠ 0)
    (h : checkChildMode f mode = .ok m') :
    m' = mode ∧ (f &&& openFlagDirectory ≠ 0 → mode &&& modeTypeMask = modeTypeDirectory) ∧
    (f &&& openFlagNotDirectory ≠ 0 → mode &&& modeTypeMask ≠ modeTypeDirectory) := by
  unfold checkChildMode at h
  simp only [beq_iff_eq, ht, if_false] at h
  split_ifs at h with h1 h2
  cases h
  simp only [Bool.and_eq_true, bne_iff_ne, beq_iff_eq, ne_eq, not_and, Classical.not_not] at h1 h2
  exact ⟨rfl, h1, h2⟩

/-- What `checkChildConnectionFlags` accepts, guards included. -/
theorem checkChildConnectionFlags_eq_ok {p f m f' m' : BitVec 32}
    (h : checkChildConnectionFlags p f m = .ok (f', m')) :
    checkChildMode f m = .ok m' ∧
    f &&& (openFlagNotDirectory ||| openFlagDirectory) ≠ openFlagNotDirectory ||| openFlagDirectory ∧
    ¬(f &&& openFlagCreateIfAbsent ≠ 0 ∧ f &&& openFlagCreate = 0) ∧
    f &&& cloneFlagSameRights = 0 ∧ f' = posixSoftFail p f ∧
    ¬(f' &&& openFlagCreate ≠ 0 ∧ p &&& openRightWritable = 0) ∧
    stricterOrSameRights p f' = true := by
  unfold checkChildConnectionFlags at h
  cases hm : checkChildMode f m with
  | error e => simp [hm] at h
  | ok m₁ =>
    simp only [hm] at h
    split_ifs at h with h1 h2 h3 h4 h5
    cases h
    simp only [beq_iff_eq, bne_iff_ne, Bool.and_eq_true, ne_eq, Classical.not_not] at h1 h2 h3 h4
    exact ⟨rfl, h1, h2, h3, rfl, h4, h5⟩

/-- The child flags carry no deprecated flag, a POSIX flag only where the parent has its
right, and no right the parent lacks. -/
theorem checkChildConnectionFlags_posix {p f m f' m' : BitVec 32}
    (h : checkChildConnectionFlags p f m = .ok (f', m')) :
    f' &&& openFlagPosixDeprecated = 0 ∧
    (f' &&& openFlagPosixWritable ≠ 0 → p &&& openRightWritable ≠ 0) ∧
    (f' &&& openFlagPosixExecutable ≠ 0 → p &&& openRightExecutable ≠ 0) ∧
    RightsWithin f' p := by
  obtain ⟨-, -, -, -, rfl, -, hs⟩ := checkChildConnectionFlags_eq_ok h
  exact ⟨(posixSoftFail_posix p f).1, (posixSoftFail_posix p f).2.1, (posixSoftFail_posix p f).2.2,
    rightsWithin_of_stricterOrSameRights hs⟩

/-- The clone flags, like the child flags, carry no deprecated flag, a POSIX flag only where
the parent has its right, and no right the parent lacks: `SAME_RIGHTS` replaces the rights by the
parent's and keeps the POSIX bits of the soft fail. -/
theorem inheritRightsForClone_posix {p f f' : BitVec 32}
    (h : inheritRightsForClone p f = .ok f') :
    f' &&& openFlagPosixDeprecated = 0 ∧
    (f' &&& openFlagPosixWritable ≠ 0 → p &&& openRightWritable ≠ 0) ∧
    (f' &&& openFlagPosixExecutable ≠ 0 → p &&& openRightExecutable ≠ 0) ∧
    RightsWithin f' p := by
  have hsf := posixSoftFail_posix p f
  unfold inheritRightsForClone at h
  dsimp only at h
  split_ifs at h with hs hr
  · cases h
    generalize posixSoftFail p f = sf at hsf
    simp only [openFlagPosixDeprecated_eq, openFlagPosixWritable_eq, openFlagPosixExecutable_eq,
      openRightWritable_eq, openRightExecutable_eq, cloneFlagSameRights_eq, openRights,
      openRightReadable_eq, openRightAdmin_eq, ofNat_eq_ofNat, ne_eq, and_twoPow_eq_zero,
      getLsbD_or, getLsbD_and, getLsbD_not, getLsbD_twoPow, Nat.reduceLT, Nat.reduceEqDiff,
      decide_True, decide_False, Bool.and_false, Bool.or_false, Bool.and_true, Bool.not_false,
      Bool.not_true, Bool.false_or, Bool.or_true, Bool.not_or, rightsWithin_iff] at hsf ⊢
    exact ⟨hsf.1, hsf.2.1, hsf.2.2, id, id, id, id⟩
  · cases h
    exact ⟨hsf.1, hsf.2.1, hsf.2.2, rightsWithin_of_stricterOrSameRights hr⟩

/-! ## Rights narrow along `Open` -/

/-- `RightsWithin` is transitive: narrowing twice narrows. -/
theorem RightsWithin.trans {a b c : BitVec 32} (hab : RightsWithin a b) (hbc : RightsWithin b c) :
    RightsWithin a c :=
  fun r hr h => hbc r hr (hab r hr h)

/-- A word whose rights are within `p`, with no deprecated flag and a POSIX flag only where `p`
holds its right, validates to a connection with no right `p` lacks. -/
theorem validate_rightsWithin_of_posix {p f' g : BitVec 32}
    (hdep : f' &&& openFlagPosixDeprecated = 0)
    (hpw : f' &&& openFlagPosixWritable ≠ 0 → p &&& openRightWritable ≠ 0)
    (hpx : f' &&& openFlagPosixExecutable ≠ 0 → p &&& openRightExecutable ≠ 0)
    (hr : RightsWithin f' p) (hv : newConnectionValidateFlags f' = .ok g) : RightsWithin g p := by
  obtain ⟨gr, gw, gx, ga⟩ := newConnectionValidateFlags_rights hv
  intro r hr'
  simp only [List.mem_cons, List.mem_singleton, List.not_mem_nil, or_false] at hr'
  rcases hr' with rfl | rfl | rfl | rfl
  · exact fun h => hr _ (by simp) (gr h)
  · exact fun h => (gw h).elim (hr _ (by simp)) (·.elim (absurd hdep) hpw)
  · exact fun h => (gx h).elim (hr _ (by simp)) (·.elim (absurd hdep) hpx)
  · exact fun h => hr _ (by simp) (ga h)

/-- One child `Open` never escalates: the connection `newConnectionValidateFlags` creates from
the child flags holds no right the parent lacks, although it turns the POSIX flags that survive
into rights. -/
theorem checkChild_validate_rightsWithin {p f m f' m' g : BitVec 32}
    (hc : checkChildConnectionFlags p f m = .ok (f', m'))
    (hv : newConnectionValidateFlags f' = .ok g) : RightsWithin g p := by
  obtain ⟨hdep, hpw, hpx, hr⟩ := checkChildConnectionFlags_posix hc
  exact validate_rightsWithin_of_posix hdep hpw hpx hr hv

/-- Nor does a clone: the flags `inheritRightsForClone` returns validate to a connection with no
right the parent lacks. -/
theorem clone_validate_rightsWithin {p f f' g : BitVec 32}
    (hc : inheritRightsForClone p f = .ok f') (hv : newConnectionValidateFlags f' = .ok g) :
    RightsWithin g p := by
  obtain ⟨hdep, hpw, hpx, hr⟩ := inheritRightsForClone_posix hc
  exact validate_rightsWithin_of_posix hdep hpw hpx hr hv

/-- The flags of the directory connection reached from a connection with flags `p` by a chain
of child `Open`s, each request `(flags, mode)` checked against the previous connection's flags;
`none` when a step is refused. -/
def openChain (p : BitVec 32) : List (BitVec 32 × BitVec 32) → Option (BitVec 32)
  | [] => some p
  | (f, m) :: rest =>
    match checkChildConnectionFlags p f m with
    | .ok (f', _) =>
      match newConnectionValidateFlags f' with
      | .ok g => openChain g rest
      | .error _ => none
    | .error _ => none

/-- Rights never escalate on a child `Open`, for every parent flag word, request flags and
mode; hence along any chain of child `Open`s the rights only narrow. -/
theorem open_child_rights_within :
    (∀ p f m f' m' g : BitVec 32, checkChildConnectionFlags p f m = .ok (f', m') →
      newConnectionValidateFlags f' = .ok g → RightsWithin g p) ∧
    (∀ p g reqs, openChain p reqs = some g → RightsWithin g p) := by
  refine ⟨fun _ _ _ _ _ _ => checkChild_validate_rightsWithin, fun p g reqs => ?_⟩
  induction reqs generalizing p with
  | nil => rintro ⟨⟩; exact fun _ _ h => h
  | cons req rest ih =>
    obtain ⟨f, m⟩ := req
    simp only [openChain]
    split
    · next f' m' hc =>
      split
      · next g' hv => exact fun h => (ih g' h).trans (checkChild_validate_rightsWithin hc hv)
      · exact fun h => nomatch h
    · exact fun h => nomatch h

/-- `open_child_rights_within` at an `Open` from a readable and writable parent asking for
`READABLE | POSIX_WRITABLE`: the POSIX flag survives the soft fail and becomes `WRITABLE`, which
the parent holds. -/
theorem open_child_rights_within_posix :
    checkChildConnectionFlags (openRightReadable ||| openRightWritable)
        (openRightReadable ||| openFlagPosixWritable) 0 =
      .ok (openRightReadable ||| openFlagPosixWritable, 0) ∧
    newConnectionValidateFlags (openRightReadable ||| openFlagPosixWritable) =
      .ok (openRightReadable ||| openRightWritable) ∧
    RightsWithin (openRightReadable ||| openRightWritable) (openRightReadable ||| openRightWritable) :=
  have hc : checkChildConnectionFlags (openRightReadable ||| openRightWritable)
      (openRightReadable ||| openFlagPosixWritable) 0 =
      .ok (openRightReadable ||| openFlagPosixWritable, 0) := rfl
  have hv : newConnectionValidateFlags (openRightReadable ||| openFlagPosixWritable) =
      .ok (openRightReadable ||| openRightWritable) := rfl
  ⟨hc, hv, open_child_rights_within.1 _ _ _ _ _ _ hc hv⟩

end FuchsiaVfs
