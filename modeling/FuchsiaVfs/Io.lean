import Mathlib

/-!
# The `fuchsia.io` vocabulary the connections are written in

Flag words are `u32` in the Rust code and `BitVec 32` here; the constants carry the values of
the `fuchsia.io` FIDL library (`fidl_fuchsia_io`, not under `src/`). Every flag the code tests
is a single bit, so each constant is shown equal to a `twoPow` (`openRightReadable_eq` and the
rest), and a test `flags & FLAG != 0` reads bit `k` of `flags` (`and_twoPow_eq_zero`). The
flag lemmas of the later modules are bit computations over these rewrites.
-/

namespace FuchsiaVfs

open BitVec

/-- The `zx::Status` values the modelled code returns or forwards. -/
inductive Status
  | ok
  | notFound
  | notFile
  | notDir
  | notSupported
  | invalidArgs
  | accessDenied
  | badPath
  | outOfRange
  | badHandle
  | io
  | alreadyExists
  deriving DecidableEq, Repr

/-- The status a call's result is reported with: `OK`, or the error it failed with. -/
def statusOf : Except Status Unit → Status
  | .ok () => .ok
  | .error status => status

/-! ## Rights and open flags -/

/-- `OPEN_RIGHT_READABLE = 0x00000001`. -/
def openRightReadable : BitVec 32 := 0x00000001#32
/-- `OPEN_RIGHT_WRITABLE = 0x00000002`. -/
def openRightWritable : BitVec 32 := 0x00000002#32
/-- `OPEN_RIGHT_ADMIN = 0x00000004`. -/
def openRightAdmin : BitVec 32 := 0x00000004#32
/-- `OPEN_RIGHT_EXECUTABLE = 0x00000008`. -/
def openRightExecutable : BitVec 32 := 0x00000008#32
/-- `OPEN_FLAG_CREATE = 0x00010000`. -/
def openFlagCreate : BitVec 32 := 0x00010000#32
/-- `OPEN_FLAG_CREATE_IF_ABSENT = 0x00020000`. -/
def openFlagCreateIfAbsent : BitVec 32 := 0x00020000#32
/-- `OPEN_FLAG_TRUNCATE = 0x00040000`. -/
def openFlagTruncate : BitVec 32 := 0x00040000#32
/-- `OPEN_FLAG_DIRECTORY = 0x00080000`. -/
def openFlagDirectory : BitVec 32 := 0x00080000#32
/-- `OPEN_FLAG_APPEND = 0x00100000`. -/
def openFlagAppend : BitVec 32 := 0x00100000#32
/-- `OPEN_FLAG_NODE_REFERENCE = 0x00400000`. -/
def openFlagNodeReference : BitVec 32 := 0x00400000#32
/-- `OPEN_FLAG_DESCRIBE = 0x00800000`. -/
def openFlagDescribe : BitVec 32 := 0x00800000#32
/-- `OPEN_FLAG_POSIX_DEPRECATED = 0x01000000`. -/
def openFlagPosixDeprecated : BitVec 32 := 0x01000000#32
/-- `OPEN_FLAG_NOT_DIRECTORY = 0x02000000`. -/
def openFlagNotDirectory : BitVec 32 := 0x02000000#32
/-- `CLONE_FLAG_SAME_RIGHTS = 0x04000000`. -/
def cloneFlagSameRights : BitVec 32 := 0x04000000#32
/-- `OPEN_FLAG_POSIX_WRITABLE = 0x08000000`. -/
def openFlagPosixWritable : BitVec 32 := 0x08000000#32
/-- `OPEN_FLAG_POSIX_EXECUTABLE = 0x10000000`. -/
def openFlagPosixExecutable : BitVec 32 := 0x10000000#32

/-- `OPEN_FLAGS_ALLOWED_WITH_NODE_REFERENCE = 0x02c80000`: directory, not-directory, describe
and node reference. -/
def openFlagsAllowedWithNodeReference : BitVec 32 := 0x02c80000#32

/-- `child` holds no right bit (`OPEN_RIGHT_*`) that `parent` lacks: "rights can only
narrow". -/
def RightsWithin (child parent : BitVec 32) : Prop :=
  ∀ r ∈ [openRightReadable, openRightWritable, openRightExecutable, openRightAdmin],
    child &&& r ≠ 0 → parent &&& r ≠ 0

/-! ## Modes -/

/-- `MODE_TYPE_MASK = 0o170000`. -/
def modeTypeMask : BitVec 32 := 0xF000#32
/-- `MODE_TYPE_DIRECTORY = 0o040000`. -/
def modeTypeDirectory : BitVec 32 := 0x4000#32
/-- `MODE_TYPE_FILE = 0o100000`. -/
def modeTypeFile : BitVec 32 := 0x8000#32

/-! ## Single-bit flags -/

@[simp] theorem openRightReadable_eq : openRightReadable = twoPow 32 0 := by decide
@[simp] theorem openRightWritable_eq : openRightWritable = twoPow 32 1 := by decide
@[simp] theorem openRightAdmin_eq : openRightAdmin = twoPow 32 2 := by decide
@[simp] theorem openRightExecutable_eq : openRightExecutable = twoPow 32 3 := by decide
@[simp] theorem openFlagCreate_eq : openFlagCreate = twoPow 32 16 := by decide
@[simp] theorem openFlagCreateIfAbsent_eq : openFlagCreateIfAbsent = twoPow 32 17 := by decide
@[simp] theorem openFlagTruncate_eq : openFlagTruncate = twoPow 32 18 := by decide
@[simp] theorem openFlagDirectory_eq : openFlagDirectory = twoPow 32 19 := by decide
@[simp] theorem openFlagAppend_eq : openFlagAppend = twoPow 32 20 := by decide
@[simp] theorem openFlagNodeReference_eq : openFlagNodeReference = twoPow 32 22 := by decide
@[simp] theorem openFlagDescribe_eq : openFlagDescribe = twoPow 32 23 := by decide
@[simp] theorem openFlagPosixDeprecated_eq : openFlagPosixDeprecated = twoPow 32 24 := by decide
@[simp] theorem openFlagNotDirectory_eq : openFlagNotDirectory = twoPow 32 25 := by decide
@[simp] theorem cloneFlagSameRights_eq : cloneFlagSameRights = twoPow 32 26 := by decide
@[simp] theorem openFlagPosixWritable_eq : openFlagPosixWritable = twoPow 32 27 := by decide
@[simp] theorem openFlagPosixExecutable_eq : openFlagPosixExecutable = twoPow 32 28 := by decide

@[simp] theorem openFlagsAllowedWithNodeReference_eq : openFlagsAllowedWithNodeReference =
    twoPow 32 19 ||| twoPow 32 22 ||| twoPow 32 23 ||| twoPow 32 25 := by decide

/-! ## Flag tests as bits -/

theorem twoPow_ne_zero {w k : Nat} (hk : k < w) : twoPow w k ≠ 0#w := fun h => by
  simpa [hk] using congrArg (·.getLsbD k) h

theorem or_eq_zero_iff {w : Nat} {a b : BitVec w} : a ||| b = 0#w ↔ a = 0#w ∧ b = 0#w := by
  refine ⟨fun h => ?_, fun h => by simp [h.1, h.2]⟩
  have hi (i : Nat) := congrArg (·.getLsbD i) h
  simp only [getLsbD_or, getLsbD_zero, Bool.or_eq_false_iff] at hi
  exact ⟨by ext i; simp [(hi i).1], by ext i; simp [(hi i).2]⟩

/-- A test against a one-bit flag reads that bit. -/
@[simp] theorem and_twoPow_eq_zero {w k : Nat} (x : BitVec w) (hk : k < w) :
    x &&& twoPow w k = 0#w ↔ x.getLsbD k = false := by
  rw [and_twoPow]
  cases x.getLsbD k <;> simp [twoPow_ne_zero hk]

/-- A test against a union of flags tests each of them. -/
@[simp] theorem and_or_eq_zero {w : Nat} (x a b : BitVec w) :
    x &&& (a ||| b) = 0#w ↔ x &&& a = 0#w ∧ x &&& b = 0#w := by
  have : x &&& (a ||| b) = (x &&& a) ||| (x &&& b) := by ext i; simp [Bool.and_or_distrib_left]
  rw [this, or_eq_zero_iff]

/-- A flag set in a word whose bits are among those of another is set in that other. -/
theorem and_ne_zero_mono {w : Nat} {a b c : BitVec w} (hle : ∀ i, a.getLsbD i → b.getLsbD i)
    (h : a &&& c ≠ 0#w) : b &&& c ≠ 0#w := by
  refine fun hb => h (BitVec.eq_of_getLsbD_eq fun i => ?_)
  have := congrArg (·.getLsbD i) hb
  simp only [getLsbD_and, getLsbD_zero, Bool.and_eq_false_iff] at this ⊢
  exact this.imp (fun hb' => by cases ha : a.getLsbD i <;> simp_all) id

/-- A word whose bits are among those of another holds none of the flags that other lacks. -/
theorem and_eq_zero_of_le {w : Nat} {a b c : BitVec w} (hle : ∀ i, a.getLsbD i → b.getLsbD i)
    (h : b &&& c = 0#w) : a &&& c = 0#w :=
  Classical.not_not.1 fun ha => and_ne_zero_mono hle ha h

/-- Clearing flags a word does not hold leaves the word. -/
theorem and_not_eq_self {w : Nat} {x c : BitVec w} (h : x &&& c = 0#w) : x &&& ~~~c = x := by
  ext i
  have := congrArg (getLsbD · i) h
  simp only [getLsbD_and, getLsbD_zero, getLsbD_not] at this ⊢
  cases hx : x.getLsbD i <;> cases hc : c.getLsbD i <;> simp_all

theorem and_not_and_eq_zero {w : Nat} (x c : BitVec w) : x &&& ~~~c &&& c = 0#w := by
  ext i
  simp only [getLsbD_and, getLsbD_not, getLsbD_zero]
  cases c.getLsbD i <;> simp

/-- A word with no flag outside `m` holds no flag of a set `c` disjoint from `m`. -/
theorem and_eq_zero_of_and_not {w : Nat} {x m c : BitVec w} (hx : x &&& ~~~m = 0#w)
    (hc : c &&& m = 0#w) : x &&& c = 0#w := by
  rw [← and_not_eq_self hc, show x &&& (c &&& ~~~m) = x &&& ~~~m &&& c by ac_rfl, hx]
  exact BitVec.zero_and

/-- `RightsWithin` read bit by bit: the four right bits of `child` are among those of
`parent`. -/
theorem rightsWithin_iff (child parent : BitVec 32) : RightsWithin child parent ↔
    (child.getLsbD 0 → parent.getLsbD 0) ∧ (child.getLsbD 1 → parent.getLsbD 1) ∧
    (child.getLsbD 3 → parent.getLsbD 3) ∧ (child.getLsbD 2 → parent.getLsbD 2) := by
  simp [RightsWithin]

end FuchsiaVfs
