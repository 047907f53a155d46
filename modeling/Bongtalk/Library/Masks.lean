import Mathlib.Data.BitVec
import Mathlib.Data.Nat.Bitwise

/-!
# Bit masks

Masks are collected from rows with a bitwise or; a bit of the collected mask is a statement about
some row. A decision folds two tiers of allow and deny masks over a base mask, the one of the
individual last. Inside a tier the allow mask is added before the deny mask is removed, so what is
folded later wins.
-/

universe u

namespace Library.Masks

variable {ρ : Type u} {w : Nat}

/-- The bitwise or of a mask taken from every row, from an initial mask on. -/
def orFrom (initial : BitVec w) (mask : ρ → BitVec w) (rows : List ρ) : BitVec w :=
  rows.foldl (fun collected row => collected ||| mask row) initial

@[simp]
theorem orFrom_nil (initial : BitVec w) (mask : ρ → BitVec w) : orFrom initial mask [] = initial :=
  rfl

@[simp]
theorem orFrom_cons (initial : BitVec w) (mask : ρ → BitVec w) (row : ρ) (rows : List ρ) :
    orFrom initial mask (row :: rows) = orFrom (initial ||| mask row) mask rows :=
  rfl

/-- A bit is collected when it was there before or some row carries it. -/
theorem getLsbD_orFrom (initial : BitVec w) (mask : ρ → BitVec w) (rows : List ρ) (index : Nat) :
    (orFrom initial mask rows).getLsbD index = true ↔
      initial.getLsbD index = true ∨ ∃ row ∈ rows, (mask row).getLsbD index = true := by
  induction rows generalizing initial with
  | nil => simp
  | cons row rows ih =>
    rw [orFrom_cons, ih]
    simp [or_assoc]

/-- The bitwise or of natural masks, from an initial mask on. -/
def unionFrom (initial : Nat) (mask : ρ → Nat) (rows : List ρ) : Nat :=
  rows.foldl (fun collected row => collected ||| mask row) initial

@[simp]
theorem unionFrom_nil (initial : Nat) (mask : ρ → Nat) : unionFrom initial mask [] = initial :=
  rfl

@[simp]
theorem unionFrom_cons (initial : Nat) (mask : ρ → Nat) (row : ρ) (rows : List ρ) :
    unionFrom initial mask (row :: rows) = unionFrom (initial ||| mask row) mask rows :=
  rfl

/-- A bit of a union of natural masks comes from the start or from some row. -/
theorem testBit_unionFrom (initial : Nat) (mask : ρ → Nat) (rows : List ρ) (index : Nat) :
    (unionFrom initial mask rows).testBit index = true ↔
      initial.testBit index = true ∨ ∃ row ∈ rows, (mask row).testBit index = true := by
  induction rows generalizing initial with
  | nil => simp
  | cons row rows ih =>
    rw [unionFrom_cons, ih]
    simp [Nat.testBit_or, or_assoc]

/-- Testing a natural mask against a single bit reads that bit. -/
theorem and_shiftLeft_one_eq_iff (mask index : Nat) :
    mask &&& 1 <<< index = 1 <<< index ↔ mask.testBit index = true := by
  constructor
  · intro equal
    have bitAt := congrArg (Nat.testBit · index) equal
    simpa [Nat.testBit_and, Nat.shiftLeft_eq, Nat.testBit_two_pow_self] using bitAt
  · intro held
    apply Nat.eq_of_testBit_eq
    intro other
    rw [Nat.testBit_and, Nat.shiftLeft_eq, one_mul, Nat.testBit_two_pow]
    by_cases same : index = other
    · subst same
      simp [held]
    · simp [same]

/-- A natural mask meets a single bit when it has that bit. -/
theorem and_shiftLeft_one_ne_zero_iff (mask index : Nat) :
    mask &&& 1 <<< index ≠ 0 ↔ mask.testBit index = true := by
  constructor
  · intro nonzero
    obtain ⟨other, held⟩ := Nat.exists_testBit_of_ne_zero nonzero
    rw [Nat.testBit_and, Nat.shiftLeft_eq, one_mul, Nat.testBit_two_pow] at held
    have same : index = other := by simpa using (Bool.and_eq_true_iff.mp held).2
    exact same ▸ (Bool.and_eq_true_iff.mp held).1
  · intro held zero
    have whole := (and_shiftLeft_one_eq_iff mask index).mpr held
    rw [zero] at whole
    have positive : 0 < 1 <<< index := by
      rw [Nat.shiftLeft_eq, one_mul]
      exact Nat.two_pow_pos index
    omega

/-- The bits of a mask that a second mask does not have: `mask & ~removed`. -/
def without (mask removed : Nat) : Nat :=
  mask ^^^ (mask &&& removed)

@[simp]
theorem testBit_without (mask removed index : Nat) :
    (without mask removed).testBit index = (mask.testBit index && !removed.testBit index) := by
  rw [without, Nat.testBit_xor, Nat.testBit_and]
  cases mask.testBit index <;> cases removed.testBit index <;> rfl

/-- One mask lies inside another when every bit of it does. -/
theorem without_eq_zero_iff (inner outer : Nat) :
    without inner outer = 0 ↔ ∀ index, inner.testBit index = true → outer.testBit index = true := by
  constructor
  · intro zero index held
    have bitAt := congrArg (Nat.testBit · index) zero
    simpa [held] using bitAt
  · intro inside
    apply Nat.eq_of_testBit_eq
    intro index
    rw [testBit_without, Nat.zero_testBit]
    cases held : inner.testBit index with
    | false => rfl
    | true => simp [inside index held]

end Library.Masks

namespace Library

/-- The accumulated allow and deny values of the group tier and of the individual tier. -/
structure Tiers (α : Type u) where
  groupAllow : α
  groupDeny : α
  ownAllow : α
  ownDeny : α
deriving DecidableEq, Repr

namespace Tiers

variable {w : Nat}

/-- Fold both tiers over a base mask, the individual tier last. -/
def fold (tiers : Tiers (BitVec w)) (base : BitVec w) : BitVec w :=
  (((base ||| tiers.groupAllow) &&& ~~~tiers.groupDeny) ||| tiers.ownAllow) &&& ~~~tiers.ownDeny

/-- What both tiers say about one bit. -/
def bit (tiers : Tiers (BitVec w)) (index : Nat) : Tiers Bool where
  groupAllow := tiers.groupAllow.getLsbD index
  groupDeny := tiers.groupDeny.getLsbD index
  ownAllow := tiers.ownAllow.getLsbD index
  ownDeny := tiers.ownDeny.getLsbD index

/-- The same fold for a single bit. -/
def grants (tiers : Tiers Bool) (base : Bool) : Bool :=
  (((base || tiers.groupAllow) && !tiers.groupDeny) || tiers.ownAllow) && !tiers.ownDeny

/-- Some tier allows the bit, whatever the tiers deny. -/
def allows (tiers : Tiers Bool) : Bool :=
  tiers.ownAllow || tiers.groupAllow

/-- A denial that no later allow overrules. -/
def denies (tiers : Tiers Bool) : Bool :=
  tiers.ownDeny || (tiers.groupDeny && !tiers.ownAllow)

/-- Every bit of a folded mask is decided on its own. -/
theorem getLsbD_fold (tiers : Tiers (BitVec w)) (base : BitVec w) (index : Nat) :
    (tiers.fold base).getLsbD index = (tiers.bit index).grants (base.getLsbD index) := by
  by_cases inside : index < w
  · simp [fold, bit, grants, inside]
  have outside : w ≤ index := Nat.le_of_not_lt inside
  simp [fold, bit, grants, BitVec.getLsbD_of_ge _ _ outside]

/-- A bit is granted when nothing denies it and the base or some tier grants it. -/
theorem grants_eq_true_iff (tiers : Tiers Bool) (base : Bool) :
    tiers.grants base = true ↔ tiers.denies = false ∧ (base = true ∨ tiers.allows = true) := by
  rcases tiers with ⟨groupAllow, groupDeny, ownAllow, ownDeny⟩
  cases base <;> cases groupAllow <;> cases groupDeny <;> cases ownAllow <;> cases ownDeny <;>
    simp [grants, denies, allows]

/-- A base that is opened only by an explicit allow makes no difference of its own. -/
theorem grants_gated (tiers : Tiers Bool) (base : Bool) :
    tiers.grants (tiers.allows && base) = tiers.grants false := by
  rcases tiers with ⟨groupAllow, groupDeny, ownAllow, ownDeny⟩
  cases base <;> cases groupAllow <;> cases groupDeny <;> cases ownAllow <;> cases ownDeny <;>
    rfl

end Tiers

end Library
