import Bongtalk.Library.System
import Mathlib.Data.Finset.Lattice.Fold

/-!
# Registers that only take joins

When every step joins what its label offers into a register, the register ends as the join of
where it started and of everything that was offered, in whatever order and however often.
-/

namespace Library

universe u v w

variable {State : Type u} {Label : Type v} {Offer : Type w} {Value : Type*}
  [DecidableEq Offer] [SemilatticeSup Value] [OrderBot Value]

/-- What the labels of a run offer. -/
def offered (offers : Label → Option Offer) (labels : List Label) : Finset Offer :=
  (labels.filterMap offers).toFinset

theorem mem_offered {offers : Label → Option Offer} {labels : List Label} {offer : Offer} :
    offer ∈ offered offers labels ↔ ∃ label ∈ labels, offers label = some offer := by
  simp [offered]

namespace Steps

variable {Step : State → Label → State → Prop}

/-- The register at the end of a run. -/
theorem register_eq_sup (register : State → Value) (offers : Label → Option Offer)
    (value : Offer → Value)
    (joins : ∀ {state label next}, Step state label next →
      register next = register state ⊔ (offers label).elim ⊥ value)
    {start finish : State} {labels : List Label} (steps : Steps Step start labels finish) :
    register finish = register start ⊔ (offered offers labels).sup value := by
  induction steps with
  | refl => simp [offered]
  | @step labels _ label _ _ transition ih =>
    have last : (offered offers (labels ++ [label])).sup value =
        (offered offers labels).sup value ⊔ (offers label).elim ⊥ value := by
      cases offerEq : offers label with
      | none => simp [offered, offerEq]
      | some offer =>
        simp only [offered, List.filterMap_append, List.filterMap_cons, offerEq,
          List.filterMap_nil, List.toFinset_append, List.toFinset_cons, List.toFinset_nil,
          insert_empty_eq, Finset.sup_union, Finset.sup_singleton, Option.elim_some]
    rw [joins transition, ih, last, sup_assoc]

end Steps

end Library
