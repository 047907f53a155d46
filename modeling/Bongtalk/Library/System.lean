import Mathlib.Data.List.Induction

/-!
# Runs of a labelled system

A run is a chain of labelled steps. What one step preserves holds along a whole
run, and a run that keeps to a guard is a run of the restricted step relation.
-/

namespace Library

open List

universe u v

variable {State : Type u} {Label : Type v}

/-- Zero or more steps, with their labels in order. -/
inductive Steps (Step : State → Label → State → Prop) : State → List Label → State → Prop where
  | refl {state} : Steps Step state [] state
  | step {start labels current label next} (prior : Steps Step start labels current)
      (transition : Step current label next) :
      Steps Step start (labels ++ [label]) next

/-- The steps whose state and label satisfy a guard. -/
def Guarded (Step : State → Label → State → Prop) (Guard : State → Label → Prop) :
    State → Label → State → Prop :=
  fun state label next => Step state label next ∧ Guard state label

/-- The steps into states that satisfy a law. -/
def Lawful (Step : State → Label → State → Prop) (Law : State → Prop) :
    State → Label → State → Prop :=
  fun state label next => Step state label next ∧ Law next

namespace Steps

variable {Step : State → Label → State → Prop}

variable {start finish : State} {labels : List Label}

/-- What every step preserves is preserved by every run. -/
theorem preserves (steps : Steps Step start labels finish) (Invariant : State → Prop)
    (preserved : ∀ {state label next}, Step state label next → Invariant state → Invariant next)
    (initially : Invariant start) : Invariant finish := by
  induction steps with
  | refl => exact initially
  | step _ transition ih => exact preserved transition ih

theorem eq_of_nil (steps : Steps Step start [] finish) : start = finish := by
  generalize taken : [] = labels at steps
  cases steps with
  | refl => rfl
  | step prior transition =>
    exact absurd taken.symm (append_ne_nil_of_right_ne_nil _ (cons_ne_nil _ _))

/-- A run of one label is one step. -/
theorem singleton_iff {label : Label} :
    Steps Step start [label] finish ↔ Step start label finish := by
  constructor
  · intro steps
    generalize taken : [label] = labels at steps
    cases steps with
    | refl => cases taken
    | step prior transition =>
      obtain ⟨rfl, same⟩ := append_inj' ((nil_append _).trans taken) rfl
      obtain rfl := singleton_inj.mp same
      rwa [prior.eq_of_nil]
  · exact fun transition => .step .refl transition

variable {after : State → Label → State}

/-- A system that can always take a label runs through any list of labels. -/
theorem of_foldl (taken : ∀ state label, Step state label (after state label)) (start : State)
    (labels : List Label) : Steps Step start labels (labels.foldl after start) := by
  induction labels using List.reverseRecOn with
  | nil => exact .refl
  | append_singleton labels label ih =>
    rw [foldl_append]
    exact .step ih (taken _ label)

/-- Each label is allowed when its turn comes. -/
def AllAllowed (after : State → Label → State) (Allowed : State → Label → Prop) :
    State → List Label → Prop
  | _, [] => True
  | state, label :: labels => Allowed state label ∧ AllAllowed after Allowed (after state label) labels

instance decidableAllAllowed {after : State → Label → State} {Allowed : State → Label → Prop}
    [∀ state label, Decidable (Allowed state label)] (state : State) :
    ∀ labels, Decidable (AllAllowed after Allowed state labels)
  | [] => .isTrue trivial
  | label :: labels =>
    @instDecidableAnd _ _ inferInstance (decidableAllAllowed (after state label) labels)

/-- A list of labels that are all allowed is a run. -/
theorem of_allAllowed {Allowed : State → Label → Prop}
    (taken : ∀ state label, Allowed state label → Step state label (after state label))
    {start : State} (allowed : AllAllowed after Allowed start labels) :
    Steps Step start labels (labels.foldl after start) := by
  suffices run : ∀ prior state, Steps Step start prior state →
      AllAllowed after Allowed state labels →
        Steps Step start (prior ++ labels) (labels.foldl after state) from
    run [] start .refl allowed
  clear allowed
  induction labels with
  | nil =>
    intro prior state steps _
    rw [append_nil]
    exact steps
  | cons label labels ih =>
    intro prior state steps allowed
    rw [append_cons]
    exact ih _ _ (steps.step (taken state label allowed.1)) allowed.2

/-- A list of labels that can be taken one after the other is a run. -/
theorem of_foldlM {ε : Type} {take : State → Label → Except ε State}
    (taken : ∀ {state label next}, take state label = .ok next → Step state label next)
    (folded : labels.foldlM take start = .ok finish) : Steps Step start labels finish := by
  induction labels using List.reverseRecOn generalizing finish with
  | nil =>
    cases folded
    exact .refl
  | append_singleton labels label ih =>
    rw [foldlM_append] at folded
    cases before : labels.foldlM take start with
    | error failure =>
      rw [before] at folded
      cases folded
    | ok current =>
      rw [before] at folded
      cases last : take current label with
      | error failure =>
        simp [last, Bind.bind, Except.bind] at folded
      | ok next =>
        simp only [foldlM_cons, last, foldlM_nil, Bind.bind, Except.bind,
          Pure.pure, Except.pure, Except.ok.injEq] at folded
        exact folded ▸ .step (ih before) (taken last)

/-- When every step adds to a log what it sends, all that is logged is good exactly when
each step of the run sends good entries only. -/
theorem forall_mem_log_iff {Entry : Type*} (log : State → List Entry)
    {sends : State → Label → List Entry} (Good : Entry → Prop)
    (logged : ∀ {state label next}, Step state label next → log next = log state ++ sends state
      label) (initially : log start = []) (steps : Steps Step start labels finish) :
    (∀ entry ∈ log finish, Good entry) ↔
      Steps (Guarded Step fun state label => ∀ entry ∈ sends state label, Good entry) start labels
        finish := by
  constructor
  · intro good
    induction steps with
    | refl => exact .refl
    | step _ transition ih =>
      rw [logged transition] at good
      obtain ⟨before, sent⟩ := forall_mem_append.mp good
      exact .step (ih before) ⟨transition, sent⟩
  · intro guarded
    clear steps
    induction guarded with
    | refl => simp [initially]
    | step _ transition ih =>
      rw [logged transition.1]
      exact forall_mem_append.mpr ⟨ih, transition.2⟩

variable {Law : State → Prop}

/-- When a guard says which steps keep a law, the runs within the law are the guarded runs. The
invariant need only be kept by steps within the law. -/
theorem lawful_iff_guarded_within (Invariant : State → Prop) {Guard : State → Label → Prop}
    (preserved : ∀ {state label next}, Step state label next → Invariant state → Law next →
      Invariant next)
    (exact : ∀ {state label next}, Step state label next → Invariant state → Law state → (Law next ↔
      Guard state label)) (initially : Invariant start) (lawful : Law start) :
    Steps (Lawful Step Law) start labels finish ↔
      Steps (Guarded Step Guard) start labels finish := by
  constructor
  · intro steps
    suffices run : Steps (Guarded Step Guard) start labels finish ∧ Invariant finish ∧ Law finish
      from run.1
    induction steps with
    | refl => exact ⟨.refl, initially, lawful⟩
    | step _ transition ih =>
      obtain ⟨guarded, invariant, law⟩ := ih
      exact ⟨.step guarded ⟨transition.1, (exact transition.1 invariant law).mp transition.2⟩,
        preserved transition.1 invariant transition.2, transition.2⟩
  · intro steps
    suffices run : Steps (Lawful Step Law) start labels finish ∧ Invariant finish ∧ Law finish
      from run.1
    induction steps with
    | refl => exact ⟨.refl, initially, lawful⟩
    | step _ transition ih =>
      obtain ⟨within, invariant, law⟩ := ih
      have lawNext := (exact transition.1 invariant law).mpr transition.2
      exact ⟨.step within ⟨transition.1, lawNext⟩, preserved transition.1 invariant lawNext,
        lawNext⟩

/-- The same for an invariant that every step keeps. -/
theorem lawful_iff_guarded (Invariant : State → Prop) {Guard : State → Label → Prop}
    (preserved : ∀ {state label next}, Step state label next → Invariant state → Invariant next)
    (exact : ∀ {state label next}, Step state label next → Invariant state → Law state → (Law next ↔
      Guard state label)) (initially : Invariant start) (lawful : Law start) :
    Steps (Lawful Step Law) start labels finish ↔
      Steps (Guarded Step Guard) start labels finish := by
  refine lawful_iff_guarded_within Invariant ?_ ?_ initially lawful
  · exact fun transition invariant _ => preserved transition invariant
  · exact exact

/-- A run within a law is one of any steps that follow from the law before and after. -/
theorem of_lawful (Stronger : State → Label → State → Prop)
    (follows : ∀ {state label next}, Step state label next → Law state → Law next → Stronger state
      label next) (lawful : Law start) (steps : Steps (Lawful Step Law) start labels finish) :
    Steps Stronger start labels finish := by
  suffices run : Steps Stronger start labels finish ∧ Law finish from run.1
  induction steps with
  | refl => exact ⟨.refl, lawful⟩
  | step _ transition ih =>
    obtain ⟨within, law⟩ := ih
    exact ⟨.step within (follows transition.1 law transition.2), transition.2⟩

/-- A run under a guard is one under any guard that follows from it where an invariant holds. -/
theorem guarded_mono (Invariant : State → Prop) {First Second : State → Label → Prop}
    (preserved : ∀ {state label next}, Step state label next → Invariant state → Invariant next)
    (follows : ∀ {state label}, Invariant state → First state label → Second state label)
    (initially : Invariant start) (steps : Steps (Guarded Step First) start labels finish) :
    Steps (Guarded Step Second) start labels finish := by
  suffices run : Steps (Guarded Step Second) start labels finish ∧ Invariant finish from run.1
  induction steps with
  | refl => exact ⟨.refl, initially⟩
  | step _ transition ih =>
    obtain ⟨guarded, invariant⟩ := ih
    exact ⟨.step guarded ⟨transition.1, follows invariant transition.2⟩,
      preserved transition.1 invariant⟩

/-- Two step relations that agree where an invariant holds have the same runs. -/
theorem congr_within (Invariant : State → Prop) {First Second : State → Label → State → Prop}
    (preserved : ∀ {state label next}, First state label next → Invariant state → Invariant next)
    (same : ∀ {state label next}, Invariant state → (First state label next ↔ Second state label
      next)) (initially : Invariant start) :
    Steps First start labels finish ↔ Steps Second start labels finish := by
  constructor
  · intro steps
    suffices run : Steps Second start labels finish ∧ Invariant finish from run.1
    induction steps with
    | refl => exact ⟨.refl, initially⟩
    | step _ transition ih =>
      obtain ⟨second, invariant⟩ := ih
      exact ⟨.step second ((same invariant).mp transition), preserved transition invariant⟩
  · intro steps
    suffices run : Steps First start labels finish ∧ Invariant finish from run.1
    induction steps with
    | refl => exact ⟨.refl, initially⟩
    | step _ transition ih =>
      obtain ⟨first, invariant⟩ := ih
      have transition := (same invariant).mpr transition
      exact ⟨.step first transition, preserved transition invariant⟩

/-- A run of a stronger step relation is a run of a weaker one. -/
theorem mono {Weaker : State → Label → State → Prop}
    (weaken : ∀ {state label next}, Step state label next → Weaker state label next)
    (steps : Steps Step start labels finish) :
    Steps Weaker start labels finish := by
  induction steps with
  | refl => exact .refl
  | step _ transition ih => exact .step ih (weaken transition)

end Steps

end Library
