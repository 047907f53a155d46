import Bongtalk.Workspaces.Onboarding.Rules

/-!
# The order of the rules

Positions stay unique, as the database sees to it. Whether a new rule finds its position free, and
whether a reorder sees a repeated id, depends on the calls before.
-/

namespace Bongtalk.Workspaces.Onboarding

open Library Common WorkspaceRules List

variable {rules next : WorkspaceRules} {ruleId : RuleId} {ruleIds : List RuleId}

inductive RuleCall where
  | create (ruleId : RuleId) (request : UpsertWorkspaceRuleRequest)
  | delete (ruleId : RuleId)
  | reorder (ruleIds : List RuleId)
deriving DecidableEq, Repr

namespace RuleCall

/-- The rules after a call. A call that throws leaves them as they were. -/
def after (rules : WorkspaceRules) : RuleCall → WorkspaceRules
  | create ruleId request => ((rules.createRule ruleId request).map Prod.snd).toOption.getD rules
  | delete ruleId => (rules.deleteRule ruleId).toOption.getD rules
  | reorder ruleIds => ((rules.reorderRules ruleIds).map Prod.snd).toOption.getD rules

/-- A new rule has an id of its own. -/
def Allowed (rules : WorkspaceRules) : RuleCall → Prop
  | create ruleId _ => ruleId ∉ rules.ids
  | delete _ | reorder _ => True

instance (rules : WorkspaceRules) (call : RuleCall) : Decidable (call.Allowed rules) :=
  match call with
  | create ruleId _ => inferInstanceAs (Decidable (ruleId ∉ rules.ids))
  | delete _ | reorder _ => .isTrue trivial

/-- A rule below the cap is created. A reorder that is accepted is a permutation, and gives the
order that was asked for. -/
def Kept (rules : WorkspaceRules) : RuleCall → Prop
  | create ruleId request => rules.rows.length < workspaceRulesMax →
      ∃ created next, rules.createRule ruleId request = .ok (created, next) ∧ created ∈ next.rows
  | delete _ => True
  | reorder ruleIds => ∀ listed next, rules.reorderRules ruleIds = .ok (listed, next) →
      ruleIds.Perm rules.ids ∧ next.listRules.map WorkspaceRule.id = ruleIds

/-- The number of rules is not a position already. A reorder that repeats an id leaves a rule out
that has one of the positions it gives. -/
def Fits (rules : WorkspaceRules) : RuleCall → Prop
  | create _ _ => rules.rows.length < workspaceRulesMax →
      (rules.rows.length : Int) ∉ rules.positions
  | delete _ => True
  | reorder ruleIds => ruleIds.length = rules.rows.length → ruleIds ⊆ rules.ids →
      ruleIds.Nodup ∨ ∃ rule ∈ rules.rows, rule.id ∉ ruleIds ∧ rule.position < rules.rows.length

end RuleCall

def Calls (rules : WorkspaceRules) (call : RuleCall) (next : WorkspaceRules) : Prop :=
  call.Allowed rules ∧ next = call.after rules

/-- A call that keeps the order, into a state with distinct positions. -/
def KeepsOrder (rules : WorkspaceRules) (call : RuleCall) (next : WorkspaceRules) : Prop :=
  Calls rules call next ∧ call.Kept rules ∧ next.positions.Nodup

section Assignments

variable {position : Int} {assignments : List (RuleId × Int)} {rule : WorkspaceRule}

namespace WorkspaceRules

theorem setPosition_eq_ok : rules.setPosition ruleId position = .ok next ↔
    ruleId ∈ rules.ids ∧ ¬ rules.Occupied ruleId position ∧
      next.rows = rules.rows.map (WorkspaceRule.moveTo ruleId position) := by
  rw [setPosition]
  by_cases present : ruleId ∈ rules.ids
  · by_cases occupied : rules.Occupied ruleId position
    · simp [present, occupied]
    rcases next with ⟨rows, idsNodup, positionsNodup⟩
    simp [present, occupied, eq_comm]
  · simp [present]

theorem ids_of_rows {change : WorkspaceRule → WorkspaceRule}
    (keepsId : ∀ rule, (change rule).id = rule.id) (moved : next.rows = rules.rows.map change) :
    next.ids = rules.ids := by
  rw [ids, moved, map_map, ids]
  exact map_congr_left fun rule _ => keepsId rule

/-- What a list of assignments makes of a rule. -/
def assigned (assignments : List (RuleId × Int)) (rule : WorkspaceRule) : WorkspaceRule :=
  assignments.foldl (fun rule assignment => rule.moveTo assignment.1 assignment.2) rule

@[simp]
theorem id_assigned : (assigned assignments rule).id = rule.id := by
  induction assignments generalizing rule with
  | nil => rfl
  | cons assignment rest ih =>
    exact ih.trans (id_moveTo _ _ rule)

theorem assigned_of_not_mem (omitted : rule.id ∉ assignments.map Prod.fst) :
    assigned assignments rule = rule := by
  induction assignments with
  | nil => rfl
  | cons assignment rest ih =>
    rw [map_cons, mem_cons, not_or] at omitted
    have kept : rule.moveTo assignment.1 assignment.2 = rule := if_neg omitted.1
    rw [assigned, foldl_cons, kept]
    exact ih omitted.2

/-- A rule that is assigned to has one of its positions afterwards. -/
theorem position_assigned (present : rule.id ∈ assignments.map Prod.fst) :
    (rule.id, (assigned assignments rule).position) ∈ assignments := by
  induction assignments generalizing rule with
  | nil => cases present
  | cons assignment rest ih =>
    have sameId : (rule.moveTo assignment.1 assignment.2).id = rule.id := id_moveTo _ _ rule
    by_cases later : rule.id ∈ rest.map Prod.fst
    · have moved := ih (sameId ▸ later)
      rw [sameId] at moved
      exact mem_cons_of_mem _ moved
    · have isFirst : rule.id = assignment.1 := by
        rcases mem_cons.mp present with same | inRest
        · exact same
        · exact absurd inRest later
      have last : assigned rest (rule.moveTo assignment.1 assignment.2) =
          rule.moveTo assignment.1 assignment.2 :=
        assigned_of_not_mem (sameId.symm ▸ later)
      have position : (rule.moveTo assignment.1 assignment.2).position = assignment.2 := by
        rw [WorkspaceRule.moveTo, if_pos isFirst]
      rw [assigned, foldl_cons, ← assigned, last, position, isFirst]
      exact mem_cons_self

/-- Assignments of distinct free positions go through. -/
theorem assign_eq_ok (present : ∀ assignment ∈ assignments, assignment.1 ∈ rules.ids)
    (distinct : (assignments.map Prod.snd).Nodup)
    (free : ∀ assignment ∈ assignments, assignment.2 ∉ rules.positions) :
    ∃ next, rules.assign assignments = .ok next ∧
      next.rows = rules.rows.map (assigned assignments) := by
  induction assignments generalizing rules with
  | nil => exact ⟨rules, rfl, (map_id' _).symm⟩
  | cons assignment rest ih =>
    obtain ⟨isPresent, present⟩ := forall_mem_cons.mp present
    obtain ⟨isFree, free⟩ := forall_mem_cons.mp free
    rw [map_cons, nodup_cons] at distinct
    have unoccupied : ¬ rules.Occupied assignment.1 assignment.2 := by
      rintro ⟨rule, ruleMem, -, same⟩
      exact isFree (same ▸ mem_map_of_mem ruleMem)
    have first : ∃ middle, rules.setPosition assignment.1 assignment.2 = .ok middle ∧
        middle.rows = rules.rows.map (WorkspaceRule.moveTo assignment.1 assignment.2) := by
      rw [setPosition, if_neg (not_not.mpr isPresent), dif_neg unoccupied]
      exact ⟨_, rfl, rfl⟩
    obtain ⟨middle, isMiddle, rows⟩ := first
    have sameIds : middle.ids = rules.ids := ids_of_rows (id_moveTo _ _) rows
    have stillFree : ∀ other ∈ rest, other.2 ∉ middle.positions := by
      intro other otherMem taken
      rw [positions, rows, map_map] at taken
      obtain ⟨rule, ruleMem, same⟩ := mem_map.mp taken
      simp only [Function.comp_apply, WorkspaceRule.moveTo] at same
      split at same
      · exact distinct.1 (mem_map.mpr ⟨other, otherMem, same.symm⟩)
      · exact free other otherMem (mem_map.mpr ⟨rule, ruleMem, same⟩)
    obtain ⟨next, isNext, nextRows⟩ :=
      ih (sameIds ▸ present) distinct.2 stillFree
    refine ⟨next, ?_, ?_⟩
    · rw [assign, foldlM_cons, isMiddle]
      exact isNext
    · rw [nextRows, rows, map_map]
      rfl

/-- A rule that is left out keeps its position, which no other one gets. -/
theorem assign_ne_ok (ruleMem : rule ∈ rules.rows) (omitted : rule.id ∉ assignments.map Prod.fst)
    (taken : rule.position ∈ assignments.map Prod.snd) : rules.assign assignments ≠ .ok next := by
  induction assignments generalizing rules with
  | nil => cases taken
  | cons assignment rest ih =>
    rw [map_cons, mem_cons, not_or] at omitted
    intro assigned
    rw [assign, foldlM_cons] at assigned
    obtain ⟨middle, isMiddle, isNext⟩ := bind_eq_ok.mp assigned
    obtain ⟨-, unoccupied, rows⟩ := setPosition_eq_ok.mp isMiddle
    rcases mem_cons.mp taken with same | later
    · exact unoccupied ⟨rule, ruleMem, omitted.1, same⟩
    have kept : rule.moveTo assignment.1 assignment.2 = rule := if_neg omitted.1
    have stillThere : rule ∈ middle.rows := by
      rw [rows]
      exact mem_map.mpr ⟨rule, ruleMem, kept⟩
    exact ih stillThere omitted.2 later isNext

end WorkspaceRules

end Assignments

section Reorders

variable {listed : List WorkspaceRule}

/-- Positions from 0 on, outside of a reorder. -/
def NonNegative (rules : WorkspaceRules) : Prop :=
  ∀ rule ∈ rules.rows, 0 ≤ rule.position

/-- The assignments of the two rounds of a reorder. -/
theorem map_fst_zipIdx_map (number : Nat → Int) :
    (ruleIds.zipIdx.map fun entry => (entry.1, number entry.2)).map Prod.fst = ruleIds := by
  rw [map_map]
  exact zipIdx_map_fst 0 ruleIds

theorem nodup_snd_zipIdx_map {number : Nat → Int} (injective : number.Injective) :
    ((ruleIds.zipIdx.map fun entry => (entry.1, number entry.2)).map Prod.snd).Nodup := by
  rw [map_map]
  have split : (Prod.snd ∘ fun entry : RuleId × Nat => (entry.1, number entry.2)) =
      number ∘ Prod.snd := rfl
  rw [split, ← map_map, zipIdx_map_snd]
  exact (nodup_range' 1).map injective

/-- The first round gives the positions `-1`, `-2`, … -/
def lifts (ruleIds : List RuleId) : List (RuleId × Int) :=
  ruleIds.zipIdx.map fun entry => (entry.1, -((entry.2 : Int) + 1))

/-- The second round gives the positions `0`, `1`, … -/
def places (ruleIds : List RuleId) : List (RuleId × Int) :=
  ruleIds.zipIdx.map fun entry => (entry.1, (entry.2 : Int))

theorem map_fst_lifts (ruleIds : List RuleId) : (lifts ruleIds).map Prod.fst = ruleIds :=
  map_fst_zipIdx_map fun index => -((index : Int) + 1)

theorem map_fst_places (ruleIds : List RuleId) : (places ruleIds).map Prod.fst = ruleIds :=
  map_fst_zipIdx_map fun index => (index : Int)

theorem mem_lifts {assignment : RuleId × Int} (present : assignment ∈ lifts ruleIds) :
    assignment.1 ∈ ruleIds ∧ assignment.2 < 0 := by
  obtain ⟨⟨ruleId, index⟩, entryMem, rfl⟩ := mem_map.mp present
  refine ⟨fst_mem_of_mem_zipIdx entryMem, ?_⟩
  omega

theorem mem_places {assignment : RuleId × Int} (present : assignment ∈ places ruleIds) :
    assignment.1 ∈ ruleIds ∧ 0 ≤ assignment.2 ∧ assignment.2 < ruleIds.length := by
  obtain ⟨⟨ruleId, index⟩, entryMem, rfl⟩ := mem_map.mp present
  have bound := snd_lt_of_mem_zipIdx entryMem
  refine ⟨fst_mem_of_mem_zipIdx entryMem, ?_, ?_⟩ <;> dsimp only <;> omega

theorem snd_mem_places {position : Int} (atLeast : 0 ≤ position)
    (below : position < ruleIds.length) : position ∈ (places ruleIds).map Prod.snd := by
  rw [places, map_map]
  have isIndex : position.toNat < ruleIds.length := by omega
  refine mem_map.mpr ⟨(ruleIds[position.toNat], position.toNat), ?_, ?_⟩
  · exact mk_mem_zipIdx_iff_getElem?.mpr (List.getElem?_eq_getElem isIndex)
  · exact Int.toNat_of_nonneg atLeast

/-- Without repetitions, an id is placed where it stands. -/
theorem eq_idxOf_of_mem_places (nodup : ruleIds.Nodup) {ruleId : RuleId} {position : Int}
    (present : (ruleId, position) ∈ places ruleIds) : position = ruleIds.idxOf ruleId := by
  obtain ⟨⟨other, index⟩, entryMem, same⟩ := mem_map.mp present
  cases same
  obtain ⟨isIndex, rfl⟩ := List.getElem?_eq_some_iff.mp (mk_mem_zipIdx_iff_getElem?.mp entryMem)
  rw [nodup.idxOf_getElem]

theorem reorderRules_eq_ok : rules.reorderRules ruleIds = .ok (listed, next) ↔
    (ruleIds.length = rules.rows.length ∧ ruleIds ⊆ rules.ids) ∧ ∃ lifted,
      rules.assign (lifts ruleIds) = .ok lifted ∧ lifted.assign (places ruleIds) = .ok next ∧
        listed = next.listRules := by
  have gate : (ruleIds.length ≠ rules.rows.length || ruleIds.any fun ruleId =>
      ruleId ∉ rules.ids) = false ↔
      ruleIds.length = rules.rows.length ∧ ruleIds ⊆ rules.ids := by
    simp [subset_def]
  rw [reorderRules, check_bind_eq_ok, failIf_eq_ok, gate]
  refine and_congr_right fun _ => ?_
  rw [bind_eq_ok]
  refine exists_congr fun lifted => and_congr_right fun _ => ?_
  rw [bind_eq_ok]
  constructor
  · rintro ⟨placed, isPlaced, same⟩
    cases same
    exact ⟨isPlaced, rfl⟩
  · rintro ⟨isPlaced, rfl⟩
    exact ⟨next, isPlaced, rfl⟩

/-- The first round always goes through. -/
theorem exists_lifted (nonNegative : NonNegative rules) (subset : ruleIds ⊆ rules.ids) :
    ∃ lifted, rules.assign (lifts ruleIds) = .ok lifted ∧
      lifted.rows = rules.rows.map (assigned (lifts ruleIds)) := by
  refine assign_eq_ok (fun assignment present => subset (mem_lifts present).1) ?_ ?_
  · exact nodup_snd_zipIdx_map fun first second same => by omega
  · intro assignment present taken
    obtain ⟨rule, ruleMem, same⟩ := mem_map.mp taken
    have below := (mem_lifts present).2
    have atLeast := nonNegative rule ruleMem
    omega

/-- A reorder goes through when the rules that it leaves out have later positions. -/
theorem exists_reordered (nonNegative : NonNegative rules)
    (length : ruleIds.length = rules.rows.length) (subset : ruleIds ⊆ rules.ids)
    (clear : ∀ rule ∈ rules.rows, rule.id ∉ ruleIds → (rules.rows.length : Int) ≤ rule.position) :
    ∃ next, rules.reorderRules ruleIds = .ok (next.listRules, next) ∧
      next.rows = rules.rows.map fun rule => assigned (places ruleIds)
        (assigned (lifts ruleIds) rule) := by
  obtain ⟨lifted, isLifted, liftedRows⟩ := exists_lifted nonNegative subset
  have liftedIds : lifted.ids = rules.ids :=
    ids_of_rows (fun _ => id_assigned) liftedRows
  have free : ∀ assignment ∈ places ruleIds, assignment.2 ∉ lifted.positions := by
    intro assignment present taken
    obtain ⟨-, atLeast, below⟩ := mem_places present
    rw [positions, liftedRows, map_map] at taken
    obtain ⟨rule, ruleMem, same⟩ := mem_map.mp taken
    rw [Function.comp_apply] at same
    by_cases placed : rule.id ∈ (lifts ruleIds).map Prod.fst
    · have negative := (mem_lifts (position_assigned placed)).2
      dsimp only at negative
      omega
    · rw [assigned_of_not_mem placed] at same
      rw [map_fst_lifts] at placed
      have later := clear rule ruleMem placed
      omega
  obtain ⟨next, isNext, nextRows⟩ := assign_eq_ok
    (fun assignment present => liftedIds ▸ subset (mem_places present).1)
    (nodup_snd_zipIdx_map fun first second same => Int.ofNat.inj same) free
  refine ⟨next, reorderRules_eq_ok.mpr ⟨⟨length, subset⟩, lifted, isLifted, isNext, rfl⟩, ?_⟩
  rw [nextRows, liftedRows, map_map]
  rfl

/-- It fails when one of them has a position that it gives. -/
theorem reorderRules_ne_ok (nonNegative : NonNegative rules) {rule : WorkspaceRule}
    (ruleMem : rule ∈ rules.rows) (omitted : rule.id ∉ ruleIds)
    (below : rule.position < rules.rows.length) :
    rules.reorderRules ruleIds ≠ .ok (listed, next) := by
  intro accepted
  obtain ⟨⟨length, subset⟩, lifted, isLifted, isPlaced, -⟩ := reorderRules_eq_ok.mp accepted
  obtain ⟨other, isOther, liftedRows⟩ := exists_lifted nonNegative subset
  cases isLifted.symm.trans isOther
  have stillThere : rule ∈ lifted.rows := by
    rw [← map_fst_lifts ruleIds] at omitted
    rw [liftedRows]
    exact mem_map.mpr ⟨rule, ruleMem, assigned_of_not_mem omitted⟩
  have taken := snd_mem_places (nonNegative rule ruleMem) (length ▸ below)
  rw [← map_fst_places ruleIds] at omitted
  exact assign_ne_ok stillThere omitted taken isPlaced

/-- A permutation is listed in its own order. -/
theorem listRules_reordered (nodup : ruleIds.Nodup) (perm : ruleIds.Perm rules.ids)
    (nextRows : next.rows = rules.rows.map fun rule => assigned (places ruleIds)
      (assigned (lifts ruleIds) rule)) :
    next.listRules.map WorkspaceRule.id = ruleIds := by
  have sameIds : next.ids = rules.ids :=
    ids_of_rows (fun _ => id_assigned.trans id_assigned) nextRows
  have position : ∀ rule ∈ next.rows, rule.position = ruleIds.idxOf rule.id := by
    intro rule ruleMem
    rw [nextRows] at ruleMem
    obtain ⟨before, beforeMem, rfl⟩ := mem_map.mp ruleMem
    have listed : (assigned (lifts ruleIds) before).id ∈ (places ruleIds).map Prod.fst := by
      rw [map_fst_places, id_assigned]
      exact perm.symm.subset (mem_map_of_mem beforeMem)
    rw [id_assigned]
    exact eq_idxOf_of_mem_places nodup (position_assigned listed)
  have sorted : next.listRules.Perm next.rows := perm_insertionSort _ _
  have permuted : (next.listRules.map WorkspaceRule.id).Perm ruleIds :=
    (sorted.map _).trans ((Perm.of_eq sameIds).trans perm.symm)
  have once (first second : RuleId) (firstMem : first ∈ next.listRules.map WorkspaceRule.id)
      (_ : second ∈ ruleIds) (le : ruleIds.idxOf first ≤ ruleIds.idxOf second)
      (ge : ruleIds.idxOf second ≤ ruleIds.idxOf first) : first = second :=
    (idxOf_inj (permuted.subset firstMem)).mp (Nat.le_antisymm le ge)
  refine Perm.eq_of_pairwise once ?_ ?_ permuted
  · rw [pairwise_map]
    have ordered : next.listRules.Pairwise fun first second =>
        first.position ≤ second.position := pairwise_insertionSort _ _
    refine ordered.imp_of_mem fun {first second} firstMem secondMem le => ?_
    rw [position first (sorted.subset firstMem), position second (sorted.subset secondMem)] at le
    omega
  · rw [pairwise_iff_getElem]
    intro first second firstLt secondLt less
    rw [nodup.idxOf_getElem, nodup.idxOf_getElem]
    exact Nat.le_of_lt less

end Reorders

section Calls

variable {call : RuleCall} {request : UpsertWorkspaceRuleRequest}

theorem createRule_eq_ok {created : WorkspaceRule} :
    rules.createRule ruleId request = .ok (created, next) ↔
      rules.rows.length < workspaceRulesMax ∧
        created = ⟨ruleId, rules.rows.length, request.title, request.description⟩ ∧
          rules.insert created = .ok next := by
  rw [createRule, check_bind_eq_ok, failIf_eq_ok, decide_eq_false_iff_not, Nat.not_le]
  refine and_congr_right fun _ => ?_
  rw [bind_eq_ok]
  constructor
  · rintro ⟨inserted, isInserted, same⟩
    cases same
    exact ⟨rfl, isInserted⟩
  · rintro ⟨rfl, isInserted⟩
    exact ⟨next, isInserted, rfl⟩

theorem insert_eq_ok {rule : WorkspaceRule} : rules.insert rule = .ok next ↔
    (rule.id ∉ rules.ids ∧ rule.position ∉ rules.positions) ∧ next.rows = rule :: rules.rows := by
  rw [WorkspaceRules.insert]
  by_cases taken : rule.id ∈ rules.ids ∨ rule.position ∈ rules.positions
  · simp only [dif_pos taken, reduceCtorEq, false_iff, ← not_or]
    exact fun free => free.1 taken
  · rcases next with ⟨rows, idsNodup, positionsNodup⟩
    simp only [dif_neg taken, Except.ok.injEq, WorkspaceRules.mk.injEq]
    exact ⟨fun same => ⟨not_or.mp taken, same.symm⟩, fun free => free.2.symm⟩

/-- The rules after a call are those before, or those that a call returns. -/
theorem NonNegative.after (nonNegative : NonNegative rules) (call : RuleCall) :
    NonNegative (call.after rules) := by
  cases call with
  | create ruleId request =>
    rw [RuleCall.after]
    cases isCreated : rules.createRule ruleId request with
    | error failure => exact nonNegative
    | ok result =>
      obtain ⟨-, created, inserted⟩ := createRule_eq_ok.mp isCreated
      intro rule ruleMem
      have rows := (insert_eq_ok.mp inserted).2
      rw [Except.map, Except.toOption, Option.getD_some, rows] at ruleMem
      rcases mem_cons.mp ruleMem with rfl | before
      · rw [created]
        exact Int.natCast_nonneg _
      · exact nonNegative rule before
  | delete ruleId =>
    rw [RuleCall.after]
    by_cases present : ruleId ∈ rules.ids
    · have deleted : ∃ next, rules.deleteRule ruleId = .ok next ∧
          next.rows = rules.rows.filter fun rule => rule.id ≠ ruleId := by
        refine ⟨_, check_bind_eq_ok.mpr ⟨failIf_eq_ok.mpr ?_, rfl⟩, rfl⟩
        simpa using present
      obtain ⟨next, isNext, rows⟩ := deleted
      rw [isNext, Except.toOption, Option.getD_some]
      intro rule ruleMem
      rw [rows] at ruleMem
      exact nonNegative rule (mem_of_mem_filter ruleMem)
    · have refused : ∃ failure, rules.deleteRule ruleId = .error failure := by
        rw [deleteRule, failIf, decide_eq_true present]
        exact ⟨_, rfl⟩
      obtain ⟨failure, isRefused⟩ := refused
      rw [isRefused]
      exact nonNegative
  | reorder ruleIds =>
    rw [RuleCall.after]
    cases isReordered : rules.reorderRules ruleIds with
    | error failure => exact nonNegative
    | ok result =>
      intro rule ruleMem
      rw [Except.map, Except.toOption, Option.getD_some] at ruleMem
      obtain ⟨⟨length, subset⟩, -⟩ := reorderRules_eq_ok.mp isReordered
      have clear : ∀ rule ∈ rules.rows, rule.id ∉ ruleIds →
          (rules.rows.length : Int) ≤ rule.position := by
        intro other otherMem omitted
        by_contra below
        exact reorderRules_ne_ok nonNegative otherMem omitted (Int.not_le.mp below) isReordered
      obtain ⟨next, isNext, rows⟩ := exists_reordered nonNegative length subset clear
      cases isNext.symm.trans isReordered
      rw [rows] at ruleMem
      obtain ⟨before, beforeMem, rfl⟩ := mem_map.mp ruleMem
      by_cases placed : before.id ∈ ruleIds
      · have listed : (assigned (lifts ruleIds) before).id ∈ (places ruleIds).map Prod.fst := by
          rw [map_fst_places, id_assigned]
          exact placed
        exact (mem_places (position_assigned listed)).2.1
      · have notLifted : before.id ∉ (lifts ruleIds).map Prod.fst := by
          rw [map_fst_lifts]
          exact placed
        have notPlaced : before.id ∉ (places ruleIds).map Prod.fst := by
          rw [map_fst_places]
          exact placed
        rw [assigned_of_not_mem notLifted, assigned_of_not_mem notPlaced]
        exact nonNegative before beforeMem

/-- A call does what it should exactly when it fits. -/
theorem kept_iff_fits (nonNegative : NonNegative rules) (allowed : call.Allowed rules) :
    call.Kept rules ↔ call.Fits rules := by
  cases call with
  | create ruleId request =>
    refine imp_congr_right fun below => ?_
    constructor
    · rintro ⟨created, next, isCreated, -⟩
      obtain ⟨-, rfl, inserted⟩ := createRule_eq_ok.mp isCreated
      exact (insert_eq_ok.mp inserted).1.2
    · intro free
      have inserted : ∃ next, rules.insert
          ⟨ruleId, rules.rows.length, request.title, request.description⟩ = .ok next := by
        rw [WorkspaceRules.insert, dif_neg (not_or.mpr ⟨allowed, free⟩)]
        exact ⟨_, rfl⟩
      obtain ⟨next, isNext⟩ := inserted
      refine ⟨_, next, createRule_eq_ok.mpr ⟨below, rfl, isNext⟩, ?_⟩
      rw [(insert_eq_ok.mp isNext).2]
      exact mem_cons_self
  | delete ruleId => exact Iff.rfl
  | reorder ruleIds =>
    constructor
    · intro kept length subset
      by_contra misfit
      obtain ⟨repeated, clear⟩ := not_or.mp misfit
      obtain ⟨next, isNext, -⟩ := exists_reordered nonNegative length subset
        fun rule ruleMem omitted => by
          by_contra below
          exact clear ⟨rule, ruleMem, omitted, Int.not_le.mp below⟩
      exact repeated ((kept _ next isNext).1.nodup_iff.mpr rules.idsNodup)
    · intro fits listed next accepted
      obtain ⟨⟨length, subset⟩, -⟩ := reorderRules_eq_ok.mp accepted
      rcases fits length subset with nodup | ⟨rule, ruleMem, omitted, below⟩
      · have idsLength : rules.ids.length = ruleIds.length := by
          rw [ids, length_map, length]
        have perm : ruleIds.Perm rules.ids :=
          (subperm_of_subset nodup subset).perm_of_length_le idsLength.le
        have everyone : ∀ rule ∈ rules.rows, rule.id ∉ ruleIds →
            (rules.rows.length : Int) ≤ rule.position := fun rule ruleMem omitted =>
          absurd (perm.symm.subset (mem_map_of_mem ruleMem)) omitted
        obtain ⟨other, isOther, rows⟩ := exists_reordered nonNegative length subset everyone
        cases accepted.symm.trans isOther
        exact ⟨perm, listRules_reordered nodup perm rows⟩
      · exact absurd accepted (reorderRules_ne_ok nonNegative ruleMem omitted below)

end Calls

/-- The calls on a workspace keep the order of its rules exactly when each of them fits. -/
theorem rules_keep_order_iff {calls : List RuleCall} {finish : WorkspaceRules} :
    Steps KeepsOrder .empty calls finish ↔
      Steps (Guarded Calls fun rules call => call.Fits rules) .empty calls finish := by
  refine Steps.congr_within NonNegative ?_ ?_ (forall_mem_nil _)
  · rintro rules call next ⟨⟨-, rfl⟩, -, -⟩ nonNegative
    exact nonNegative.after call
  · intro rules call next nonNegative
    constructor
    · rintro ⟨called, kept, -⟩
      exact ⟨called, (kept_iff_fits nonNegative called.1).mp kept⟩
    · rintro ⟨called, fits⟩
      exact ⟨called, (kept_iff_fits nonNegative called.1).mpr fits, next.positionsNodup⟩

/-- A rule with a title. -/
def titled (title : String) : UpsertWorkspaceRuleRequest where
  title := title
  description := none

def deleteFirst : List RuleCall :=
  [.create ⟨1⟩ (titled "first"), .create ⟨2⟩ (titled "second"), .delete ⟨1⟩]

def deleteSecond : List RuleCall :=
  [.create ⟨1⟩ (titled "first"), .create ⟨2⟩ (titled "second"), .create ⟨3⟩ (titled "third"),
    .delete ⟨2⟩]

/-- After the first of two rules is deleted, the next rule finds its position taken. After the second
of three is deleted, a list that names the first one twice is accepted. -/
theorem rules_out_of_order :
    (∃ rules, Steps Calls .empty deleteFirst rules ∧ rules.ids = [⟨2⟩] ∧
      rules.createRule ⟨3⟩ (titled "third") = .error .uniqueViolation ∧
        ¬ RuleCall.Kept rules (.create ⟨3⟩ (titled "third"))) ∧
    ∃ rules, Steps Calls .empty deleteSecond rules ∧ rules.ids = [⟨3⟩, ⟨1⟩] ∧
      ∃ listed next, rules.reorderRules [⟨1⟩, ⟨1⟩] = .ok (listed, next) ∧
        listed.map WorkspaceRule.id = [⟨1⟩, ⟨3⟩] ∧ ¬ RuleCall.Kept rules (.reorder [⟨1⟩, ⟨1⟩]) := by
  have taken (rules : WorkspaceRules) (call : RuleCall) (allowed : call.Allowed rules) :
      Calls rules call (call.after rules) :=
    ⟨allowed, rfl⟩
  constructor
  · have allowed : Steps.AllAllowed (fun rules call => RuleCall.after rules call)
        (fun rules call => call.Allowed rules) .empty deleteFirst := by
      decide +kernel
    have refused : (deleteFirst.foldl (fun rules call => RuleCall.after rules call)
        .empty).createRule ⟨3⟩ (titled "third") = .error .uniqueViolation := by
      rfl
    refine ⟨_, Steps.of_allAllowed taken allowed, by decide +kernel, refused, fun kept => ?_⟩
    obtain ⟨created, next, isCreated, -⟩ := kept (by decide +kernel)
    cases refused.symm.trans isCreated
  · have allowed : Steps.AllAllowed (fun rules call => RuleCall.after rules call)
        (fun rules call => call.Allowed rules) .empty deleteSecond := by
      decide +kernel
    have accepted : ((deleteSecond.foldl (fun rules call => RuleCall.after rules call)
        .empty).reorderRules [⟨1⟩, ⟨1⟩]).toOption.any (fun result =>
          decide (result.1.map WorkspaceRule.id = [⟨1⟩, ⟨3⟩])) = true := by
      decide +kernel
    obtain ⟨⟨listed, next⟩, isReordered, order⟩ := exists_ok accepted
    refine ⟨_, Steps.of_allAllowed taken allowed, by decide +kernel, listed, next, isReordered,
      of_decide_eq_true order, fun kept => ?_⟩
    have once := (kept listed next isReordered).1.nodup_iff.mpr (idsNodup _)
    exact absurd once (by decide)

end Bongtalk.Workspaces.Onboarding
