import Bongtalk.Common.DomainError
import Bongtalk.Library.System

/-!
# The rules of a workspace

Rules have positions, which are unique within a workspace. A new rule takes the number of rules as
its position; a reorder moves all rules out of the way and then gives them the numbers from 0 on.
-/

namespace Bongtalk.Workspaces.Onboarding

open Common List

/-- `WORKSPACE_RULES_MAX`. -/
def workspaceRulesMax : Nat :=
  10

structure RuleId where
  value : Nat
deriving DecidableEq, Repr

structure UpsertWorkspaceRuleRequest where
  title : String
  description : Option String
deriving DecidableEq, Repr

structure WorkspaceRule where
  id : RuleId
  position : Int
  title : String
  description : Option String
deriving DecidableEq, Repr

open WorkspaceRule

def WorkspaceRule.moveTo (ruleId : RuleId) (position : Int) (rule : WorkspaceRule) :
    WorkspaceRule :=
  if rule.id = ruleId then { rule with position := position } else rule

/-- The rules of one workspace, under the unique constraints of their ids and positions. -/
structure WorkspaceRules where
  rows : List WorkspaceRule
  idsNodup : (rows.map WorkspaceRule.id).Nodup
  positionsNodup : (rows.map position).Nodup

namespace WorkspaceRules

def empty : WorkspaceRules where
  rows := []
  idsNodup := nodup_nil
  positionsNodup := nodup_nil

variable (rules : WorkspaceRules)

def ids : List RuleId :=
  rules.rows.map WorkspaceRule.id

def positions : List Int :=
  rules.rows.map position

/-- Another rule has the position. -/
def Occupied (ruleId : RuleId) (position : Int) : Prop :=
  ∃ rule ∈ rules.rows, rule.id ≠ ruleId ∧ rule.position = position

instance (ruleId : RuleId) (position : Int) : Decidable (rules.Occupied ruleId position) :=
  inferInstanceAs (Decidable (∃ rule ∈ rules.rows, rule.id ≠ ruleId ∧ rule.position = position))

variable {rules} in
theorem nodup_moveTo {ruleId : RuleId} {position : Int} (free : ¬ rules.Occupied ruleId position) :
    ((rules.rows.map (moveTo ruleId position)).map WorkspaceRule.position).Nodup := by
  rw [map_map]
  refine Nodup.map_on ?_ (rules.idsNodup.of_map _)
  intro first firstMem second secondMem same
  have sameId : first.id = ruleId → second.id = ruleId → first = second := fun isFirst isSecond =>
    inj_on_of_nodup_map rules.idsNodup firstMem secondMem (isFirst.trans isSecond.symm)
  simp only [Function.comp_apply, moveTo] at same
  by_cases isFirst : first.id = ruleId
  · by_cases isSecond : second.id = ruleId
    · exact sameId isFirst isSecond
    rw [if_pos isFirst, if_neg isSecond] at same
    exact absurd ⟨second, secondMem, isSecond, same.symm⟩ free
  · by_cases isSecond : second.id = ruleId
    · rw [if_neg isFirst, if_pos isSecond] at same
      exact absurd ⟨first, firstMem, isFirst, same⟩ free
    · rw [if_neg isFirst, if_neg isSecond] at same
      exact inj_on_of_nodup_map rules.positionsNodup firstMem secondMem same

@[simp]
theorem id_moveTo (ruleId : RuleId) (position : Int) (rule : WorkspaceRule) :
    (rule.moveTo ruleId position).id = rule.id := by
  rw [moveTo]
  split <;> rfl

def insert (rule : WorkspaceRule) : Except Failure WorkspaceRules :=
  if taken : rule.id ∈ rules.ids ∨ rule.position ∈ rules.positions then .error .uniqueViolation
  else .ok {
    rows := rule :: rules.rows
    idsNodup := nodup_cons.mpr ⟨fun held => taken (.inl held), rules.idsNodup⟩
    positionsNodup :=
      nodup_cons.mpr ⟨fun held => taken (.inr held), rules.positionsNodup⟩ }

/-- The update of one position. -/
def setPosition (ruleId : RuleId) (position : Int) : Except Failure WorkspaceRules :=
  if ruleId ∉ rules.ids then .error .recordNotFound
  else if occupied : rules.Occupied ruleId position then .error .uniqueViolation
  else .ok {
    rows := rules.rows.map (moveTo ruleId position)
    idsNodup := by simpa [Function.comp_def] using rules.idsNodup
    positionsNodup := nodup_moveTo occupied }

/-- Updates one after the other, which fail together. -/
def assign (assignments : List (RuleId × Int)) : Except Failure WorkspaceRules :=
  assignments.foldlM (fun rules assignment => rules.setPosition assignment.1 assignment.2) rules

def listRules : List WorkspaceRule :=
  rules.rows.insertionSort fun first second => first.position ≤ second.position

/-- `createRule`, with the id of the new row. -/
def createRule (ruleId : RuleId) (request : UpsertWorkspaceRuleRequest) :
    Except Failure (WorkspaceRule × WorkspaceRules) := do
  failIf (workspaceRulesMax ≤ rules.rows.length) .onboardingRulesLimit
    s!"최대 {workspaceRulesMax}개의 규칙만 등록할 수 있습니다"
  let created : WorkspaceRule :=
    ⟨ruleId, rules.rows.length, request.title, request.description⟩
  let next ← rules.insert created
  return (created, next)

def deleteRule (ruleId : RuleId) : Except Failure WorkspaceRules := do
  failIf (ruleId ∉ rules.ids) .onboardingRuleNotFound "rule not found"
  return {
    rows := rules.rows.filter fun rule => rule.id ≠ ruleId
    idsNodup := rules.idsNodup.sublist (filter_sublist.map _)
    positionsNodup := rules.positionsNodup.sublist (filter_sublist.map _) }

def reorderRules (ruleIds : List RuleId) : Except Failure (List WorkspaceRule × WorkspaceRules) := do
  failIf (ruleIds.length ≠ rules.rows.length || ruleIds.any fun ruleId => ruleId ∉ rules.ids)
    .onboardingRuleNotFound "reorder list must contain exactly the workspace rules"
  -- The negative positions keep out of the way of the final ones.
  let lifted ← rules.assign (ruleIds.zipIdx.map fun entry => (entry.1, -((entry.2 : Int) + 1)))
  let placed ← lifted.assign (ruleIds.zipIdx.map fun entry => (entry.1, (entry.2 : Int)))
  return (placed.listRules, placed)

end WorkspaceRules

end Bongtalk.Workspaces.Onboarding
