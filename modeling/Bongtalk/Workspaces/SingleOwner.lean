import Bongtalk.Workspaces.Membership

/-!
# One owner

Each workspace has one member in the role of the owner, the one its row names. The services look
at roles before their transactions, so a transaction can write after the owner has changed.
-/

namespace Bongtalk.Workspaces

open Library EventLoop Prisma Shared MembershipState

/-- The row with the role of the owner is the one that `ownerId` names, and there is no other. -/
def SingleOwner (state : MembershipState) : Prop :=
  ∀ workspace ∈ state.workspaces, ∀ row : WorkspaceMember,
    (row ∈ state.members ∧ row.workspaceId = workspace.id ∧ row.role = .owner) ↔
      row = ⟨workspace.id, workspace.ownerId, .owner⟩

section Writes

variable {state : MembershipState} {workspaceId : WorkspaceId}

/-- One of the users owns the workspace. -/
def OwnedBy (state : MembershipState) (workspaceId : WorkspaceId) (userIds : List UserId) : Prop :=
  ∃ workspace ∈ state.workspaces, workspace.id = workspaceId ∧ workspace.ownerId ∈ userIds

theorem owner_mem (lawful : SingleOwner state) {workspace : OwnedWorkspace}
    (present : workspace ∈ state.workspaces) :
    (⟨workspace.id, workspace.ownerId, .owner⟩ : WorkspaceMember) ∈ state.members :=
  ((lawful workspace present _).mpr rfl).1

/-- Members can get a lower role as long as the owner is not among them. -/
theorem singleOwner_setRole_iff (lawful : SingleOwner state) {userIds : List UserId}
    {role : WorkspaceRole} (lower : role ≠ .owner) :
    SingleOwner (state.setRole workspaceId userIds role) ↔ ¬OwnedBy state workspaceId userIds := by
  constructor
  · rintro after ⟨workspace, present, rfl, demoted⟩
    obtain ⟨old, -, changed⟩ := mem_setRole.mp (owner_mem after present)
    split at changed
    · exact lower (congrArg WorkspaceMember.role changed)
    next kept =>
      apply kept
      rw [changed]
      exact ⟨rfl, demoted⟩
  · intro others workspace present row
    rw [← lawful workspace present row, mem_setRole]
    constructor
    · rintro ⟨⟨old, oldMem, rfl⟩, sameWorkspace, isOwner⟩
      by_cases demoted : old.workspaceId = workspaceId ∧ old.userId ∈ userIds
      · rw [if_pos demoted] at isOwner
        exact absurd isOwner lower
      · rw [if_neg demoted] at sameWorkspace isOwner ⊢
        exact ⟨oldMem, sameWorkspace, isOwner⟩
    · rintro ⟨rowMem, sameWorkspace, isOwner⟩
      refine ⟨⟨row, rowMem, if_neg ?_⟩, sameWorkspace, isOwner⟩
      rintro ⟨inWorkspace, demoted⟩
      have isRow := (lawful workspace present row).mp ⟨rowMem, sameWorkspace, isOwner⟩
      rw [isRow] at inWorkspace demoted
      exact others ⟨workspace, present, inWorkspace, demoted⟩

theorem singleOwner_deleteMembers_iff (lawful : SingleOwner state) {userIds : List UserId} :
    SingleOwner (state.deleteMembers workspaceId userIds) ↔ ¬OwnedBy state workspaceId userIds := by
  constructor
  · rintro after ⟨workspace, present, rfl, deleted⟩
    exact (mem_deleteMembers.mp (owner_mem after present)).2 ⟨rfl, deleted⟩
  · intro others workspace present row
    rw [← lawful workspace present row, mem_deleteMembers]
    constructor
    · rintro ⟨⟨rowMem, -⟩, ofWorkspace⟩
      exact ⟨rowMem, ofWorkspace⟩
    · rintro ⟨rowMem, sameWorkspace, isOwner⟩
      refine ⟨⟨rowMem, ?_⟩, sameWorkspace, isOwner⟩
      rintro ⟨inWorkspace, deleted⟩
      have isRow := (lawful workspace present row).mp ⟨rowMem, sameWorkspace, isOwner⟩
      rw [isRow] at inWorkspace deleted
      exact others ⟨workspace, present, inWorkspace, deleted⟩

variable {fromUserId toUserId : UserId}

/-- The rows after a transfer: one is demoted, then one promoted. -/
theorem mem_transferred {row : WorkspaceMember} :
    row ∈ (((state.setRole workspaceId [fromUserId] .admin).setRole workspaceId [toUserId]
        .owner).setOwner workspaceId toUserId).members ↔
      ∃ old ∈ state.members, row = { old with role :=
        if old.workspaceId = workspaceId ∧ old.userId = toUserId then .owner
        else if old.workspaceId = workspaceId ∧ old.userId = fromUserId then .admin
        else old.role } := by
  change row ∈ ((state.setRole workspaceId [fromUserId] .admin).setRole workspaceId [toUserId]
    .owner).members ↔ _
  simp only [mem_setRole, List.mem_singleton, exists_exists_and_eq_and]
  refine exists_congr fun old => and_congr_right fun _ => ?_
  by_cases demoted : old.workspaceId = workspaceId ∧ old.userId = fromUserId
  · rw [if_pos demoted]
    by_cases promoted : old.workspaceId = workspaceId ∧ old.userId = toUserId
    · rw [if_pos promoted, if_pos promoted, eq_comm]
    · rw [if_neg promoted, if_neg promoted, if_pos demoted, eq_comm]
  · rw [if_neg demoted]
    by_cases promoted : old.workspaceId = workspaceId ∧ old.userId = toUserId
    · rw [if_pos promoted, if_pos promoted, eq_comm]
    · rw [if_neg promoted, if_neg promoted, if_neg demoted, eq_comm]

/-- A transfer leaves the other workspaces alone. -/
theorem mem_transferred_elsewhere {row : WorkspaceMember}
    (elsewhere : row.workspaceId ≠ workspaceId) :
    row ∈ (((state.setRole workspaceId [fromUserId] .admin).setRole workspaceId [toUserId]
        .owner).setOwner workspaceId toUserId).members ↔ row ∈ state.members := by
  rw [mem_transferred]
  constructor
  · rintro ⟨old, oldMem, rfl⟩
    rw [if_neg fun promoted => elsewhere promoted.1, if_neg fun demoted => elsewhere demoted.1]
    exact oldMem
  · intro rowMem
    refine ⟨row, rowMem, ?_⟩
    rw [if_neg fun promoted => elsewhere promoted.1, if_neg fun demoted => elsewhere demoted.1]

/-- In its workspace, a transfer makes the target an owner and leaves the owners it does not
demote. -/
theorem owner_mem_transferred_iff {fromUserId toUserId userId : UserId}
    (target : state.isMember workspaceId toUserId = true) :
    (⟨workspaceId, userId, .owner⟩ : WorkspaceMember) ∈
        (((state.setRole workspaceId [fromUserId] .admin).setRole workspaceId [toUserId]
          .owner).setOwner workspaceId toUserId).members ↔
      userId = toUserId ∨
        userId ≠ fromUserId ∧ (⟨workspaceId, userId, .owner⟩ : WorkspaceMember) ∈ state.members := by
  rw [mem_transferred]
  constructor
  · rintro ⟨⟨ofWorkspace, oldUser, role⟩, oldMem, row⟩
    obtain ⟨rfl, rfl, isOwner⟩ := WorkspaceMember.mk.inj row
    refine or_iff_not_imp_left.mpr fun notTarget => ?_
    rw [if_neg fun promoted => notTarget promoted.2] at isOwner
    split at isOwner
    · cases isOwner
    next kept =>
      obtain rfl := isOwner
      exact ⟨fun demoted => kept ⟨rfl, demoted⟩, oldMem⟩
  · rintro (rfl | ⟨kept, rowMem⟩)
    · obtain ⟨role, targetMem⟩ := exists_of_isMember target
      refine ⟨_, targetMem, ?_⟩
      rw [if_pos ⟨rfl, rfl⟩]
    · refine ⟨_, rowMem, ?_⟩
      split
      · rfl
      · rw [if_neg fun demoted => kept demoted.2]

/-- A transfer keeps one owner exactly when it comes from the owner, or goes to the owner. -/
theorem singleOwner_transferred_iff (lawful : SingleOwner state)
    (target : state.isMember workspaceId toUserId = true) :
    SingleOwner (((state.setRole workspaceId [fromUserId] .admin).setRole workspaceId [toUserId]
        .owner).setOwner workspaceId toUserId) ↔
      ∀ workspace ∈ state.workspaces, workspace.id = workspaceId →
        workspace.ownerId = fromUserId ∨ workspace.ownerId = toUserId := by
  constructor
  · rintro after workspace present rfl
    refine or_iff_not_imp_left.mpr fun notDemoted => ?_
    have isRow := (after { workspace with ownerId := toUserId }
      (List.mem_map.mpr ⟨workspace, present, if_pos rfl⟩)
      ⟨workspace.id, workspace.ownerId, .owner⟩).mp ⟨?_, rfl, rfl⟩
    · exact congrArg WorkspaceMember.userId isRow
    · exact (owner_mem_transferred_iff target).mpr (.inr ⟨notDemoted, owner_mem lawful present⟩)
  · intro fromOwner workspace present row
    obtain ⟨before, beforeMem, rfl⟩ := List.mem_map.mp present
    by_cases here : before.id = workspaceId
    · subst here
      rw [if_pos rfl]
      constructor
      · rcases row with ⟨ofWorkspace, userId, role⟩
        rintro ⟨rowMem, rfl, rfl⟩
        rcases (owner_mem_transferred_iff target).mp rowMem with rfl | ⟨notDemoted, oldMem⟩
        · rfl
        have isRow := (lawful before beforeMem _).mp ⟨oldMem, rfl, rfl⟩
        have isOwner : userId = before.ownerId := congrArg WorkspaceMember.userId isRow
        rcases fromOwner before beforeMem rfl with same | same
        · exact absurd (isOwner.trans same) notDemoted
        · rw [isOwner, same]
      · rintro rfl
        exact ⟨(owner_mem_transferred_iff target).mpr (.inl rfl), rfl, rfl⟩
    · rw [if_neg here, ← lawful before beforeMem row]
      refine and_congr_left fun isOwner => mem_transferred_elsewhere ?_
      exact fun inWorkspace => here (isOwner.1.symm.trans inWorkspace)

end Writes

/-- What a transaction writes has not been overtaken by a change of the owner: the user who
transfers the workspace still owns it, and no one who is demoted or deleted has come to. A transfer
to the user who owns it already does no harm either. -/
def UpToDate (state : MembershipState) : MemberTask → Prop
  | .transferOwnership workspaceId fromUserId toUserId =>
    state.isMember workspaceId fromUserId = true → state.isMember workspaceId toUserId = true →
      ∀ workspace ∈ state.workspaces, workspace.id = workspaceId →
        workspace.ownerId = fromUserId ∨ workspace.ownerId = toUserId
  | .updateRole workspaceId userId _ | .delete workspaceId userId =>
    ¬OwnedBy state workspaceId [userId]
  | .ban workspaceId _ userId wasMember =>
    wasMember = true → (state.banned.findUnique (workspaceId, userId)).isNone = true →
      ¬OwnedBy state workspaceId [userId]
  | .bulkWrite workspaceId _ affected => ¬OwnedBy state workspaceId affected
  | _ => True

section Run

variable {verify : String → String → Bool} {state : MembershipState}

/-- The owner of a workspace is a member of it. -/
theorem not_ownedBy_of_not_isMember (lawful : SingleOwner state) {workspaceId : WorkspaceId}
    {userId : UserId} (outside : state.isMember workspaceId userId ≠ true) :
    ¬OwnedBy state workspaceId [userId] := by
  rintro ⟨workspace, present, rfl, owned⟩
  rw [List.mem_singleton] at owned
  subst owned
  exact outside (isMember_of_mem (owner_mem lawful present))

theorem singleOwner_delete_iff (lawful : SingleOwner state) {otherwise : MembershipState}
    (lawfulOtherwise : SingleOwner otherwise) (workspaceId : WorkspaceId) (userId : UserId) :
    SingleOwner ((state.delete workspaceId userId).toOption.getD otherwise) ↔
      ¬OwnedBy state workspaceId [userId] := by
  rw [delete]
  split
  · exact singleOwner_deleteMembers_iff lawful
  next outside => exact iff_of_true lawfulOtherwise (not_ownedBy_of_not_isMember lawful outside)

theorem AssignableRole.role_ne_owner (nextRole : AssignableRole) : nextRole.role ≠ .owner := by
  cases nextRole <;> simp [AssignableRole.role]

theorem singleOwner_updateRole_iff (lawful : SingleOwner state) (workspaceId : WorkspaceId)
    (userId : UserId) (nextRole : AssignableRole) :
    SingleOwner ((state.updateRole workspaceId userId nextRole).toOption.getD state) ↔
      ¬OwnedBy state workspaceId [userId] := by
  rw [updateRole]
  split
  · exact singleOwner_setRole_iff lawful nextRole.role_ne_owner
  next outside => exact iff_of_true lawful (not_ownedBy_of_not_isMember lawful outside)

/-- A step keeps one owner exactly when what it writes is up to date. -/
theorem singleOwner_resume_iff (lawful : SingleOwner state) (task : MemberTask) :
    SingleOwner (task.resume verify state).1 ↔ UpToDate state task := by
  cases task with
  | transferOwnership workspaceId fromUserId toUserId =>
    rw [MemberTask.resume, commit, transferOwnership, UpToDate]
    split
    next outside =>
      refine iff_of_true lawful fun _ target => ?_
      rw [target] at outside
      cases outside
    next target =>
      rw [Bool.not_eq_true, Bool.not_eq_false'] at target
      split
      next outside =>
        refine iff_of_true lawful fun actor => ?_
        rw [actor] at outside
        cases outside
      next actor =>
        rw [Bool.not_eq_true, Bool.not_eq_false'] at actor
        split
        next missing =>
          refine iff_of_true lawful fun _ _ workspace present same => ?_
          rw [← same, Table.findUnique_of_mem present] at missing
          cases missing
        · apply (singleOwner_transferred_iff lawful target).trans
          exact ⟨fun fromOwner _ _ => fromOwner, fun fromOwner => fromOwner actor target⟩
  | updateRole workspaceId userId nextRole =>
    exact singleOwner_updateRole_iff lawful workspaceId userId nextRole
  | delete workspaceId userId => exact singleOwner_delete_iff lawful lawful workspaceId userId
  | ban workspaceId actorId userId wasMember =>
    rw [MemberTask.resume, commit, ban, UpToDate]
    cases inserted : state.banned.insert? ⟨workspaceId, userId, actorId⟩ with
    | none =>
      obtain ⟨row, present, same⟩ := Table.insert?_eq_none_iff.mp inserted
      refine iff_of_true lawful fun _ missing => ?_
      rw [Table.findUnique_eq_some_iff.mpr ⟨present, same⟩] at missing
      cases missing
    | some banned =>
      have free : (state.banned.findUnique (workspaceId, userId)).isNone = true := by
        rw [Option.isNone_iff_eq_none, Table.findUnique_eq_none_iff]
        exact (Table.insert?_eq_some_iff.mp inserted).1
      cases wasMember with
      | true =>
        have lawfulInserted : SingleOwner { state with banned := banned } := lawful
        apply (singleOwner_delete_iff lawfulInserted lawful workspaceId userId).trans
        exact ⟨fun other _ _ => other, fun other => other rfl free⟩
      | false => exact iff_of_true lawful fun isMember => absurd isMember Bool.false_ne_true
  | bulkWrite workspaceId action affected =>
    cases action with
    | kick => exact singleOwner_deleteMembers_iff lawful
    | role nextRole =>
      exact singleOwner_setRole_iff lawful nextRole.role_ne_owner
  | banTop workspaceId actorId userId actor role =>
    cases role with
    | none | some role => exact iff_of_true lawful trivial
  | _ => exact iff_of_true lawful trivial

/-- Each state of a run has one owner in every workspace exactly when no transaction of the run is
overtaken by a change of the owner. -/
theorem single_owner_iff (verify : String → String → Bool) {start : MembershipState}
    (lawful : SingleOwner start) {labels : List (Label MemberTask MemberInput)}
    {finish : State MembershipState MemberTask} :
    Steps (Lawful (Step (memberLoop verify)) fun state => SingleOwner state.shared) ⟨start, []⟩
        labels finish ↔
      Steps (Guarded (Step (memberLoop verify)) (OnResume UpToDate)) ⟨start, []⟩ labels finish := by
  refine Steps.lawful_iff_guarded (fun _ => True) (fun _ _ => trivial) ?_ trivial lawful
  intro state label next transition _ lawfulNow
  cases transition with
  | resume before task after => exact singleOwner_resume_iff lawfulNow task
  | @accept _ _ input _ _ accepted =>
    obtain ⟨rfl, -⟩ := accepted
    refine iff_of_true ?_ trivial
    cases input with
    | request call | setRoles workspaceId userId roles | setPassword userId passwordHash =>
      exact lawfulNow

end Run

/-- A workspace of user 1, with users 2 and 3 as members. The hash is the password itself. -/
def ownedByFirst : MembershipState where
  workspaces := .single { id := ⟨1⟩, ownerId := ⟨1⟩ }
  members :=
    { rows := [⟨⟨1⟩, ⟨1⟩, .owner⟩, ⟨⟨1⟩, ⟨2⟩, .member⟩, ⟨⟨1⟩, ⟨3⟩, .member⟩]
      keysNodup := by simp }
  systemRole := fun workspaceId role =>
    { id := ⟨systemRolePosition role⟩, workspaceId := workspaceId, name := roleLiteral role
      position := systemRolePosition role, isSystem := true }
  passwordHash := fun userId => if userId = ⟨1⟩ then some "secret" else none

theorem singleOwner_ownedByFirst : SingleOwner ownedByFirst := by
  intro workspace present row
  rw [ownedByFirst, Table.mem_single] at present
  subst present
  simp only [ownedByFirst, Table.mem_def, List.mem_cons, List.not_mem_nil, or_false]
  constructor
  · rintro ⟨rfl | rfl | rfl, -, isOwner⟩
    · rfl
    · cases isOwner
    · cases isOwner
  · rintro rfl
    exact ⟨.inl rfl, rfl, rfl⟩

def transferTo (toUserId : UserId) : MemberCall :=
  ⟨⟨1⟩, ⟨1⟩, .transferOwnership toUserId "secret"⟩

/-- A transfer that nothing overtakes. -/
theorem transfer_keeps_one_owner : ∃ labels finish,
    Steps (Lawful (Step (memberLoop (· == ·))) fun state => SingleOwner state.shared)
        ⟨ownedByFirst, []⟩ labels finish ∧
      finish.shared.workspaces.rows.map (·.ownerId) = [⟨2⟩] := by
  have accepted : Guarded (Step (memberLoop (· == ·))) (OnResume UpToDate) ⟨ownedByFirst, []⟩
      (.accept (.request (transferTo ⟨2⟩)))
      ⟨ownedByFirst, [.findWorkspace (transferTo ⟨2⟩)]⟩ :=
    ⟨.accept ⟨rfl, rfl⟩, trivial⟩
  have fromOwner : ∀ workspace ∈ ownedByFirst.workspaces, workspace.id = ⟨1⟩ →
      workspace.ownerId = ⟨1⟩ ∨ workspace.ownerId = ⟨2⟩ :=
    List.forall_mem_singleton.mpr fun _ => .inl rfl
  obtain ⟨labels, steps⟩ := exists_guarded_runFirst 4 (Steps.refl.step accepted)
    ⟨trivial, trivial, trivial, fun _ _ => fromOwner, trivial⟩
  exact ⟨labels, _, (single_owner_iff _ singleOwner_ownedByFirst).mpr steps, by rfl⟩

/-- The owner transfers the workspace twice. Both requests see the owner's role before either of
them writes, and leave two owners. -/
theorem two_transfers_leave_two_owners : SingleOwner ownedByFirst ∧ ∃ labels finish,
    Steps (Step (memberLoop (· == ·))) ⟨ownedByFirst, []⟩ labels finish ∧
      finish.shared.members.rows = [⟨⟨1⟩, ⟨1⟩, .admin⟩, ⟨⟨1⟩, ⟨2⟩, .owner⟩, ⟨⟨1⟩, ⟨3⟩, .owner⟩] ∧
      ¬SingleOwner finish.shared := by
  obtain ⟨labels, steps⟩ := (memberLoop (· == ·)).exists_steps_played
    (fun state input => (input.after state, input.starts)) (fun _ _ => true) ⟨ownedByFirst, []⟩
    (fun _ _ _ => ⟨rfl, rfl⟩) .refl
    [.accept (.request (transferTo ⟨2⟩)), .run 0, .run 0, .run 0,
      .accept (.request (transferTo ⟨3⟩)), .run 1, .run 1, .run 1, .run 0, .run 0] rfl
  refine ⟨singleOwner_ownedByFirst, labels, _, steps, by rfl, fun single => ?_⟩
  have isOwner := (single { id := ⟨1⟩, ownerId := ⟨3⟩ } (.head _) ⟨⟨1⟩, ⟨2⟩, .owner⟩).mp
    ⟨.tail _ (.head _), rfl, rfl⟩
  cases isOwner

end Bongtalk.Workspaces
