import Bongtalk.Common.DomainError
import Bongtalk.Prisma.Schema

/-!
# Who may open a direct message with whom

Two gates stand before a direct message: the friendship of the pair, and what the other user has
chosen to receive. The second asks for a friendship before it asks for a shared workspace, so a
pair that has passed the first always passes the second.
-/

namespace Bongtalk.Channels.DirectMessages

open Library Common Prisma

inductive FriendshipStatus where
  | pending
  | accepted
  | blocked
deriving DecidableEq, Repr

structure Friendship where
  requesterId : UserId
  addresseeId : UserId
  status : FriendshipStatus
deriving DecidableEq, Repr

inductive DmPrivacy where
  | everyone
  | workspaceMember
deriving DecidableEq, Repr

structure DmUser where
  id : UserId
  username : String
  allowDmFrom : DmPrivacy := .everyone
  /-- The column of the settings row; an old user may have no such row. -/
  allowDmFromWorkspaceMembers : Option Bool := none
deriving DecidableEq, Repr

/-- The tables that the gates read. -/
structure Directory where
  users : Table DmUser DmUser.id := .empty
  friendships : Table Friendship fun row => (row.requesterId, row.addresseeId) := .empty
  workspaces : Table Workspace Workspace.id := .empty
  workspaceMembers : WorkspaceMemberTable := .empty

namespace Directory

variable (directory : Directory)

/-- The rows between two users, whoever asked. -/
def isBetween (first second : UserId) (row : Friendship) : Bool :=
  (row.requesterId == first && row.addresseeId == second) ||
    (row.requesterId == second && row.addresseeId == first)

def assertCanDm (meId otherId : UserId) : Except Failure Unit := do
  failIf (meId == otherId) .validationFailed "cannot DM yourself"
  let friendship := directory.friendships.rows.find? (isBetween meId otherId)
  failIf (!friendship.any (·.status == .accepted)) .friendNotFound "cannot DM: not permitted"

/-- A live workspace that both users are members of. -/
def shareWorkspace (initiatorId targetId : UserId) : Bool :=
  directory.workspaceMembers.rows.any fun own =>
    own.userId == initiatorId &&
      (directory.workspaces.rows.any fun workspace =>
        workspace.id == own.workspaceId && workspace.deletedAt.isNone) &&
      directory.workspaceMembers.rows.any fun other =>
        other.workspaceId == own.workspaceId && other.userId == targetId

def assertDmPrivacyAllows (initiatorId targetId : UserId) : Except Failure Unit :=
  if initiatorId = targetId then .ok ()
  else
    match directory.users.findUnique targetId with
    | none => failWith .dmPrivacyRestricted "cannot DM: not permitted"
    | some target =>
      let friendship := directory.friendships.rows.find? fun row =>
        row.status == .accepted && isBetween initiatorId targetId row
      let allowWorkspaceDm := target.allowDmFromWorkspaceMembers.getD true
      failIf (!(target.allowDmFrom == .everyone || friendship.isSome ||
          (allowWorkspaceDm && directory.shareWorkspace initiatorId targetId)))
        .dmPrivacyRestricted "cannot DM: not permitted"

/-- Both gates, in the order in which every way to open a direct message asks them. -/
def assertMayOpen (meId otherId : UserId) : Except Failure Unit := do
  directory.assertCanDm meId otherId
  directory.assertDmPrivacyAllows meId otherId

end Directory

variable {directory : Directory} {meId otherId : UserId}

theorem assertCanDm_eq_ok_iff :
    directory.assertCanDm meId otherId = .ok () ↔
      meId ≠ otherId ∧ ∃ row, row.status = .accepted ∧
        directory.friendships.rows.find? (Directory.isBetween meId otherId) = some row := by
  unfold Directory.assertCanDm
  simp only [bind_eq_ok, failIf_eq_ok, beq_eq_false_iff_ne, exists_const, Bool.not_eq_false',
    Option.any_eq_true, beq_iff_eq]
  constructor
  · rintro ⟨different, row, found, accepted⟩
    exact ⟨different, row, accepted, found⟩
  · rintro ⟨different, row, accepted, found⟩
    exact ⟨different, row, found, accepted⟩

/-- What a user has chosen to receive stops nobody who has passed the first gate. -/
theorem assertMayOpen_eq_ok_iff :
    directory.assertMayOpen meId otherId = .ok () ↔
      directory.assertCanDm meId otherId = .ok () ∧
        ∃ target ∈ directory.users, target.id = otherId := by
  unfold Directory.assertMayOpen
  rw [check_bind_eq_ok]
  refine and_congr_right fun canDm => ?_
  obtain ⟨different, row, accepted, found⟩ := assertCanDm_eq_ok_iff.mp canDm
  have friends : (directory.friendships.rows.find? fun row =>
      row.status == .accepted && Directory.isBetween meId otherId row).isSome = true := by
    rw [List.find?_isSome]
    refine ⟨row, List.mem_of_find?_eq_some found, ?_⟩
    simp [accepted, List.find?_some found]
  unfold Directory.assertDmPrivacyAllows
  rw [if_neg different]
  cases target : directory.users.findUnique otherId with
  | none =>
    have absent := Table.findUnique_eq_none_iff.mp target
    simp only [failWith_ne_ok, false_iff, not_exists, not_and]
    exact absent
  | some user =>
    dsimp only
    rw [failIf_eq_ok, friends]
    have present := Table.findUnique_eq_some_iff.mp target
    simp only [Bool.or_true, Bool.true_or, Bool.not_true, true_iff]
    exact ⟨user, present⟩

end Bongtalk.Channels.DirectMessages
