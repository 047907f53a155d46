import Bongtalk.Workspaces.Applications

/-!
# The entry gate

A user may enter a workspace that is not deleted, is not banned from it, and has a verified email
of a domain that the workspace allows. Each way in makes these checks on its own.
-/

namespace Bongtalk.Workspaces

open Common Prisma Shared EntryState ApplicationState

variable {workspaceId : WorkspaceId} {userId : UserId}

/-- The ways by which a user comes to be a member without being put there by a member. -/
inductive EntryPath where
  | inviteCode (code : String) (userId : UserId)
  | publicJoin (workspaceId : WorkspaceId) (userId : UserId)
  | emailInvite (tokenHash : String) (userId : UserId)
  | application (call : ProcessCall)

section Paths

variable (toLowerCase : List Char → List Char) (state : ApplicationState)

def EntryPath.run : EntryPath → Except Failure ApplicationState
  | .inviteCode code userId => do
    let (entry, _) ← accept toLowerCase state.toEntryState code userId
    .ok { state with toEntryState := entry }
  | .publicJoin workspaceId userId => do
    let (entry, _) ← joinPublic toLowerCase state.toEntryState workspaceId userId
    .ok { state with toEntryState := entry }
  | .emailInvite tokenHash userId => do
    let (entry, _) ← acceptByToken toLowerCase state.toEntryState tokenHash userId
    .ok { state with toEntryState := entry }
  | .application call => process state call

/-- The request succeeds and makes the user a member. -/
def Admits (path : EntryPath) (workspaceId : WorkspaceId) (userId : UserId) : Prop :=
  ∃ next, path.run toLowerCase state = .ok next ∧
    state.isMember workspaceId userId = false ∧ next.isMember workspaceId userId = true

/-- The gate of the workspace would let the user pass now. -/
def PassesGate (workspaceId : WorkspaceId) (userId : UserId) : Prop :=
  ∃ user, state.users.findUnique userId = some user ∧
    assertWorkspaceEntryAllowed toLowerCase user (state.policyOf workspaceId).emailDomains = .ok ()

/-- What every way in should require. -/
structure EntryAllowed (workspaceId : WorkspaceId) (userId : UserId) : Prop where
  live : state.isLive workspaceId = true
  notBanned : state.isBanned workspaceId userId = false
  gate : PassesGate toLowerCase state workspaceId userId

end Paths

section Spec

variable {toLowerCase : List Char → List Char} {state next : EntryState}

theorem authenticate_eq_ok {user : User} :
    state.authenticate userId = .ok user ↔ state.users.findUnique userId = some user := by
  rw [authenticate]
  cases state.users.findUnique userId with
  | none => simp [failWith_ne_ok]
  | some found => simp

variable {ofUser : UserId}

/-- The member that a code admits is the user of the request, who passed the ban check and the
gate of the workspace of the invite. -/
theorem accept_admits {code : String} {already : Bool}
    (accepted : accept toLowerCase state code userId = .ok (next, already))
    (outside : state.isMember workspaceId ofUser = false)
    (joined : next.isMember workspaceId ofUser = true) :
    ofUser = userId ∧ state.isBanned workspaceId userId = false ∧
      ∃ user, state.users.findUnique userId = some user ∧
        assertWorkspaceEntryAllowed toLowerCase user (state.policyOf workspaceId).emailDomains =
          .ok () := by
  obtain ⟨user, authenticated, accepted⟩ := bind_eq_ok.mp accepted
  obtain ⟨invite, -, accepted⟩ := bind_eq_ok.mp accepted
  split at accepted
  · cases accepted
    rw [outside] at joined
    cases joined
  · obtain ⟨_, notBanned, accepted⟩ := bind_eq_ok.mp accepted
    obtain ⟨_, gate, accepted⟩ := bind_eq_ok.mp accepted
    split at accepted
    · cases accepted
    next claimed taken =>
      obtain ⟨admitted, made, same⟩ := bind_eq_ok.mp accepted
      cases same
      obtain ⟨created, creates, same⟩ := bind_eq_ok.mp made
      cases same
      rcases (isMember_createMember creates).mp joined with ⟨rfl, rfl⟩ | before
      · exact ⟨rfl, failIf_eq_ok.mp notBanned, user, authenticate_eq_ok.mp authenticated, gate⟩
      · rw [toMembershipState_claimSeat taken, outside] at before
        cases before

theorem joinPublic_admits {ofWorkspace : WorkspaceId} {already : Bool}
    (accepted : joinPublic toLowerCase state ofWorkspace userId = .ok (next, already))
    (outside : state.isMember workspaceId ofUser = false)
    (joined : next.isMember workspaceId ofUser = true) :
    ofUser = userId ∧ state.isLive workspaceId = true ∧ state.isBanned workspaceId userId = false ∧
      ∃ user, state.users.findUnique userId = some user ∧
        assertWorkspaceEntryAllowed toLowerCase user (state.policyOf workspaceId).emailDomains =
          .ok () := by
  obtain ⟨user, authenticated, accepted⟩ := bind_eq_ok.mp accepted
  obtain ⟨_, joinable, accepted⟩ := bind_eq_ok.mp accepted
  split at accepted
  · cases accepted
    rw [outside] at joined
    cases joined
  · obtain ⟨_, gate, accepted⟩ := bind_eq_ok.mp accepted
    obtain ⟨_, notBanned, accepted⟩ := bind_eq_ok.mp accepted
    obtain ⟨admitted, creates, same⟩ := bind_eq_ok.mp accepted
    cases same
    rcases (isMember_createMember creates).mp joined with ⟨rfl, rfl⟩ | before
    · refine ⟨rfl, ?_, failIf_eq_ok.mp notBanned, user, authenticate_eq_ok.mp authenticated, gate⟩
      rw [assertJoinable] at joinable
      split at joinable
      · exact absurd joinable failWith_ne_ok
      next live => simpa using live
    · rw [outside] at before
      cases before

theorem acceptByToken_admits {tokenHash : String} {already : Bool}
    (accepted : acceptByToken toLowerCase state tokenHash userId = .ok (next, already))
    (outside : state.isMember workspaceId ofUser = false)
    (joined : next.isMember workspaceId ofUser = true) :
    ofUser = userId ∧ state.isLive workspaceId = true ∧ state.isBanned workspaceId userId = false ∧
      ∃ user, state.users.findUnique userId = some user ∧
        assertWorkspaceEntryAllowed toLowerCase user (state.policyOf workspaceId).emailDomains =
          .ok () := by
  obtain ⟨user, authenticated, accepted⟩ := bind_eq_ok.mp accepted
  obtain ⟨pending, -, accepted⟩ := bind_eq_ok.mp accepted
  obtain ⟨_, -, accepted⟩ := bind_eq_ok.mp accepted
  obtain ⟨_, live, accepted⟩ := bind_eq_ok.mp accepted
  split at accepted
  · cases accepted
    change state.isMember workspaceId ofUser = true at joined
    rw [outside] at joined
    cases joined
  · obtain ⟨_, notBanned, accepted⟩ := bind_eq_ok.mp accepted
    obtain ⟨_, gate, accepted⟩ := bind_eq_ok.mp accepted
    obtain ⟨admitted, made, same⟩ := bind_eq_ok.mp accepted
    cases same
    rw [admitByEmail] at made
    split at made
    · rcases (isMember_createMember made).mp joined with ⟨rfl, rfl⟩ | before
      · exact ⟨rfl, by simpa using failIf_eq_ok.mp live, failIf_eq_ok.mp notBanned, user,
          authenticate_eq_ok.mp authenticated, gate⟩
      · change state.isMember workspaceId ofUser = true at before
        rw [outside] at before
        cases before
    · exact absurd made failWith_ne_ok

/-- A review admits the applicant of the application alone, whom it has found not banned. -/
theorem process_admits {state next : ApplicationState} {call : ProcessCall}
    (processed : process state call = .ok next)
    (outside : state.isMember workspaceId ofUser = false)
    (joined : next.isMember workspaceId ofUser = true) :
    state.isLive workspaceId = true ∧ state.isBanned workspaceId ofUser = false := by
  obtain ⟨_, live, processed⟩ := bind_eq_ok.mp processed
  obtain ⟨_, -, processed⟩ := bind_eq_ok.mp processed
  obtain ⟨_, -, processed⟩ := bind_eq_ok.mp processed
  obtain ⟨app, found, processed⟩ := bind_eq_ok.mp processed
  have kept {written : ApplicationState} (same : written.toEntryState = state.toEntryState) :
      written.isMember workspaceId ofUser = false := by
    rw [same]
    exact outside
  split at processed
  · obtain ⟨_, notBanned, processed⟩ := bind_eq_ok.mp processed
    obtain ⟨updated, created, written, creates, rfl⟩ :=
      approve_eq_ok.mp processed
    rcases (isMember_createMember creates).mp joined with ⟨rfl, rfl⟩ | before
    · refine ⟨?_, failIf_eq_ok.mp notBanned⟩
      obtain ⟨found, -⟩ := assertReviewable_eq_ok.mp found
      rw [(findApplication_eq_some.mp found).2]
      simpa using failIf_eq_ok.mp live
    · rw [kept (toEntryState_writeApplication written)] at before
      cases before
  · rw [kept (toEntryState_writeApplication processed)] at joined
    cases joined
  · obtain ⟨_, -, processed⟩ := bind_eq_ok.mp processed
    rw [kept (toEntryState_writeApplication processed)] at joined
    cases joined

end Spec

section Gate

variable {toLowerCase : List Char → List Char} {state : ApplicationState}

/-- What a way in does not check itself. The code of an invite does not ask whether the workspace
is deleted, and a review relies on the gate that the application has passed. -/
def KeepsToGate (toLowerCase : List Char → List Char) (state : ApplicationState)
    (workspaceId : WorkspaceId) (userId : UserId) : EntryPath → Prop
  | .inviteCode _ _ => state.isLive workspaceId = true
  | .application _ => PassesGate toLowerCase state workspaceId userId
  | .publicJoin _ _ | .emailInvite _ _ => True

/-- Whom a request admits was allowed to enter exactly when the workspace is not deleted, for the
code of an invite, and when the gate still lets the applicant pass, for a review. -/
theorem entryAllowed_iff {path : EntryPath}
    (admitted : Admits toLowerCase state path workspaceId userId) :
    EntryAllowed toLowerCase state workspaceId userId ↔
      KeepsToGate toLowerCase state workspaceId userId path := by
  obtain ⟨next, ran, outside, joined⟩ := admitted
  cases path with
  | inviteCode code ofUser =>
    obtain ⟨⟨entry, already⟩, accepted, same⟩ := bind_eq_ok.mp ran
    cases same
    obtain ⟨rfl, notBanned, gate⟩ := accept_admits accepted outside joined
    exact ⟨EntryAllowed.live, fun live => ⟨live, notBanned, gate⟩⟩
  | publicJoin ofWorkspace ofUser =>
    obtain ⟨⟨entry, already⟩, accepted, same⟩ := bind_eq_ok.mp ran
    cases same
    obtain ⟨rfl, live, notBanned, gate⟩ := joinPublic_admits accepted outside joined
    exact iff_of_true ⟨live, notBanned, gate⟩ trivial
  | emailInvite tokenHash ofUser =>
    obtain ⟨⟨entry, already⟩, accepted, same⟩ := bind_eq_ok.mp ran
    cases same
    obtain ⟨rfl, live, notBanned, gate⟩ := acceptByToken_admits accepted outside joined
    exact iff_of_true ⟨live, notBanned, gate⟩ trivial
  | application call =>
    obtain ⟨live, notBanned⟩ := process_admits ran outside joined
    exact ⟨EntryAllowed.gate, fun gate => ⟨live, notBanned, gate⟩⟩

end Gate

/-- A workspace of user 1, which user 2 may join by a code or by an application. -/
def entryExample (deletedAt : Option DateTime) : ApplicationState where
  workspaces := .single { id := ⟨1⟩, ownerId := ⟨1⟩, deletedAt := deletedAt }
  members := .single ⟨⟨1⟩, ⟨1⟩, .owner⟩
  systemRole := fun workspaceId role =>
    { id := ⟨systemRolePosition role⟩, workspaceId := workspaceId, name := roleLiteral role
      position := systemRolePosition role, isSystem := true }
  policyOf := fun _ => { joinMode := .apply }
  users := .single { id := ⟨2⟩, email := ['b', '@', 'x'], emailVerified := true }
  invites := .single { id := ⟨1⟩, workspaceId := ⟨1⟩, code := "code", createdById := ⟨1⟩ }
  applications := .empty
  now := 10

/-- The code of an invite lets a user into a workspace that is not deleted. -/
theorem entryAllowed_by_code : EntryAllowed id (entryExample none) ⟨1⟩ ⟨2⟩ := by
  have admitted : Admits id (entryExample none) (.inviteCode "code" ⟨2⟩) ⟨1⟩ ⟨2⟩ :=
    ⟨_, rfl, rfl, rfl⟩
  exact (entryAllowed_iff admitted).mpr rfl

/-- After the user has applied, the workspace restricts the domains. -/
def restrictedAfterSubmit (submitted : ApplicationState) : ApplicationState :=
  { submitted with policyOf := fun _ => { joinMode := .apply, emailDomains := [['y']] } }

/-- The code of an invite lets a user into a workspace that is deleted, and a review lets in a user
whose domain the workspace no longer allows. -/
theorem entry_past_gate :
    (Admits id (entryExample (some 5)) (.inviteCode "code" ⟨2⟩) ⟨1⟩ ⟨2⟩ ∧
        ¬EntryAllowed id (entryExample (some 5)) ⟨1⟩ ⟨2⟩) ∧
      ∃ submitted, submit id (entryExample none) ⟨⟨1⟩, ⟨2⟩, none, ⟨1⟩⟩ = .ok submitted ∧
        Admits id (restrictedAfterSubmit submitted)
          (.application ⟨⟨1⟩, ⟨1⟩, ⟨1⟩, .approve, none, .ok ⟨1⟩⟩) ⟨1⟩ ⟨2⟩ ∧
        ¬EntryAllowed id (restrictedAfterSubmit submitted) ⟨1⟩ ⟨2⟩ := by
  refine ⟨⟨⟨_, rfl, rfl, rfl⟩, fun allowed => ?_⟩, _, rfl, ⟨_, rfl, rfl, rfl⟩, fun allowed => ?_⟩
  · have live : false = true := allowed.live
    cases live
  · obtain ⟨user, found, gate⟩ := allowed.gate
    obtain rfl : { id := ⟨2⟩, email := ['b', '@', 'x'], emailVerified := true } = user :=
      Option.some.inj found
    have allowed : false = true := (assertWorkspaceEntryAllowed_eq_ok_iff id).mp gate |>.2
    cases allowed

end Bongtalk.Workspaces
