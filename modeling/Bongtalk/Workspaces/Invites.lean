import Bongtalk.Workspaces.Entry

/-!
# Invites, statement by statement

An accept claims a seat by a statement of its own and makes the member in a later transaction.
Accepts and revokes interleave at every statement, and members join by other ways meanwhile.
-/

namespace Bongtalk.Workspaces

open Library Library.EventLoop Common Prisma Shared List Table EntryState

variable {code : String} {claimed lost : Nat}

/-- An accept, with whether the database aborts its membership transaction for another reason
than a member that is there already: a lost connection, a deadlock, a row deleted meanwhile. -/
structure AcceptCall where
  code : String
  userId : UserId
  aborts : Bool := false
deriving DecidableEq, Repr

/-- What an accept has read of the user, the invite and the workspace of the invite. -/
structure AcceptRead where
  user : User
  invite : Invite
  policy : EntryPolicy
deriving DecidableEq, Repr

/-- An accept, named by its next statement. -/
inductive AcceptTask where
  | findUser (call : AcceptCall)
  | findInvite (call : AcceptCall) (user : User)
  | findMember (call : AcceptCall) (read : AcceptRead)
  | findBan (call : AcceptCall) (read : AcceptRead)
  | claimSeat (call : AcceptCall) (read : AcceptRead)
  | createMember (call : AcceptCall) (read : AcceptRead)
  | refundSeat (code : String)
deriving DecidableEq, Repr

open AcceptTask

namespace EntryState

variable (state : EntryState)

/-- Go on with the next statement, unless a check has thrown. -/
def goOn {Task : Type} (next : Except Failure Task) : EntryState × List Task :=
  (state, next.toOption.toList)

/-- `invites.revoke`, by an actor of a role that the guard of the route has read. -/
def revokeInvite (workspaceId : WorkspaceId) (inviteId : InviteId) (actorId : UserId)
    (actorRole : WorkspaceRole) : EntryState :=
  { state with
    invites := state.invites.rewrite
      (fun row =>
        if row.id = inviteId ∧ row.workspaceId = workspaceId ∧ row.revokedAt = none ∧
            (roleRank .admin ≤ roleRank actorRole ∨ row.createdById = actorId) then
          { row with revokedAt := some state.now }
        else row)
      (fun row => by split <;> rfl) fun row => by split <;> rfl }

/-- The users who were admitted through an invite. -/
def admittedThrough (inviteId : InviteId) : List UserId :=
  (state.inviteAccepted.filter fun row => row.inviteId == inviteId).map InviteAccepted.actorId

end EntryState

section Resume

variable (toLowerCase : List Char → List Char) (state : EntryState)

def AcceptTask.resume : AcceptTask → EntryState × List AcceptTask
  | .findUser call =>
    state.goOn do
      let user ← state.authenticate call.userId
      .ok (.findInvite call user)
  | .findInvite call user =>
    state.goOn do
      let invite ← state.assertInvite (state.invites.byCode.findUnique call.code)
      .ok (.findMember call ⟨user, invite, state.policyOf invite.workspaceId⟩)
  | .findMember call read =>
    if state.isMember read.invite.workspaceId call.userId then (state, [])
    else (state, [.findBan call read])
  | .findBan call read =>
    state.goOn do
      state.assertNotBanned read.invite.workspaceId call.userId .inviteNotFound "invite not found"
      assertWorkspaceEntryAllowed toLowerCase read.user read.policy.emailDomains
      .ok (.claimSeat call read)
  | .claimSeat call read =>
    match state.claimSeat call.code with
    | none => (state, [])
    | some claimed => (claimed, [.createMember call read])
  | .createMember call read =>
    if call.aborts then (state, [])
    else
      match state.admitByInvite read.invite call.userId with
      | .ok admitted => (admitted, [])
      -- The member row exists: the other tab of the same user was first.
      | .error _ => (state, [.refundSeat call.code])
  | .refundSeat code => (state.refundSeat code, [])

/-- What reaches the server: accepts, revokes, and what else happens to the workspaces. -/
inductive InviteInput where
  | accept (call : AcceptCall)
  | revoke (workspaceId : WorkspaceId) (inviteId : InviteId) (actorId : UserId)
      (actorRole : WorkspaceRole)
  | elsewhere

/-- Whatever else happens leaves the invites alone and no member out. -/
structure Elsewhere (state next : EntryState) : Prop where
  invites : next.invites = state.invites
  inviteAccepted : next.inviteAccepted = state.inviteAccepted
  members : ∀ workspaceId userId, state.isMember workspaceId userId = true →
    next.isMember workspaceId userId = true

def inviteLoop : EventLoop EntryState AcceptTask InviteInput where
  resume state task := task.resume toLowerCase state
  Accepts state input next spawned :=
    match input with
    | .accept call => next = state ∧ spawned = [.findUser call]
    | .revoke workspaceId inviteId actorId actorRole =>
      next = state.revokeInvite workspaceId inviteId actorId actorRole ∧ spawned = []
    | .elsewhere => Elsewhere state next ∧ spawned = []

end Resume

/-- The task has claimed a seat of the invite, and neither used it nor given it back. -/
def AcceptTask.claims (code : String) : AcceptTask → Bool
  | .createMember call _ => call.code == code
  | .refundSeat ofCode => ofCode == code
  | _ => false

/-- The task's transaction is about to be aborted with a claimed seat. -/
def AcceptTask.leaks (code : String) : AcceptTask → Bool
  | .createMember call _ => call.code == code && call.aborts
  | _ => false

/-- The seats of an invite that the steps of a run leave claimed for nobody. -/
def leaked (code : String) : List (Label AcceptTask InviteInput) → Nat
  | [] => 0
  | .resume _ task _ :: rest => (if task.leaks code then 1 else 0) + leaked code rest
  | .accept _ :: rest => leaked code rest

theorem leaked_append (code : String) (first second : List (Label AcceptTask InviteInput)) :
    leaked code (first ++ second) = leaked code first + leaked code second := by
  induction first with
  | nil => simp [leaked]
  | cons label first ih =>
    cases label with
    | resume before task after =>
      simp only [cons_append, leaked, ih]
      omega
    | accept input => simpa only [cons_append, leaked] using ih

/-- What an accept has read of its invite is a row of the table, up to the columns that change. -/
def ReadsInvite (state : EntryState) (call : AcceptCall) (read : AcceptRead) : Prop :=
  ∃ row, state.invites.byCode.findUnique call.code = some row ∧ row.id = read.invite.id ∧
    row.workspaceId = read.invite.workspaceId

def InviteFact (state : EntryState) : AcceptTask → Prop
  | .findMember call read | .findBan call read | .claimSeat call read | .createMember call read =>
    ReadsInvite state call read
  | _ => True

/-- The seats of an invite: those used, those claimed by a pending accept, and those lost. -/
structure Accounted (code : String) (claimed lost : Nat) (state : EntryState) : Prop where
  seats : ∀ invite, state.invites.byCode.findUnique code = some invite →
    invite.usedCount = (state.admittedThrough invite.id).length + claimed + lost
  bounded : ∀ invite, state.invites.byCode.findUnique code = some invite →
    ∀ maxUses, invite.maxUses = some maxUses → invite.usedCount ≤ maxUses
  distinct : ∀ invite, state.invites.byCode.findUnique code = some invite →
    (state.admittedThrough invite.id).Nodup
  members : ∀ invite, state.invites.byCode.findUnique code = some invite →
    ∀ userId ∈ state.admittedThrough invite.id, state.isMember invite.workspaceId userId = true

/-- The invites keep the columns that say which they are. -/
def KeepsInvites (state next : EntryState) : Prop :=
  ∀ code invite, state.invites.byCode.findUnique code = some invite →
    ∃ row, next.invites.byCode.findUnique code = some row ∧ row.id = invite.id ∧
      row.workspaceId = invite.workspaceId

section Writes

variable {other : String} {next : Nat} {state : EntryState}

theorem KeepsInvites.of_same {next : EntryState} (same : next.invites = state.invites) :
    KeepsInvites state next :=
  fun _ invite found => ⟨invite, same ▸ found, rfl, rfl⟩

theorem KeepsInvites.fact {next : EntryState} (keeps : KeepsInvites state next) {task : AcceptTask}
    (fact : InviteFact state task) : InviteFact next task := by
  have reads {call : AcceptCall} {read : AcceptRead} (fact : ReadsInvite state call read) :
      ReadsInvite next call read := by
    obtain ⟨row, found, sameId, sameWorkspace⟩ := fact
    obtain ⟨later, foundLater, idKept, workspaceKept⟩ := keeps _ _ found
    exact ⟨later, foundLater, idKept.trans sameId, workspaceKept.trans sameWorkspace⟩
  cases task with
  | findMember | findBan | claimSeat | createMember => exact reads fact
  | findUser | findInvite | refundSeat => trivial

/-- A write to the invites alone keeps the account when it counts what it claims or gives back. -/
theorem Accounted.rewrite (accounted : Accounted code claimed lost state) {change : Invite → Invite}
    {keepsCode : ∀ row, (change row).code = row.code} {keepsId : ∀ row, (change row).id = row.id}
    (keepsWorkspace : ∀ row, (change row).workspaceId = row.workspaceId)
    (keepsMax : ∀ row, (change row).maxUses = row.maxUses)
    (counted : ∀ invite, state.invites.byCode.findUnique code = some invite →
      (change invite).usedCount + claimed = invite.usedCount + next ∧
        ∀ maxUses, invite.maxUses = some maxUses → (change invite).usedCount ≤ maxUses) :
    Accounted code next lost
      { state with invites := state.invites.rewrite change keepsCode keepsId } := by
  have old (invite : Invite)
      (found : (state.invites.rewrite change keepsCode keepsId).byCode.findUnique code =
        some invite) :
      ∃ row, state.invites.byCode.findUnique code = some row ∧ change row = invite :=
    Option.map_eq_some_iff.mp (InviteTable.findUnique_rewrite.symm.trans found)
  constructor
  · intro invite found
    obtain ⟨row, foundRow, rfl⟩ := old invite found
    have before := accounted.seats row foundRow
    have change := (counted row foundRow).1
    rw [keepsId row]
    change _ = (state.admittedThrough row.id).length + next + lost
    omega
  · intro invite found maxUses limited
    obtain ⟨row, foundRow, rfl⟩ := old invite found
    exact (counted row foundRow).2 maxUses ((keepsMax row).symm.trans limited)
  · intro invite found
    obtain ⟨row, foundRow, rfl⟩ := old invite found
    rw [keepsId row]
    exact accounted.distinct row foundRow
  · intro invite found
    obtain ⟨row, foundRow, rfl⟩ := old invite found
    rw [keepsId row, keepsWorkspace row]
    exact accounted.members row foundRow

theorem keepsInvites_rewrite {change : Invite → Invite}
    {keepsCode : ∀ row, (change row).code = row.code} {keepsId : ∀ row, (change row).id = row.id}
    (keepsWorkspace : ∀ row, (change row).workspaceId = row.workspaceId) :
    KeepsInvites state
      { state with invites := state.invites.rewrite change keepsCode keepsId } := by
  intro code invite found
  refine ⟨change invite, ?_, keepsId invite, keepsWorkspace invite⟩
  rw [InviteTable.findUnique_rewrite, found, Option.map_some]

/-- One more of a number, if a seat of this invite is concerned. -/
abbrev ofInvite (code other : String) : Nat :=
  if other == code then 1 else 0

variable {after : EntryState}

theorem Accounted.claimSeat (accounted : Accounted code claimed lost state)
    (taken : state.claimSeat other = some after) :
    Accounted code (claimed + ofInvite code other) lost after ∧ KeepsInvites state after := by
  rw [EntryState.claimSeat] at taken
  split at taken
  · cases taken
  next invite found =>
    split at taken
    next free =>
      cases taken
      have notExhausted : invite.isExhausted = false := by simpa using (Bool.and_eq_true_iff.mp free).2
      refine ⟨accounted.rewrite ?_ ?_ ?_, keepsInvites_rewrite ?_⟩
      · intro row
        split <;> rfl
      · intro row
        split <;> rfl
      · intro row foundRow
        by_cases same : other = code
        · subst same
          cases found.symm.trans foundRow
          rw [if_pos (mem_of_findUnique found).2, ofInvite, if_pos (beq_self_eq_true _)]
          refine ⟨by dsimp only; omega, fun maxUses limited => ?_⟩
          have left : invite.usedCount < maxUses := by
            simpa [Invite.isExhausted, limited] using notExhausted
          exact left
        · have differentCode : ¬row.code = other := by
            rw [(mem_of_findUnique foundRow).2]
            exact fun equal => same equal.symm
          rw [if_neg differentCode, ofInvite, if_neg (by simpa using same)]
          exact ⟨rfl, accounted.bounded row foundRow⟩
      · intro row
        split <;> rfl
    · cases taken

theorem Accounted.refundSeat
    (accounted : Accounted code (claimed + ofInvite code other) lost state) :
    Accounted code claimed lost (state.refundSeat other) := by
  apply accounted.rewrite
  · intro row
    split <;> rfl
  · intro row
    split <;> rfl
  · intro row foundRow
    have seats := accounted.seats row foundRow
    have bounded := accounted.bounded row foundRow
    have ofCode := (mem_of_findUnique foundRow).2
    by_cases same : other = code
    · subst same
      rw [ofInvite, if_pos (beq_self_eq_true _)] at seats ⊢
      have positive : 0 < row.usedCount := by omega
      rw [if_pos ⟨ofCode, positive⟩]
      refine ⟨by dsimp only; omega, fun maxUses limited => ?_⟩
      exact (Nat.sub_le _ _).trans (bounded maxUses limited)
    · rw [if_neg fun concerned => same (concerned.1.symm.trans ofCode), ofInvite,
        if_neg (by simpa using same)]
      exact ⟨rfl, bounded⟩

theorem Accounted.revokeInvite (accounted : Accounted code claimed lost state)
    (workspaceId : WorkspaceId) (inviteId : InviteId) (actorId : UserId)
    (actorRole : WorkspaceRole) :
    Accounted code claimed lost (state.revokeInvite workspaceId inviteId actorId actorRole) := by
  apply accounted.rewrite
  · intro row
    split <;> rfl
  · intro row
    split <;> rfl
  · intro row foundRow
    have bounded := accounted.bounded row foundRow
    split
    · exact ⟨rfl, bounded⟩
    · exact ⟨rfl, bounded⟩

theorem Accounted.elsewhere (accounted : Accounted code claimed lost state)
    (elsewhere : Elsewhere state after) : Accounted code claimed lost after := by
  have sameAdmitted (inviteId : InviteId) :
      after.admittedThrough inviteId = state.admittedThrough inviteId := by
    rw [admittedThrough, elsewhere.inviteAccepted, admittedThrough]
  constructor
  · intro invite found
    rw [elsewhere.invites] at found
    rw [sameAdmitted]
    exact accounted.seats invite found
  · intro invite found
    rw [elsewhere.invites] at found
    exact accounted.bounded invite found
  · intro invite found
    rw [elsewhere.invites] at found
    rw [sameAdmitted]
    exact accounted.distinct invite found
  · intro invite found userId admitted
    rw [elsewhere.invites] at found
    rw [sameAdmitted] at admitted
    exact elsewhere.members _ _ (accounted.members invite found userId admitted)

/-- Whoever is admitted through an invite is added to its users and to no others. -/
theorem admittedThrough_cons (state : EntryState) (event : InviteAccepted) (inviteId : InviteId) :
    admittedThrough { state with inviteAccepted := event :: state.inviteAccepted } inviteId =
      if event.inviteId = inviteId then event.actorId :: state.admittedThrough inviteId
      else state.admittedThrough inviteId := by
  rw [admittedThrough, filter_cons]
  by_cases concerned : event.inviteId = inviteId
  · rw [if_pos (beq_iff_eq.mpr concerned), if_pos concerned]
    rfl
  · rw [if_neg fun equal => concerned (beq_iff_eq.mp equal), if_neg concerned]
    rfl

variable {call : AcceptCall} {read : AcceptRead}

/-- Invites are told apart by their codes and by their ids. -/
theorem ReadsInvite.id_eq_iff (reads : ReadsInvite state call read) {invite : Invite}
    (found : state.invites.byCode.findUnique code = some invite) :
    read.invite.id = invite.id ↔ call.code = code := by
  obtain ⟨row, foundRow, sameId, -⟩ := reads
  obtain ⟨present, ofCode⟩ := mem_of_findUnique found
  obtain ⟨presentRow, ofCallCode⟩ := mem_of_findUnique foundRow
  rw [← sameId, ← ofCode, ← ofCallCode]
  constructor
  · intro equal
    rw [inj_on_of_nodup_map state.invites.idsNodup presentRow present equal]
  · intro equal
    rw [eq_of_key_eq presentRow present equal]

theorem ReadsInvite.workspaceId_eq (reads : ReadsInvite state call read) {invite : Invite}
    (found : state.invites.byCode.findUnique code = some invite)
    (sameInvite : read.invite.id = invite.id) : invite.workspaceId = read.invite.workspaceId := by
  have sameCode := (reads.id_eq_iff found).mp sameInvite
  obtain ⟨row, foundRow, -, sameWorkspace⟩ := reads
  rw [sameCode] at foundRow
  cases found.symm.trans foundRow
  exact sameWorkspace

/-- A membership transaction that commits turns a claimed seat of its invite into a used one. -/
theorem Accounted.join (accounted : Accounted code (claimed + ofInvite code call.code) lost state)
    (reads : ReadsInvite state call read)
    (admitted : state.admitByInvite read.invite call.userId = .ok after) :
    Accounted code claimed lost after ∧ KeepsInvites state after := by
  obtain ⟨joined, created, same⟩ := bind_eq_ok.mp admitted
  cases same
  obtain ⟨outside, unchanged, -⟩ := createMember_eq_ok created
  have sameInvites : joined.invites = state.invites := by
    rw [unchanged]
  have sameAdmitted (inviteId : InviteId) :
      joined.admittedThrough inviteId = state.admittedThrough inviteId := by
    rw [unchanged]
    rfl
  refine ⟨⟨?_, ?_, ?_, ?_⟩, KeepsInvites.of_same sameInvites⟩
  · intro invite found
    replace found : state.invites.byCode.findUnique code = some invite := sameInvites ▸ found
    have seats := accounted.seats invite found
    rw [admittedThrough_cons, sameAdmitted]
    by_cases same : call.code = code
    · rw [ofInvite, if_pos (beq_iff_eq.mpr same)] at seats
      rw [if_pos ((reads.id_eq_iff found).mpr same), length_cons]
      omega
    · rw [ofInvite, if_neg fun equal => same (beq_iff_eq.mp equal)] at seats
      rw [if_neg fun equal => same ((reads.id_eq_iff found).mp equal)]
      exact seats
  · intro invite found
    exact accounted.bounded invite (sameInvites ▸ found)
  · intro invite found
    replace found : state.invites.byCode.findUnique code = some invite := sameInvites ▸ found
    have distinct := accounted.distinct invite found
    rw [admittedThrough_cons, sameAdmitted]
    split
    next same =>
      -- Whoever was admitted before is a member, and the new one was none.
      refine nodup_cons.mpr ⟨fun before => ?_, distinct⟩
      have member := accounted.members invite found _ before
      rw [reads.workspaceId_eq found same, outside] at member
      cases member
    · exact distinct
  · intro invite found userId through
    replace found : state.invites.byCode.findUnique code = some invite := sameInvites ▸ found
    apply (isMember_createMember created).mpr
    rw [admittedThrough_cons, sameAdmitted] at through
    split at through
    next same =>
      rcases mem_cons.mp through with rfl | before
      · exact .inl ⟨reads.workspaceId_eq found same, rfl⟩
      · exact .inr (accounted.members invite found userId before)
    · exact .inr (accounted.members invite found userId through)

end Writes

section Run

variable {toLowerCase : List Char → List Char} {state : EntryState}

/-- What a step leaves: an account with the seats that the next statements hold. -/
structure SeatMove (code : String) (claimed lost : Nat) (state next : EntryState)
    (spawned : List AcceptTask) : Prop where
  accounted : Accounted code (claimed + spawned.countP (claims code)) lost next
  keeps : KeepsInvites state next
  fresh : ∀ new ∈ spawned, InviteFact next new

theorem SeatMove.stop {next : EntryState} (accounted : Accounted code claimed lost next)
    (keeps : KeepsInvites state next) : SeatMove code claimed lost state next [] :=
  ⟨accounted, keeps, forall_mem_nil _⟩

theorem SeatMove.goOn (accounted : Accounted code claimed lost state)
    {next : Except Failure AcceptTask}
    (quiet : ∀ new, next = .ok new → new.claims code = false ∧ InviteFact state new) :
    SeatMove code claimed lost state (state.goOn next).1 (state.goOn next).2 := by
  cases next with
  | error failure => exact .stop accounted (.of_same rfl)
  | ok new =>
    obtain ⟨holdsNone, fact⟩ := quiet new rfl
    refine ⟨?_, .of_same rfl, forall_mem_singleton.mpr fact⟩
    change Accounted code (claimed + [new].countP (claims code)) lost state
    rw [countP_singleton, holdsNone]
    exact accounted

theorem readsInvite_of_assert {state : EntryState} {call : AcceptCall} {user : User}
    {invite : Invite} {policy : EntryPolicy}
    (found : state.assertInvite (state.invites.byCode.findUnique call.code) = .ok invite) :
    ReadsInvite state call ⟨user, invite, policy⟩ := by
  cases row : state.invites.byCode.findUnique call.code with
  | none =>
    rw [row] at found
    exact absurd found failWith_ne_ok
  | some row' =>
    rw [row, assertInvite] at found
    split at found
    · exact absurd found failWith_ne_ok
    split at found
    · exact absurd found failWith_ne_ok
    obtain rfl := Except.ok.inj found
    exact ⟨row', row, rfl, rfl⟩

/-- A step of an accept moves its seat, and loses it when its transaction is aborted. -/
theorem Accounted.resume {task : AcceptTask} {after : Nat}
    (accounted : Accounted code (claimed + if task.claims code then 1 else 0) lost state)
    (fact : InviteFact state task) (lose : after = lost + if task.leaks code then 1 else 0) :
    SeatMove code claimed after state (task.resume toLowerCase state).1
      (task.resume toLowerCase state).2 := by
  cases task with
  | findUser call =>
    obtain rfl : after = lost := lose
    refine .goOn accounted fun new started => ?_
    obtain ⟨user, -, same⟩ := bind_eq_ok.mp started
    cases same
    exact ⟨rfl, trivial⟩
  | findInvite call user =>
    obtain rfl : after = lost := lose
    refine .goOn accounted fun new started => ?_
    obtain ⟨invite, found, same⟩ := bind_eq_ok.mp started
    cases same
    exact ⟨rfl, readsInvite_of_assert found⟩
  | findMember call read =>
    obtain rfl : after = lost := lose
    rw [AcceptTask.resume]
    split
    · exact .stop accounted (.of_same rfl)
    · exact ⟨accounted, .of_same rfl, forall_mem_singleton.mpr fact⟩
  | findBan call read =>
    obtain rfl : after = lost := lose
    refine .goOn accounted fun new started => ?_
    obtain ⟨_, -, started⟩ := bind_eq_ok.mp started
    obtain ⟨_, -, same⟩ := bind_eq_ok.mp started
    cases same
    exact ⟨rfl, fact⟩
  | claimSeat call read =>
    obtain rfl : after = lost := lose
    rw [AcceptTask.resume]
    split
    next => exact .stop accounted (.of_same rfl)
    next taken seated =>
      obtain ⟨counted, keeps⟩ := accounted.claimSeat seated
      have readsAfter : InviteFact taken (.createMember call read) :=
        keeps.fact fact
      refine ⟨?_, keeps, forall_mem_singleton.mpr readsAfter⟩
      simpa [AcceptTask.claims, ofInvite] using counted
  | createMember call read =>
    rw [AcceptTask.resume]
    cases aborts : call.aborts with
    | true =>
      -- The seat stays claimed, and nobody holds it any more.
      have sameSeat : (AcceptTask.createMember call read).leaks code =
          (AcceptTask.createMember call read).claims code := by
        simp [AcceptTask.leaks, AcceptTask.claims, aborts]
      rw [sameSeat] at lose
      refine .stop ⟨fun invite found => ?_, accounted.bounded, accounted.distinct,
        accounted.members⟩ (.of_same rfl)
      have seats := accounted.seats invite found
      change invite.usedCount = (state.admittedThrough invite.id).length + claimed + after
      omega
    | false =>
      have noLeak : (AcceptTask.createMember call read).leaks code = false := by
        simp [AcceptTask.leaks, aborts]
      rw [noLeak] at lose
      obtain rfl : after = lost := lose
      rw [if_neg Bool.false_ne_true]
      split
      next joined admitted =>
        obtain ⟨counted, keeps⟩ := accounted.join fact admitted
        exact .stop counted keeps
      next =>
        refine ⟨?_, .of_same rfl, forall_mem_singleton.mpr trivial⟩
        simpa [AcceptTask.claims] using accounted
  | refundSeat other =>
    obtain rfl : after = lost := lose
    refine .stop accounted.refundSeat (keepsInvites_rewrite fun row => ?_)
    split <;> rfl

/-- Along a run the account of every invite is kept, with the seats that its steps have lost. -/
theorem accounted_of_steps {start : EntryState} (fresh : Accounted code 0 0 start)
    {labels : List (Label AcceptTask InviteInput)} {finish : State EntryState AcceptTask}
    (steps : Steps (Step (inviteLoop toLowerCase)) ⟨start, []⟩ labels finish) :
    Accounted code (finish.tasks.countP (claims code)) (leaked code labels) finish.shared ∧
      ∀ task ∈ finish.tasks, InviteFact finish.shared task := by
  induction steps with
  | refl => exact ⟨fresh, forall_mem_nil _⟩
  | step prior transition ih =>
    obtain ⟨accounted, facts⟩ := ih
    rw [leaked_append]
    cases transition with
    | @resume shared before task after =>
      have waiting : (before ++ task :: after).countP (claims code) =
          (before ++ after).countP (claims code) +
            if task.claims code then 1 else 0 := by
        simp only [countP_append, countP_cons]
        omega
      rw [waiting] at accounted
      have fact := facts task (mem_pending.mpr (.inl rfl))
      have move : SeatMove code _ _ shared (task.resume toLowerCase shared).1
          (task.resume toLowerCase shared).2 := accounted.resume fact rfl
      have counted := move.accounted
      refine ⟨?_, fun other pending => ?_⟩
      · have total (spawned : List AcceptTask) :
            (before ++ spawned ++ after).countP (claims code) =
              (before ++ after).countP (claims code) +
                spawned.countP (claims code) := by
          simp only [countP_append]
          omega
        have sameStep : (inviteLoop toLowerCase).resume shared task =
            task.resume toLowerCase shared := rfl
        simpa only [total, leaked, Nat.add_zero, sameStep] using counted
      · rcases mem_resumed.mp pending with waits | isNew
        · exact move.keeps.fact (facts other (mem_pending.mpr (.inr waits)))
        · exact move.fresh other isNew
    | @accept shared tasks input next spawned accepted =>
      rw [leaked, leaked, Nat.add_zero]
      cases input with
      | accept call =>
        obtain ⟨rfl, rfl⟩ := accepted
        refine ⟨by simpa [claims] using accounted, fun other pending => ?_⟩
        rcases mem_append.mp pending with waits | isNew
        · exact facts other waits
        obtain rfl := mem_singleton.mp isNew
        trivial
      | revoke workspaceId inviteId actorId actorRole =>
        obtain ⟨rfl, rfl⟩ := accepted
        rw [append_nil]
        refine ⟨accounted.revokeInvite _ _ _ _, fun other pending => ?_⟩
        refine (keepsInvites_rewrite fun row => ?_).fact (facts other pending)
        split <;> rfl
      | elsewhere =>
        obtain ⟨elsewhere, rfl⟩ := accepted
        rw [append_nil]
        exact ⟨accounted.elsewhere elsewhere, fun other pending =>
          (KeepsInvites.of_same elsewhere.invites).fact (facts other pending)⟩

end Run

section Seats

variable {toLowerCase : List Char → List Char}

/-- No claimed seat of the invite is lost with the transaction of its accept. -/
def KeepsSeat (code : String) (_ : EntryState) (task : AcceptTask) : Prop :=
  task.leaks code = false

/-- A run loses no seat exactly when none of its steps does. -/
theorem leaked_eq_zero_iff {start finish : State EntryState AcceptTask}
    {labels : List (Label AcceptTask InviteInput)}
    (steps : Steps (Step (inviteLoop toLowerCase)) start labels finish) :
    leaked code labels = 0 ↔
      Steps (Guarded (Step (inviteLoop toLowerCase)) (OnResume (KeepsSeat code))) start labels
        finish := by
  constructor
  · intro kept
    induction steps with
    | refl => exact .refl
    | step prior transition ih =>
      rw [leaked_append, Nat.add_eq_zero_iff] at kept
      refine .step (ih kept.1) ⟨transition, ?_⟩
      cases transition with
      | resume before task after => simpa [leaked, OnResume, KeepsSeat] using kept.2
      | accept => trivial
  · intro guarded
    clear steps
    induction guarded with
    | refl => rfl
    | step prior transition ih =>
      obtain ⟨step, kept⟩ := transition
      rw [leaked_append, ih, Nat.zero_add]
      cases step with
      | resume before task after =>
        have holds : task.leaks code = false := kept
        simp [leaked, holds]
      | accept => rfl

/-- In every run an invite seats no more users than it may. When nothing is pending, its count is
the number of users it has admitted exactly when no transaction of the run has lost a seat. -/
theorem invite_seats {start : EntryState} (initially : Accounted code 0 0 start)
    {labels : List (Label AcceptTask InviteInput)} {finish : State EntryState AcceptTask}
    (steps : Steps (Step (inviteLoop toLowerCase)) ⟨start, []⟩ labels finish) {invite : Invite}
    (found : finish.shared.invites.byCode.findUnique code = some invite) :
    (∀ maxUses, invite.maxUses = some maxUses →
        invite.usedCount ≤ maxUses ∧ (finish.shared.admittedThrough invite.id).length ≤ maxUses) ∧
      (finish.shared.admittedThrough invite.id).Nodup ∧
      (finish.tasks = [] →
        (invite.usedCount = (finish.shared.admittedThrough invite.id).length ↔
          Steps (Guarded (Step (inviteLoop toLowerCase)) (OnResume (KeepsSeat code)))
            ⟨start, []⟩ labels finish)) := by
  obtain ⟨accounted, -⟩ := accounted_of_steps initially steps
  have seats := accounted.seats invite found
  refine ⟨fun maxUses limited => ?_, accounted.distinct invite found, fun idle => ?_⟩
  · have bounded := accounted.bounded invite found maxUses limited
    exact ⟨bounded, by omega⟩
  · rw [idle, countP_nil] at seats
    rw [← leaked_eq_zero_iff steps]
    omega

end Seats

/-- A workspace of user 1 with an invite for one user. -/
def invitesOne : EntryState where
  workspaces := .single { id := ⟨1⟩, ownerId := ⟨1⟩ }
  members := .single ⟨⟨1⟩, ⟨1⟩, .owner⟩
  systemRole := fun workspaceId role =>
    { id := ⟨systemRolePosition role⟩, workspaceId := workspaceId, name := roleLiteral role
      position := systemRolePosition role, isSystem := true }
  users := .single { id := ⟨2⟩, email := [], emailVerified := true }
  invites := .single
    { id := ⟨1⟩, workspaceId := ⟨1⟩, code := "seat", createdById := ⟨1⟩, maxUses := some 1 }
  now := 0

/-- An invite that nobody has used. -/
theorem accounted_of_unused {code : String} {state : EntryState}
    (unused : ∀ invite, state.invites.byCode.findUnique code = some invite →
      invite.usedCount = 0 ∧ state.admittedThrough invite.id = []) :
    Accounted code 0 0 state := by
  constructor
  · intro invite found
    rw [(unused invite found).1, (unused invite found).2]
    rfl
  · intro invite found maxUses _
    rw [(unused invite found).1]
    exact Nat.zero_le _
  · intro invite found
    rw [(unused invite found).2]
    exact nodup_nil
  · intro invite found
    rw [(unused invite found).2]
    exact forall_mem_nil _

theorem accounted_invitesOne : Accounted "seat" 0 0 invitesOne := by
  refine accounted_of_unused fun invite found => ⟨?_, rfl⟩
  have present := (mem_of_findUnique found).1
  rw [invitesOne, InviteTable.single, mem_single] at present
  rw [present]

/-- An accept whose transaction commits leaves the count of the invite right. -/
theorem accept_takes_seat : ∃ labels finish,
    Steps (Guarded (Step (inviteLoop id)) (OnResume (KeepsSeat "seat"))) ⟨invitesOne, []⟩ labels
        finish ∧
      finish.tasks = [] ∧ finish.shared.admittedThrough ⟨1⟩ = [⟨2⟩] := by
  have accepted : Step (inviteLoop id) ⟨invitesOne, []⟩ (.accept (.accept ⟨"seat", ⟨2⟩, false⟩))
      ⟨invitesOne, [.findUser ⟨"seat", ⟨2⟩, false⟩]⟩ :=
    .accept ⟨rfl, rfl⟩
  obtain ⟨labels, steps⟩ := exists_steps_runFirst 6 (Steps.refl.step accepted)
  let ended := (inviteLoop id).runFirst 6 ⟨invitesOne, [.findUser ⟨"seat", ⟨2⟩, false⟩]⟩
  have found : ended.shared.invites.byCode.findUnique "seat" =
      some { id := ⟨1⟩, workspaceId := ⟨1⟩, code := "seat", createdById := ⟨1⟩,
             maxUses := some 1, usedCount := 1 } := by
    rfl
  have idle : ended.tasks = [] := by rfl
  have guarded := ((invite_seats accounted_invitesOne steps found).2.2 idle).mp rfl
  exact ⟨labels, ended, guarded, idle, by rfl⟩

/-- The transaction of an accept is aborted. The only seat of the invite stays taken, and nobody
has joined. -/
theorem aborted_accept_loses_seat : Accounted "seat" 0 0 invitesOne ∧ ∃ labels finish,
    Steps (Step (inviteLoop id)) ⟨invitesOne, []⟩ labels finish ∧ finish.tasks = [] ∧
      (finish.shared.invites.byCode.findUnique "seat").map Invite.usedCount = some 1 ∧
      finish.shared.admittedThrough ⟨1⟩ = [] := by
  have accepted : Step (inviteLoop id) ⟨invitesOne, []⟩ (.accept (.accept ⟨"seat", ⟨2⟩, true⟩))
      ⟨invitesOne, [.findUser ⟨"seat", ⟨2⟩, true⟩]⟩ :=
    .accept ⟨rfl, rfl⟩
  obtain ⟨labels, steps⟩ := exists_steps_runFirst 6 (Steps.refl.step accepted)
  exact ⟨accounted_invitesOne, labels, _, steps, by rfl, by rfl, by rfl⟩

end Bongtalk.Workspaces
