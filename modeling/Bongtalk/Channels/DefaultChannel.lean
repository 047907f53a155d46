import Bongtalk.Channels.ChannelsService
import Bongtalk.Library.EventLoop

/-!
# The default channel

New members land on the default channel of their workspace. The calls that change channels look
at the flag of the default channel before they write, or do not look at it, and the default
channel can change in between.
-/

namespace Bongtalk.Channels

open Library EventLoop Common Prisma ChannelsService List Table

structure LandingWorkspace extends Workspace where
  defaultChannelId : Option ChannelId := none
deriving DecidableEq, Repr

structure LandingState where
  workspaces : Table LandingWorkspace fun row => row.id
  db : Database

open LandingState

inductive ChannelRequest where
  | create (actorId : UserId) (newId : ChannelId) (position : Decimal) (createdAt : DateTime)
      (input : CreateChannelRequest)
  | update (channelId : ChannelId) (input : UpdateChannelRequest)
  | softDelete (channelId : ChannelId) (now : DateTime)
  | restore (channelId : ChannelId)
  | archive (channelId : ChannelId) (now : DateTime)
  | unarchive (channelId : ChannelId)
  | updateDefaultChannel (channelId : ChannelId)

/-- A request, named by its next statement, with what it has read. -/
inductive LandingTask where
  /-- `ChannelAccessGuard`, then the service. -/
  | access (workspaceId : WorkspaceId) (channelId : ChannelId) (allowArchived : Bool)
      (service : LandingTask)
  | findCategory (workspaceId : WorkspaceId) (categoryId : Option CategoryId)
      (service : LandingTask)
  | create (workspaceId : WorkspaceId) (actorId : UserId) (newId : ChannelId) (position : Decimal)
      (createdAt : DateTime) (input : CreateChannelRequest)
  | findBefore (workspaceId : WorkspaceId) (channelId : ChannelId) (input : UpdateChannelRequest)
  | update (workspaceId : WorkspaceId) (channelId : ChannelId) (input : UpdateChannelRequest)
      (privacyChanging : Bool)
  | findDeletable (workspaceId : WorkspaceId) (channelId : ChannelId) (now : DateTime)
  | softDelete (channelId : ChannelId) (now : DateTime)
  | findDeleted (workspaceId : WorkspaceId) (channelId : ChannelId)
  | restore (channelId : ChannelId)
  | findArchivable (workspaceId : WorkspaceId) (channelId : ChannelId) (now : DateTime)
  | archive (channelId : ChannelId) (now : DateTime)
  | unarchive (channelId : ChannelId)
  | findDefault (workspaceId : WorkspaceId) (channelId : ChannelId)
  | clearDefaults (workspaceId : WorkspaceId) (channelId : ChannelId)
  /-- The rest of the transaction, with the rows its first statement has found. -/
  | updateDefaultChannel (workspaceId : WorkspaceId) (channelId : ChannelId)
      (cleared : List ChannelId)

def ChannelRequest.starts (workspaceId : WorkspaceId) : ChannelRequest → LandingTask
  | create actorId newId position createdAt input =>
    .findCategory workspaceId input.categoryId
      (.create workspaceId actorId newId position createdAt input)
  | update channelId input =>
    .access workspaceId channelId false
      (.findCategory workspaceId (input.categoryId.bind id)
        (.findBefore workspaceId channelId input))
  | softDelete channelId now =>
    .access workspaceId channelId true (.findDeletable workspaceId channelId now)
  | restore channelId => .findDeleted workspaceId channelId
  | archive channelId now =>
    .access workspaceId channelId true (.findArchivable workspaceId channelId now)
  | unarchive channelId => .access workspaceId channelId true (.unarchive channelId)
  | updateDefaultChannel channelId => .findDefault workspaceId channelId

section Checks

variable (db : Database) (workspaceId : WorkspaceId)

/-- What the guard checks. Who may see a private channel is left out. -/
def assertAccessible (channelId : ChannelId) (allowArchived : Bool) : Except Failure Unit :=
  match db.channels.findUnique channelId with
  | none => failWith .channelNotFound "channel not found"
  | some channel =>
    if channel.deletedAt.isSome then failWith .channelNotFound "channel not found"
    else if channel.type ≠ .direct ∧ channel.workspaceId ≠ some workspaceId then
      failWith .channelNotFound "channel not found"
    else if channel.archivedAt.isSome ∧ !allowArchived then
      failWith .channelArchived "channel is archived — unarchive first"
    else .ok ()

/-- Deleting and archiving spare the default channel. -/
def assertNotDefault (channelId : ChannelId) : Except Failure Unit :=
  match findInWorkspace db workspaceId channelId with
  | none => failWith .channelNotFound "channel not found"
  | some target =>
    failIf target.isDefault .defaultChannelProtected "기본 채널은 삭제/보관할 수 없습니다. 먼저 다른 채널을 기본으로 지정하세요."

/-- Opening a private channel asks for its name; the answer is whether the privacy changes. -/
def assertConfirmed (channelId : ChannelId) (input : UpdateChannelRequest) :
    Except Failure Bool :=
  match db.channels.findUnique channelId with
  | none => failWith .channelNotFound "channel not found"
  | some before =>
    let privacyChanging := input.isPrivate.any (· != before.isPrivate)
    if privacyChanging && input.isPrivate == some false &&
        input.confirmName != some before.name then
      failWith .channelConfirmRequired
        "confirmName must match the channel name to switch a private channel to public"
    else .ok privacyChanging

/-- What a new default channel has to be. Whether it is archived is not looked at. -/
def assertCanBeDefault (channelId : ChannelId) : Except Failure Unit :=
  match findLive db workspaceId channelId with
  | none => failWith .channelNotFound "channel not found in this workspace"
  | some channel =>
    failIf channel.isPrivate .workspaceDefaultChannelNotPublic
      "default channel must be a public channel"

end Checks

namespace LandingState

variable (state : LandingState)

/-- `channel.update` of one row. -/
def updateChannel (channelId : ChannelId) (change : Channel → Channel)
    (keeps : ∀ row, (change row).id = row.id) : LandingState :=
  { state with
    db := { state.db with channels := state.db.channels.update channelId change keeps } }

/-- A new channel does not have the flag. The creator of a private one gets a row of its own. -/
def createChannel (workspaceId : WorkspaceId) (actorId : UserId) (newId : ChannelId)
    (position : Decimal) (createdAt : DateTime) (input : CreateChannelRequest) : LandingState :=
  let channel : Channel :=
    { id := newId
      workspaceId := some workspaceId
      categoryId := input.categoryId
      name := input.name
      type := input.type
      topic := input.topic
      description := input.description
      position := position
      isPrivate := input.isPrivate.getD false
      createdAt := createdAt }
  if nameTaken state.db workspaceId newId input.name then state
  else
    match state.db.channels.insert? channel with
    | none => state
    | some channels =>
      let seed : ChannelPermissionOverride :=
        { channelId := newId, principal := .user actorId, allowMask := .creator }
      let overrides :=
        if channel.isPrivate then (state.db.overrides.insertMissing [seed]).1
        else state.db.overrides
      { state with db := { state.db with channels := channels, overrides := overrides } }

/-- The columns an update writes; the privacy is one of them when it was to change. -/
def written (input : UpdateChannelRequest) (privacyChanging : Bool) : UpdateChannelRequest :=
  { input with isPrivate := if privacyChanging then input.isPrivate else none }

def writeUpdate (workspaceId : WorkspaceId) (channelId : ChannelId) (input : UpdateChannelRequest)
    (privacyChanging : Bool) : LandingState :=
  if input.name.any fun name => nameTaken state.db workspaceId channelId name then
    state
  else state.updateChannel channelId (written input privacyChanging).apply fun _ => rfl

def workspaceDefault (workspaceId : WorkspaceId) (channelId : ChannelId) : LandingState :=
  { state with
    workspaces := state.workspaces.update workspaceId
      (fun row => { row with defaultChannelId := some channelId }) fun _ => rfl }

/-- The flag of a row after the transaction: the found rows lose it, the target gets it. -/
def flagAfter (workspaceId : WorkspaceId) (channelId : ChannelId) (cleared : List ChannelId)
    (row : Channel) : Bool :=
  if row.id = channelId then true
  else if row.workspaceId = some workspaceId ∧ row.id ∈ cleared then false
  else row.isDefault

def moveFlag (workspaceId : WorkspaceId) (channelId : ChannelId) (cleared : List ChannelId) :
    LandingState :=
  { state with db := { state.db with
      channels := state.db.channels.rewrite
        (fun row => { row with isDefault := flagAfter workspaceId channelId cleared row })
        fun _ => rfl } }

/-- The transaction fails without the row of the channel or of the workspace. -/
def updateDefaultChannel (workspaceId : WorkspaceId) (channelId : ChannelId)
    (cleared : List ChannelId) : LandingState :=
  if (state.db.channels.findUnique channelId).isNone ∨
      (state.workspaces.findUnique workspaceId).isNone then state
  else (state.moveFlag workspaceId channelId cleared).workspaceDefault workspaceId channelId

/-- Go on with the next statement, unless a check has thrown. -/
def goOn (next : Except Failure LandingTask) : LandingState × List LandingTask :=
  (state, next.toOption.toList)

end LandingState

open LandingState in
/-- One statement or transaction of a request. -/
def LandingTask.resume (state : LandingState) : LandingTask → LandingState × List LandingTask
  | .access workspaceId channelId allowArchived service =>
    state.goOn do
      assertAccessible state.db workspaceId channelId allowArchived
      .ok service
  | .findCategory workspaceId categoryId service =>
    state.goOn do
      failIf (categoryId.any fun id => !categoryIsLive state.db workspaceId id)
        .categoryNotFound "category not found"
      .ok service
  | .create workspaceId actorId newId position createdAt input =>
    (state.createChannel workspaceId actorId newId position createdAt input, [])
  | .findBefore workspaceId channelId input =>
    state.goOn do
      let privacyChanging ← assertConfirmed state.db channelId input
      .ok (.update workspaceId channelId input privacyChanging)
  | .update workspaceId channelId input privacyChanging =>
    (state.writeUpdate workspaceId channelId input privacyChanging, [])
  | .findDeletable workspaceId channelId now =>
    state.goOn do
      assertNotDefault state.db workspaceId channelId
      .ok (.softDelete channelId now)
  | .softDelete channelId now =>
    (state.updateChannel channelId (fun row => { row with deletedAt := some now }) fun _ => rfl, [])
  | .findDeleted workspaceId channelId =>
    state.goOn <|
      match findInWorkspace state.db workspaceId channelId with
      | none => failWith .channelNotFound "channel not found"
      | some current =>
        if current.deletedAt = none then failWith .channelNotFound "channel is not deleted"
        else .ok (.restore channelId)
  | .restore channelId =>
    (state.updateChannel channelId (fun row => { row with deletedAt := none }) fun _ => rfl, [])
  | .findArchivable workspaceId channelId now =>
    state.goOn do
      assertNotDefault state.db workspaceId channelId
      .ok (.archive channelId now)
  | .archive channelId now =>
    (state.updateChannel channelId (fun row => { row with archivedAt := some now }) fun _ => rfl,
      [])
  | .unarchive channelId =>
    (state.updateChannel channelId (fun row => { row with archivedAt := none }) fun _ => rfl, [])
  | .findDefault workspaceId channelId =>
    state.goOn do
      assertCanBeDefault state.db workspaceId channelId
      .ok (.clearDefaults workspaceId channelId)
  | .clearDefaults workspaceId channelId =>
    let others := state.db.channels.findMany fun row =>
      row.workspaceId == some workspaceId && row.isDefault && row.id != channelId
    (state, [.updateDefaultChannel workspaceId channelId (others.map Channel.id)])
  | .updateDefaultChannel workspaceId channelId cleared =>
    (state.updateDefaultChannel workspaceId channelId cleared, [])

def landingLoop : EventLoop LandingState LandingTask (WorkspaceId × ChannelRequest) where
  resume := LandingTask.resume
  Accepts state call next spawned := next = state ∧ spawned = [call.2.starts call.1]

/-- The default channel of a workspace is one of its live, public channels, and its only one with
the flag. -/
def LandsWell (state : LandingState) : Prop :=
  ∀ workspace ∈ state.workspaces, ∀ channelId, workspace.defaultChannelId = some channelId →
    (∃ channel ∈ state.db.channels, channel.id = channelId ∧
      channel.workspaceId = some workspace.id ∧ channel.deletedAt = none ∧
      channel.archivedAt = none ∧ channel.isPrivate = false ∧ channel.isDefault = true) ∧
    ∀ channel ∈ state.db.channels, channel.workspaceId = some workspace.id →
      channel.isDefault = true → channel.id = channelId

/-- No workspace has the channel as its default. -/
def SparesDefault (state : LandingState) (channelId : ChannelId) : Prop :=
  ∀ workspace ∈ state.workspaces, workspace.defaultChannelId ≠ some channelId

/-- When the transactions of the requests keep the default channels as they should be: no default
channel is made private, deleted or archived, and a new default channel is still a live, public
channel that is not archived, in a workspace without flags beside those that the transaction has
found. -/
def KeepsDefault (state : LandingState) : LandingTask → Prop
  | .update workspaceId channelId input privacyChanging =>
    (written input privacyChanging).isPrivate = some true →
      (input.name.any fun name =>
        nameTaken state.db workspaceId channelId name) = false →
      SparesDefault state channelId
  | .softDelete channelId _ | .archive channelId _ => SparesDefault state channelId
  | .updateDefaultChannel workspaceId channelId cleared =>
    (state.workspaces.findUnique workspaceId).isSome →
      ∀ channel ∈ state.db.channels, channel.id = channelId →
        (channel.workspaceId = some workspaceId ∧ channel.deletedAt = none ∧
          channel.archivedAt = none ∧ channel.isPrivate = false) ∧
        ∀ other ∈ state.db.channels, other.workspaceId = some workspaceId →
          other.isDefault = true → other.id = channelId ∨ other.id ∈ cleared
  | _ => True

section Writes

variable {state : LandingState}

variable {channelId : ChannelId} {change : Channel → Channel}

variable {row target : Channel}

theorem mem_updateChannel {keeps : ∀ row, (change row).id = row.id} :
    row ∈ (state.updateChannel channelId change keeps).db.channels ↔
      ∃ old ∈ state.db.channels, (if old.id = channelId then change old else old) = row :=
  mem_map

/-- A change of one row that leaves the flag alone keeps the law when the row is no default
channel, or is still fit to be one. -/
theorem landsWell_updateChannel_iff (lawful : LandsWell state)
    {keeps : ∀ row, (change row).id = row.id}
    (sameFlag : ∀ row, (change row).workspaceId = row.workspaceId ∧ (change row).isDefault =
      row.isDefault) :
    LandsWell (state.updateChannel channelId change keeps) ↔
      ∀ workspace ∈ state.workspaces, workspace.defaultChannelId = some channelId →
        ∀ row ∈ state.db.channels, row.id = channelId →
          (change row).deletedAt = none ∧ (change row).archivedAt = none ∧
            (change row).isPrivate = false := by
  constructor
  · intro after workspace workspaceMem isDefault row rowMem rowId
    obtain ⟨⟨channel, channelMem, channelId', -, live, unarchived, isPublic, -⟩, -⟩ :=
      after workspace workspaceMem channelId isDefault
    obtain ⟨old, oldMem, rfl⟩ := mem_updateChannel.mp channelMem
    have changedId : ∀ old : Channel,
        (if old.id = channelId then change old else old).id = old.id := by
      intro old
      split
      · exact keeps old
      · rfl
    have same : old = row :=
      eq_of_key_eq oldMem rowMem ((changedId old).symm.trans (channelId'.trans rowId.symm))
    subst same
    rw [if_pos rowId] at live unarchived isPublic
    exact ⟨live, unarchived, isPublic⟩
  · intro fit workspace workspaceMem defaultId isDefault
    obtain ⟨⟨channel, channelMem, idEq, inWorkspace, live, unarchived, isPublic, flagged⟩, only⟩ :=
      lawful workspace workspaceMem defaultId isDefault
    constructor
    · refine ⟨_, mem_updateChannel.mpr ⟨channel, channelMem, rfl⟩, ?_⟩
      by_cases changed : channel.id = channelId
      · rw [if_pos changed]
        have isDefault' : workspace.defaultChannelId = some channelId := by
          rw [isDefault, ← idEq, changed]
        obtain ⟨live', unarchived', isPublic'⟩ :=
          fit workspace workspaceMem isDefault' channel channelMem changed
        exact ⟨(keeps channel).trans idEq, (sameFlag channel).1.trans inWorkspace, live',
          unarchived', isPublic', (sameFlag channel).2.trans flagged⟩
      · rw [if_neg changed]
        exact ⟨idEq, inWorkspace, live, unarchived, isPublic, flagged⟩
    · intro other otherMem
      obtain ⟨old, oldMem, rfl⟩ := mem_updateChannel.mp otherMem
      have kept := only old oldMem
      split
      · rw [(sameFlag old).1, (sameFlag old).2, keeps old]
        exact kept
      · exact kept

/-- A change that makes a channel unfit spares the default channels. -/
theorem landsWell_updateChannel_unfit (lawful : LandsWell state)
    {keeps : ∀ row, (change row).id = row.id}
    (sameFlag : ∀ row, (change row).workspaceId = row.workspaceId ∧ (change row).isDefault =
      row.isDefault)
    (unfit : ∀ row, ¬((change row).deletedAt = none ∧ (change row).archivedAt = none ∧ (change
      row).isPrivate = false)) :
    LandsWell (state.updateChannel channelId change keeps) ↔ SparesDefault state channelId := by
  rw [landsWell_updateChannel_iff lawful sameFlag]
  constructor
  · intro fit workspace workspaceMem isDefault
    obtain ⟨⟨channel, channelMem, idEq, -⟩, -⟩ := lawful workspace workspaceMem channelId isDefault
    exact unfit channel (fit workspace workspaceMem isDefault channel channelMem idEq)
  · intro spared workspace workspaceMem isDefault
    exact absurd isDefault (spared workspace workspaceMem)

/-- A change that leaves a fit channel fit does no harm. -/
theorem landsWell_updateChannel_fit (lawful : LandsWell state)
    {keeps : ∀ row, (change row).id = row.id}
    (sameFlag : ∀ row, (change row).workspaceId = row.workspaceId ∧ (change row).isDefault =
      row.isDefault)
    (fit : ∀ row : Channel, row.deletedAt = none ∧ row.archivedAt = none ∧ row.isPrivate = false →
      (change row).deletedAt = none ∧ (change row).archivedAt = none ∧ (change row).isPrivate =
      false) :
    LandsWell (state.updateChannel channelId change keeps) := by
  rw [landsWell_updateChannel_iff lawful sameFlag]
  intro workspace workspaceMem isDefault row rowMem rowId
  obtain ⟨⟨channel, channelMem, idEq, -, live, unarchived, isPublic, -⟩, -⟩ :=
    lawful workspace workspaceMem channelId isDefault
  obtain rfl := eq_of_key_eq channelMem rowMem (idEq.trans rowId.symm)
  exact fit channel ⟨live, unarchived, isPublic⟩

variable {workspaceId : WorkspaceId}

/-- A new channel has no flag. -/
theorem landsWell_createChannel (lawful : LandsWell state) {actorId : UserId} {newId : ChannelId}
    {position : Decimal} {createdAt : DateTime} {input : CreateChannelRequest} :
    LandsWell (state.createChannel workspaceId actorId newId position createdAt input) := by
  unfold createChannel
  dsimp only
  split
  · exact lawful
  split
  · exact lawful
  next channels inserted =>
    intro workspace workspaceMem defaultId isDefault
    obtain ⟨⟨channel, channelMem, facts⟩, only⟩ :=
      lawful workspace workspaceMem defaultId isDefault
    constructor
    · exact ⟨channel, (mem_insert? inserted).mpr (.inr channelMem), facts⟩
    · intro other otherMem inWorkspace flagged
      rcases (mem_insert? inserted).mp otherMem with rfl | before
      · cases flagged
      · exact only other before inWorkspace flagged

variable {cleared : List ChannelId}

/-- The rows after the flag has moved. -/
theorem mem_moveFlag :
    row ∈ (state.moveFlag workspaceId channelId cleared).db.channels ↔
      ∃ old ∈ state.db.channels,
        { old with isDefault := flagAfter workspaceId channelId cleared old } = row :=
  mem_map

/-- A row that is neither found nor the target keeps its flag. -/
theorem flagAfter_of_other (notTarget : row.id ≠ channelId)
    (notCleared : ¬(row.workspaceId = some workspaceId ∧ row.id ∈ cleared)) :
    flagAfter workspaceId channelId cleared row = row.isDefault := by
  rw [flagAfter, if_neg notTarget, if_neg notCleared]

/-- The other workspaces keep their flags. -/
theorem flagAfter_elsewhere {workspaceId otherId : WorkspaceId}
    (targetMem : target ∈ state.db.channels) (targetId : target.id = channelId)
    (inWorkspace : target.workspaceId = some workspaceId) (other : ¬otherId = workspaceId)
    (rowMem : row ∈ state.db.channels) (ofOther : row.workspaceId = some otherId) :
    flagAfter workspaceId channelId cleared row = row.isDefault := by
  apply flagAfter_of_other
  · intro isTarget
    have same := eq_of_key_eq rowMem targetMem (isTarget.trans targetId.symm)
    rw [same, inWorkspace] at ofOther
    exact other (Option.some.inj ofOther).symm
  · rintro ⟨ofWorkspace, -⟩
    rw [ofOther] at ofWorkspace
    exact other (Option.some.inj ofWorkspace)

/-- What `LandsWell` says of one workspace. -/
def LandsOn (db : Database) (workspaceId : WorkspaceId) (channelId : ChannelId) : Prop :=
  (∃ channel ∈ db.channels, channel.id = channelId ∧ channel.workspaceId = some workspaceId ∧
    channel.deletedAt = none ∧ channel.archivedAt = none ∧ channel.isPrivate = false ∧
    channel.isDefault = true) ∧
  ∀ channel ∈ db.channels, channel.workspaceId = some workspaceId →
    channel.isDefault = true → channel.id = channelId

/-- The target of a move has to be fit, and no other flag may be left behind. -/
theorem landsOn_moveFlag_iff (targetMem : target ∈ state.db.channels) :
    LandsOn (state.moveFlag workspaceId target.id cleared).db workspaceId target.id ↔
      (target.workspaceId = some workspaceId ∧ target.deletedAt = none ∧
        target.archivedAt = none ∧ target.isPrivate = false) ∧
      ∀ other ∈ state.db.channels, other.workspaceId = some workspaceId →
        other.isDefault = true → other.id = target.id ∨ other.id ∈ cleared := by
  constructor
  · rintro ⟨⟨moved, movedMem, movedId, inWorkspace, live, unarchived, isPublic, -⟩, only⟩
    obtain ⟨old, oldMem, rfl⟩ := mem_moveFlag.mp movedMem
    obtain rfl := eq_of_key_eq targetMem oldMem movedId.symm
    refine ⟨⟨inWorkspace, live, unarchived, isPublic⟩, fun other otherMem ofWorkspace flagged => ?_⟩
    refine or_iff_not_imp_left.mpr fun notTarget => ?_
    by_contra notCleared
    have flaggedStill : flagAfter workspaceId target.id cleared other = true :=
      (flagAfter_of_other notTarget fun isCleared => notCleared isCleared.2).trans flagged
    have isTarget := only _ (mem_moveFlag.mpr ⟨other, otherMem, rfl⟩) ofWorkspace flaggedStill
    exact notTarget isTarget
  · rintro ⟨⟨inWorkspace, live, unarchived, isPublic⟩, found⟩
    constructor
    · exact ⟨_, mem_moveFlag.mpr ⟨target, targetMem, rfl⟩, rfl, inWorkspace, live, unarchived,
        isPublic, if_pos rfl⟩
    · intro other otherMem ofWorkspace flagged
      obtain ⟨before, beforeMem, rfl⟩ := mem_moveFlag.mp otherMem
      by_contra notTarget
      rw [flagAfter, if_neg notTarget] at flagged
      split at flagged
      · cases flagged
      next notCleared =>
        rcases found before beforeMem ofWorkspace flagged with isTarget | isCleared
        · exact notTarget isTarget
        · exact notCleared ⟨ofWorkspace, isCleared⟩

/-- A move of the flag in one workspace leaves another one as it is. -/
theorem landsOn_moveFlag_elsewhere {workspaceId otherId : WorkspaceId} {defaultId : ChannelId}
    (targetMem : target ∈ state.db.channels) (inWorkspace : target.workspaceId = some workspaceId)
    (other : ¬otherId = workspaceId) (before : LandsOn state.db otherId defaultId) :
    LandsOn (state.moveFlag workspaceId target.id cleared).db otherId defaultId := by
  obtain ⟨⟨channel, channelMem, idEq, inOther, facts⟩, only⟩ := before
  constructor
  · refine ⟨_, mem_moveFlag.mpr ⟨channel, channelMem, rfl⟩, ?_⟩
    rw [flagAfter_elsewhere targetMem rfl inWorkspace other channelMem inOther]
    exact ⟨idEq, inOther, facts⟩
  · intro moved movedMem ofOther flagged
    obtain ⟨old, oldMem, rfl⟩ := mem_moveFlag.mp movedMem
    rw [flagAfter_elsewhere targetMem rfl inWorkspace other oldMem ofOther] at flagged
    exact only old oldMem ofOther flagged

/-- A move of the flag keeps the law when its target is fit and no flag is left behind. -/
theorem landsWell_updateDefaultChannel_iff (lawful : LandsWell state) :
    LandsWell (state.updateDefaultChannel workspaceId channelId cleared) ↔
      KeepsDefault state (.updateDefaultChannel workspaceId channelId cleared) := by
  rw [updateDefaultChannel, KeepsDefault]
  split
  next missing =>
    refine iff_of_true lawful fun hasWorkspace channel channelMem channelIdEq => ?_
    rcases missing with noChannel | noWorkspace
    · rw [← channelIdEq, findUnique_of_mem channelMem] at noChannel
      cases noChannel
    · rw [Option.isNone_iff_eq_none] at noWorkspace
      rw [noWorkspace] at hasWorkspace
      cases hasWorkspace
  next present =>
    obtain ⟨hasChannel, hasWorkspace⟩ := not_or.mp present
    rw [Bool.not_eq_true, Option.isNone_eq_false_iff] at hasChannel hasWorkspace
    obtain ⟨target, targetFound⟩ := Option.isSome_iff_exists.mp hasChannel
    obtain ⟨targetMem, rfl⟩ := mem_of_findUnique targetFound
    constructor
    · intro after _ channel channelMem channelIdEq
      obtain rfl := eq_of_key_eq targetMem channelMem channelIdEq.symm
      obtain ⟨landing, landingFound⟩ := Option.isSome_iff_exists.mp hasWorkspace
      obtain ⟨landingMem, rfl⟩ := mem_of_findUnique landingFound
      have pointed : ({ landing with defaultChannelId := some target.id } : LandingWorkspace) ∈
          ((state.moveFlag landing.id target.id cleared).workspaceDefault landing.id
            target.id).workspaces :=
        mem_map.mpr ⟨landing, landingMem, if_pos rfl⟩
      exact (landsOn_moveFlag_iff targetMem).mp (after _ pointed target.id rfl)
    · intro keeps workspace workspaceMem defaultId isDefault
      have fit := keeps hasWorkspace target targetMem rfl
      obtain ⟨old, oldMem, rfl⟩ := mem_map.mp workspaceMem
      by_cases here : old.id = workspaceId
      · subst here
        rw [if_pos rfl] at isDefault ⊢
        cases isDefault
        exact (landsOn_moveFlag_iff targetMem).mpr fit
      · rw [if_neg here] at isDefault ⊢
        exact landsOn_moveFlag_elsewhere targetMem fit.1.1 here
          (lawful old oldMem defaultId isDefault)

/-- An update harms the default channels only by making one private. -/
theorem landsWell_writeUpdate_iff (lawful : LandsWell state) {input : UpdateChannelRequest}
    {privacyChanging : Bool} :
    LandsWell (state.writeUpdate workspaceId channelId input privacyChanging) ↔
      KeepsDefault state (.update workspaceId channelId input privacyChanging) := by
  rw [writeUpdate, KeepsDefault]
  split
  next taken => exact iff_of_true lawful fun _ free => absurd (taken.symm.trans free) (by decide)
  next free =>
    rw [Bool.not_eq_true] at free
    have sameFlag : ∀ row : Channel,
        ((written input privacyChanging).apply row).workspaceId = row.workspaceId ∧
          ((written input privacyChanging).apply row).isDefault = row.isDefault :=
      fun _ => ⟨rfl, rfl⟩
    cases closes : (written input privacyChanging).isPrivate with
    | none =>
      refine iff_of_true ?_ fun impossible => by cases impossible
      refine landsWell_updateChannel_fit lawful sameFlag fun row fit => ?_
      simpa [UpdateChannelRequest.apply, closes] using fit
    | some isPrivate =>
      cases isPrivate with
      | false =>
        refine iff_of_true ?_ fun impossible => by cases impossible
        refine landsWell_updateChannel_fit lawful sameFlag fun row fit => ?_
        simpa [UpdateChannelRequest.apply, closes] using ⟨fit.1, fit.2.1⟩
      | true =>
        have closed : ∀ row, ((written input privacyChanging).apply row).isPrivate = true := by
          simp [UpdateChannelRequest.apply, closes]
        refine (landsWell_updateChannel_unfit lawful sameFlag ?_).trans ?_
        · intro row fit
          rw [closed row] at fit
          cases fit.2.2
        · exact ⟨fun spared _ _ => spared, fun spared => spared rfl free⟩

end Writes

/-- A step keeps the default channels as they should be exactly when its transaction does. -/
theorem landsWell_resume_iff {state : LandingState} (lawful : LandsWell state)
    (task : LandingTask) : LandsWell (task.resume state).1 ↔ KeepsDefault state task := by
  cases task with
  | create => exact iff_of_true (landsWell_createChannel lawful) trivial
  | update => exact landsWell_writeUpdate_iff lawful
  | softDelete channelId now =>
    exact landsWell_updateChannel_unfit lawful (fun _ => ⟨rfl, rfl⟩) fun _ fit => by
      cases fit.1
  | archive channelId now =>
    exact landsWell_updateChannel_unfit lawful (fun _ => ⟨rfl, rfl⟩) fun _ fit => by
      cases fit.2.1
  | restore channelId =>
    exact iff_of_true (landsWell_updateChannel_fit lawful (fun _ => ⟨rfl, rfl⟩)
      fun _ fit => ⟨rfl, fit.2⟩) trivial
  | unarchive channelId =>
    exact iff_of_true (landsWell_updateChannel_fit lawful (fun _ => ⟨rfl, rfl⟩)
      fun _ fit => ⟨fit.1, rfl, fit.2.2⟩) trivial
  | updateDefaultChannel => exact landsWell_updateDefaultChannel_iff lawful
  | _ => exact iff_of_true lawful trivial

/-- Each state of a run has its default channels as they should be exactly when no transaction of
the run harms one. -/
theorem default_channel_iff {start : LandingState} (lawful : LandsWell start)
    {labels : List (Label LandingTask (WorkspaceId × ChannelRequest))}
    {finish : State LandingState LandingTask} :
    Steps (Lawful (Step landingLoop) fun state => LandsWell state.shared) ⟨start, []⟩ labels
        finish ↔
      Steps (Guarded (Step landingLoop) (OnResume KeepsDefault)) ⟨start, []⟩ labels finish := by
  refine Steps.lawful_iff_guarded (fun _ => True) (fun _ _ => trivial) ?_ trivial lawful
  intro state label next transition _ lawfulNow
  cases transition with
  | resume before task after => exact landsWell_resume_iff lawfulNow task
  | accept accepted =>
    obtain ⟨rfl, -⟩ := accepted
    exact iff_of_true lawfulNow trivial

/-- A workspace with two public channels, the first of which is its default. -/
def twoChannels : LandingState where
  workspaces :=
    { rows := [{ id := ⟨1⟩, defaultChannelId := some ⟨1⟩ }], keysNodup := nodup_singleton _ }
  db := .withoutRoles .empty
    { rows := [{ id := ⟨1⟩, workspaceId := some ⟨1⟩, name := "general", position := 0,
                 isDefault := true, createdAt := 0 },
               { id := ⟨2⟩, workspaceId := some ⟨1⟩, name := "random", position := 1,
                 createdAt := 0 }]
      keysNodup := by decide }
    .empty

theorem landsWell_twoChannels : LandsWell twoChannels := by
  intro workspace present defaultId isDefault
  obtain rfl := mem_singleton.mp present
  cases isDefault
  refine ⟨⟨_, .head _, rfl, rfl, rfl, rfl, rfl, rfl⟩, ?_⟩
  intro channel channelMem _ flagged
  rcases mem_cons.mp channelMem with rfl | second
  · rfl
  obtain rfl := mem_singleton.mp second
  cases flagged

/-- The second channel becomes the default one. -/
theorem default_channel_moves : ∃ labels finish,
    Steps (Lawful (Step landingLoop) fun state => LandsWell state.shared) ⟨twoChannels, []⟩ labels
        finish ∧
      finish.shared.workspaces.rows.map (·.defaultChannelId) = [some ⟨2⟩] := by
  let request : WorkspaceId × ChannelRequest := (⟨1⟩, .updateDefaultChannel ⟨2⟩)
  have accepted : Guarded (Step landingLoop) (OnResume KeepsDefault) ⟨twoChannels, []⟩
      (.accept request) ⟨twoChannels, [.findDefault ⟨1⟩ ⟨2⟩]⟩ :=
    ⟨.accept ⟨rfl, rfl⟩, trivial⟩
  have harmless : KeepsDefault twoChannels (.updateDefaultChannel ⟨1⟩ ⟨2⟩ [⟨1⟩]) := by
    intro _ channel channelMem channelId
    rcases mem_cons.mp channelMem with rfl | second
    · cases channelId
    obtain rfl := mem_singleton.mp second
    refine ⟨⟨rfl, rfl, rfl, rfl⟩, fun other otherMem _ _ => ?_⟩
    rcases mem_cons.mp otherMem with rfl | second
    · exact .inr (mem_singleton_self _)
    obtain rfl := mem_singleton.mp second
    exact .inl rfl
  obtain ⟨labels, steps⟩ := exists_guarded_runFirst 3 (Steps.refl.step accepted)
    ⟨trivial, trivial, harmless, trivial⟩
  exact ⟨labels, _, (default_channel_iff landsWell_twoChannels).mpr steps, by rfl⟩

def makePrivate : WorkspaceId × ChannelRequest :=
  (⟨1⟩, .update ⟨1⟩ { isPrivate := some true })

/-- The default channel can be made private. -/
theorem default_channel_made_private : LandsWell twoChannels ∧ ∃ labels finish,
    Steps (Step landingLoop) ⟨twoChannels, []⟩ labels finish ∧ ¬LandsWell finish.shared := by
  have accepted : Step landingLoop ⟨twoChannels, []⟩ (.accept makePrivate)
      ⟨twoChannels, [makePrivate.2.starts makePrivate.1]⟩ :=
    .accept ⟨rfl, rfl⟩
  obtain ⟨labels, steps⟩ := exists_steps_runFirst 4 (Steps.refl.step accepted)
  refine ⟨landsWell_twoChannels, labels, _, steps, fun lawful => ?_⟩
  obtain ⟨⟨channel, channelMem, channelId, -, -, -, isPublic, -⟩, -⟩ :=
    lawful { id := ⟨1⟩, defaultChannelId := some ⟨1⟩ } (.head _) ⟨1⟩ rfl
  rcases mem_cons.mp channelMem with rfl | second
  · cases isPublic
  obtain rfl := mem_singleton.mp second
  cases channelId

end Bongtalk.Channels
