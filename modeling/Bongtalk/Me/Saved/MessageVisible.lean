import Bongtalk.Me.Inbox

/-!
# Messages that a user may save
-/

namespace Bongtalk.Me.InboxState

open Common Common.Acl Channels.Permission Messages Prisma

variable (state : InboxState) (userId : UserId)

/-- The rows of the subquery, where role rows count for a member only. -/
def savedRows (channel : Channel) : List ChannelPermissionOverride :=
  matchingOverrides state.db.overrides.rows channel.id userId
    (match state.memberOf userId channel with
      | none => []
      | some member =>
        rolePrincipals member.role (state.db.roleIdsOf member.workspaceId userId))

/-- The column `visible`. -/
def isSavable (channel : Channel) : Bool :=
  let member := state.memberOf userId channel
  (!channel.isPrivate && member.isSome) ||
    (member.any (·.role == .owner) && channel.type != .direct) ||
    positive (overrideBit (state.savedRows userId channel))

/-- The live message of an id with its live channel. -/
def savedSource (messageId : MessageId) : Option (Message × Channel) := do
  let message ← (state.messages.findUnique messageId).filter (·.deletedAt == none)
  let channel ← state.liveChannel message.channelId
  return (message, channel)

def assertMessageVisible (messageId : MessageId) : Except Failure Unit :=
  if (state.savedSource messageId).any fun (_, channel) => state.isSavable userId channel then
    .ok ()
  else failWith .messageNotFound "message not found"

variable {state userId}

theorem savedSource_eq_some_iff {messageId : MessageId} {message : Message} {channel : Channel} :
    state.savedSource messageId = some (message, channel) ↔
      (message ∈ state.messages ∧ message.id = messageId) ∧ message.deletedAt = none ∧
        state.liveChannel message.channelId = some channel := by
  simp only [savedSource, bind, pure, Option.bind_eq_some_iff, Option.filter_eq_some_iff,
    MessageTable.findUnique_eq_some_iff, beq_iff_eq, Option.some.injEq, Prod.mk.injEq]
  constructor
  · rintro ⟨_, ⟨found, live⟩, _, channelEq, rfl, rfl⟩
    exact ⟨found, live, channelEq⟩
  · rintro ⟨found, live, channelEq⟩
    exact ⟨message, ⟨found, live⟩, channel, channelEq, rfl, rfl⟩

theorem assertMessageVisible_eq_ok_iff {messageId : MessageId} :
    state.assertMessageVisible userId messageId = .ok () ↔
      ∃ message channel, state.savedSource messageId = some (message, channel) ∧
        state.isSavable userId channel = true := by
  rw [assertMessageVisible, ite_eq_left_iff, failWith]
  simp only [reduceCtorEq, imp_false, not_not, Option.any_eq_true, Prod.exists]

end Bongtalk.Me.InboxState
