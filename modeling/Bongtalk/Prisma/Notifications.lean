import Bongtalk.Prisma.Schema

/-!
# Notification rows

The rows that decide who is notified: users and their settings, mutes, blocks and
thread subscriptions.
-/

namespace Bongtalk.Prisma

open Library

inductive NotifLevel where
  | all
  | mentions
  | nothing
deriving DecidableEq, Repr

inductive PresencePreference where
  | auto
  | dnd
  | invisible
deriving DecidableEq, Repr

inductive ThreadNotificationLevel where
  | all
  | mentions
  | off
deriving DecidableEq, Repr

inductive FriendshipStatus where
  | pending
  | accepted
  | blocked
deriving DecidableEq, Repr

/-- One weekly window of a do-not-disturb schedule, in minutes from midnight. -/
structure DndEntry where
  day : Nat
  startMin : Nat
  endMin : Nat
deriving DecidableEq, Repr

structure DndSchedule where
  days : List DndEntry
deriving DecidableEq, Repr

structure User where
  id : UserId
  username : String
  presencePreference : PresencePreference := .auto
  dndSchedule : Option DndSchedule := none
  timezone : Option String := none
deriving DecidableEq, Repr

structure UserSettings where
  userId : UserId
  notifTrigger : NotifLevel := .mentions
  keywords : List String := []
  dndUntil : Option DateTime := none
deriving DecidableEq, Repr

structure ServerNotificationPref where
  userId : UserId
  workspaceId : WorkspaceId
  level : NotifLevel := .mentions
  isMuted : Bool := false
  muteUntil : Option DateTime := none
  suppressEveryone : Bool := false
deriving DecidableEq, Repr

structure UserChannelMute where
  userId : UserId
  channelId : ChannelId
  mutedUntil : Option DateTime := none
  level : Option NotifLevel := none
  isMuted : Bool := false
deriving DecidableEq, Repr

structure Friendship where
  requesterId : UserId
  addresseeId : UserId
  status : FriendshipStatus := .pending
deriving DecidableEq, Repr

structure ThreadSubscription where
  userId : UserId
  threadParentId : MessageId
  notificationLevel : ThreadNotificationLevel := .all
deriving DecidableEq, Repr

/-- The tables behind notifications. -/
structure NotificationTables where
  users : Table User User.id
  /-- The unique index on `User.username`. -/
  usernamesUnique : ∀ first ∈ users, ∀ second ∈ users, first.username = second.username →
    first = second
  userSettings : Table UserSettings UserSettings.userId
  serverNotificationPrefs : Table ServerNotificationPref fun row => (row.userId, row.workspaceId)
  userChannelMutes : Table UserChannelMute fun row => (row.userId, row.channelId)
  friendships : Table Friendship fun row => (row.requesterId, row.addresseeId)
  threadSubscriptions : Table ThreadSubscription fun row => (row.userId, row.threadParentId)

namespace NotificationTables

/-- Users without any preference of their own. -/
def plain (users : Table User User.id)
    (usernamesUnique : ∀ first ∈ users, ∀ second ∈ users, first.username = second.username →
      first = second) : NotificationTables where
  users := users
  usernamesUnique := usernamesUnique
  userSettings := .empty
  serverNotificationPrefs := .empty
  userChannelMutes := .empty
  friendships := .empty
  threadSubscriptions := .empty

/-- The tables without any row. -/
def empty : NotificationTables :=
  .plain .empty fun _ present => by cases present

end NotificationTables

end Bongtalk.Prisma
