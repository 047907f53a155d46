import Bongtalk.Messaging.Idempotency
import Bongtalk.Messaging.ExactlyOnce
import Bongtalk.Realtime.Subscriptions
import Bongtalk.Realtime.ChannelMetadata
import Bongtalk.Messages.Placeholder
import Bongtalk.Messages.PinSafety
import Bongtalk.Messages.EditHistory
import Bongtalk.Channels.Undo
import Bongtalk.Channels.SnapshotExact
import Bongtalk.Shared.MrkdwnSchema
import Bongtalk.Messages.Walks
import Bongtalk.Common.Outbox.Delivery
import Bongtalk.Workspaces.SingleOwner
import Bongtalk.Auth.Revocation
import Bongtalk.Auth.TotpReplay
import Bongtalk.Auth.Enrolment
import Bongtalk.Auth.Lockout
import Bongtalk.Workspaces.EntryGate
import Bongtalk.Workspaces.ApplicationRounds
import Bongtalk.Workspaces.Bans
import Bongtalk.Workspaces.Roles.RoleMirror
import Bongtalk.Channels.DefaultChannel
import Bongtalk.Channels.DirectMessages.Opened
import Bongtalk.Channels.DirectMessages.HistoryFloor
import Bongtalk.Queue.TempEvict
import Bongtalk.Me.CustomStatus
import Bongtalk.Me.OneMention
import Bongtalk.Me.ActivityReads
import Bongtalk.Me.Badges
import Bongtalk.Me.Saved.DeletedContent
import Bongtalk.Queue.FiresAsSet
import Bongtalk.Me.Recovery
import Bongtalk.Friends.BlockOwnership
import Bongtalk.Messages.BlockedReads
import Bongtalk.Attachments.Ownership
import Bongtalk.Attachments.AllOrNothing
import Bongtalk.Attachments.LiveObjects
import Bongtalk.Realtime.Presence.Liveness
import Bongtalk.Web.EventOrder
import Bongtalk.Web.OneRowEach
import Bongtalk.Web.Convergence
import Bongtalk.Workspaces.Onboarding.RuleOrder
import Bongtalk.Search.Visibility
import Bongtalk.Web.BadgeOrder
import Bongtalk.Web.GapFetchQueue
import Bongtalk.Workspaces.AutoMod.RegexIsolation
import Bongtalk.Channels.SlowmodeRuns
import Bongtalk.Channels.CategoryLinks
import Bongtalk.Reactions.ReactionLimit
import Bongtalk.Workspaces.Onboarding.RoleGrants
import Bongtalk.Workspaces.Moderation.ReportRuns
import Bongtalk.Realtime.Presence.InvisibleRuns
import Bongtalk.Auth.RateLimitWindows
import Bongtalk.Workspaces.Moderation.ReportListing
import Bongtalk.Channels.Adjacency
import Bongtalk.Channels.Permission.PrivateGate
import Bongtalk.Channels.Permission.LegacyMatrix
import Bongtalk.Workspaces.Roles.RoleAuditRefinement
import Bongtalk.Messaging.EditedMentions
import Bongtalk.Channels.MarkUnread
import Bongtalk.Notifications.QuietHours
import Bongtalk.Messages.Mentions.LongestMatch
import Bongtalk.Messages.Mentions.Normalizer
import Bongtalk.Messages.ThreadAvatars
import Bongtalk.Attachments.SweepBatches
import Bongtalk.Realtime.ReplayBuffer
import Bongtalk.Workspaces.Discovery
