import Bongtalk.Library.Grouping
import Bongtalk.Prisma.Schema

/-!
# The badge store

The client keeps the two counts of every workspace. Badge updates carry the time of the
server, and so do acknowledgements; a resync stamps its entries with the clock of the client.
-/

namespace Bongtalk.Web.Badges

open Library Prisma

structure BadgeEntry where
  mentionCount : Int
  unreadCount : Int
  /-- The `serverTimestamp` of the badge update that was taken last. -/
  lastServerTs : Int
  /-- The server time of the last acknowledgement. -/
  lastAckedAt : Int
deriving DecidableEq, Repr

/-- `EMPTY`. -/
def BadgeEntry.empty : BadgeEntry where
  mentionCount := 0
  unreadCount := 0
  lastServerTs := 0
  lastAckedAt := 0

/-- An entry of the response to a resync. -/
structure WorkspaceBadge where
  workspaceId : WorkspaceId
  mentionCount : Int
  unreadCount : Int
deriving DecidableEq, Repr

/-- An entry of `allWorkspaceMentionCounts`. -/
structure MentionCount where
  workspaceId : WorkspaceId
  mentionCount : Int
deriving DecidableEq, Repr

/-- `byWorkspace`. -/
abbrev BadgeStore := WorkspaceId → Option BadgeEntry

namespace BadgeStore

variable (store : BadgeStore) (workspaceId : WorkspaceId)

/-- `byWorkspace[workspaceId] ?? EMPTY`. -/
def prev : BadgeEntry :=
  (store workspaceId).getD .empty

/-- `{ ...byWorkspace, [workspaceId]: entry }`. -/
def put (entry : BadgeEntry) : BadgeStore :=
  Function.update store workspaceId (some entry)

def applyServerUpdate (mentionCount unreadCount serverTimestamp : Int) : BadgeStore :=
  let prev := store.prev workspaceId
  if 0 < prev.lastAckedAt ∧ serverTimestamp < prev.lastAckedAt then store
  else if serverTimestamp < prev.lastServerTs then store
  else store.put workspaceId
    { prev with
      mentionCount := mentionCount
      unreadCount := unreadCount
      lastServerTs := serverTimestamp }

def markAcked (serverTimestamp : Int) : BadgeStore :=
  let prev := store.prev workspaceId
  if serverTimestamp ≤ 0 then store
  else if serverTimestamp ≤ prev.lastAckedAt then store
  else store.put workspaceId { prev with lastAckedAt := serverTimestamp }

def applyOptimisticIncrement (delta : Int) : BadgeStore :=
  if delta = 0 then store
  else
    let prev := store.prev workspaceId
    store.put workspaceId
      { prev with
        unreadCount := max 0 (prev.unreadCount + delta)
        mentionCount := max 0 (prev.mentionCount + delta) }

def applyConnectionMentionCounts (counts : List MentionCount) : BadgeStore :=
  counts.foldl (groupRow MentionCount.workspaceId
    (fun prev count => { prev with mentionCount := count.mentionCount }) .empty) store

/-- `now` is `Date.now()`. -/
def replaceAll (workspaces : List WorkspaceBadge) (now : Int) : BadgeStore :=
  groupRows WorkspaceBadge.workspaceId
    (fun _ badge =>
      { mentionCount := badge.mentionCount
        unreadCount := badge.unreadCount
        lastServerTs := now
        lastAckedAt := (store.prev badge.workspaceId).lastAckedAt })
    .empty workspaces

end BadgeStore

/-- The guards of `applyServerUpdate`: a badge update older than the last acknowledgement is not
taken, and neither is one older than the one taken last. -/
def BadgeEntry.takes (entry : BadgeEntry) (serverTimestamp : Int) : Prop :=
  (entry.lastAckedAt ≤ 0 ∨ entry.lastAckedAt ≤ serverTimestamp) ∧
    entry.lastServerTs ≤ serverTimestamp

instance (entry : BadgeEntry) (serverTimestamp : Int) : Decidable (entry.takes serverTimestamp) :=
  inferInstanceAs (Decidable (_ ∧ _))

section Entries

variable {store : BadgeStore} {workspaceId other : WorkspaceId}

@[simp]
theorem prev_put_self (entry : BadgeEntry) :
    (store.put workspaceId entry).prev workspaceId = entry := by
  simp [BadgeStore.prev, BadgeStore.put]

@[simp]
theorem prev_put_of_ne (different : other ≠ workspaceId) (entry : BadgeEntry) :
    (store.put workspaceId entry).prev other = store.prev other := by
  simp [BadgeStore.prev, BadgeStore.put, different]

/-- A badge update that is taken replaces the counts and the stamp. -/
theorem prev_applyServerUpdate_of_takes {serverTimestamp : Int}
    (takes : (store.prev workspaceId).takes serverTimestamp) (mentionCount unreadCount : Int) :
    (store.applyServerUpdate workspaceId mentionCount unreadCount serverTimestamp).prev
        workspaceId =
      { store.prev workspaceId with
        mentionCount := mentionCount
        unreadCount := unreadCount
        lastServerTs := serverTimestamp } := by
  have notStale : ¬(0 < (store.prev workspaceId).lastAckedAt ∧
      serverTimestamp < (store.prev workspaceId).lastAckedAt) := by
    have := takes.1
    omega
  have notOlder : ¬serverTimestamp < (store.prev workspaceId).lastServerTs :=
    not_lt.mpr takes.2
  simp only [BadgeStore.applyServerUpdate, if_neg notStale, if_neg notOlder, prev_put_self]

/-- A badge update that is not taken changes nothing. -/
theorem applyServerUpdate_of_not_takes {serverTimestamp : Int}
    (refused : ¬(store.prev workspaceId).takes serverTimestamp) (mentionCount unreadCount : Int) :
    store.applyServerUpdate workspaceId mentionCount unreadCount serverTimestamp = store := by
  unfold BadgeStore.applyServerUpdate
  dsimp only
  split
  · rfl
  next fresh =>
    split
    · rfl
    next newer =>
      refine absurd ⟨?_, not_lt.mp newer⟩ refused
      by_cases acked : 0 < (store.prev workspaceId).lastAckedAt
      · exact .inr (by_contra fun older => fresh ⟨acked, not_le.mp older⟩)
      · exact .inl (not_lt.mp acked)

theorem prev_applyServerUpdate_of_ne (different : other ≠ workspaceId)
    (mentionCount unreadCount serverTimestamp : Int) :
    (store.applyServerUpdate workspaceId mentionCount unreadCount serverTimestamp).prev other =
      store.prev other := by
  unfold BadgeStore.applyServerUpdate
  dsimp only
  split_ifs
  · rfl
  · rfl
  · exact prev_put_of_ne different _

/-- An acknowledgement moves `lastAckedAt` forward only. -/
theorem prev_markAcked (serverTimestamp : Int) (acked : 0 ≤ (store.prev workspaceId).lastAckedAt) :
    (store.markAcked workspaceId serverTimestamp).prev workspaceId =
      { store.prev workspaceId with
        lastAckedAt := max (store.prev workspaceId).lastAckedAt serverTimestamp } := by
  unfold BadgeStore.markAcked
  dsimp only
  split_ifs with old behind
  · rw [max_eq_left (by omega)]
  · rw [max_eq_left behind]
  · rw [prev_put_self, max_eq_right (by omega)]

theorem prev_markAcked_of_ne (different : other ≠ workspaceId) (serverTimestamp : Int) :
    (store.markAcked workspaceId serverTimestamp).prev other = store.prev other := by
  unfold BadgeStore.markAcked
  dsimp only
  split_ifs
  · rfl
  · rfl
  · exact prev_put_of_ne different _

/-- An increment leaves the times alone. -/
theorem times_applyOptimisticIncrement (delta : Int) :
    ((store.applyOptimisticIncrement workspaceId delta).prev other).lastServerTs =
        (store.prev other).lastServerTs ∧
      ((store.applyOptimisticIncrement workspaceId delta).prev other).lastAckedAt =
        (store.prev other).lastAckedAt := by
  unfold BadgeStore.applyOptimisticIncrement
  dsimp only
  split_ifs
  · exact ⟨rfl, rfl⟩
  · by_cases same : other = workspaceId
    · subst same
      simp
    · simp [same]

theorem prev_applyOptimisticIncrement_of_ne (different : other ≠ workspaceId) (delta : Int) :
    (store.applyOptimisticIncrement workspaceId delta).prev other = store.prev other := by
  unfold BadgeStore.applyOptimisticIncrement
  dsimp only
  split_ifs
  · rfl
  · exact prev_put_of_ne different _

theorem prev_applyConnectionMentionCounts (counts : List MentionCount) :
    (store.applyConnectionMentionCounts counts).prev workspaceId =
      (counts.filter fun count => count.workspaceId == workspaceId).foldl
        (fun prev count => { prev with mentionCount := count.mentionCount })
        (store.prev workspaceId) :=
  getD_foldl_groupRow _ _ _ _ _ _

/-- Restored mention counts leave the times alone. -/
theorem times_applyConnectionMentionCounts (counts : List MentionCount) :
    ((store.applyConnectionMentionCounts counts).prev workspaceId).lastServerTs =
        (store.prev workspaceId).lastServerTs ∧
      ((store.applyConnectionMentionCounts counts).prev workspaceId).lastAckedAt =
        (store.prev workspaceId).lastAckedAt := by
  rw [prev_applyConnectionMentionCounts]
  induction counts.filter (fun count => count.workspaceId == workspaceId) using
    List.reverseRecOn with
  | nil => exact ⟨rfl, rfl⟩
  | append_singleton counts count ih =>
    rw [List.foldl_append]
    exact ih

/-- The badge of a workspace in a response; a later entry overwrites an earlier one. -/
def badgeFor (workspaceId : WorkspaceId) (workspaces : List WorkspaceBadge) :
    Option WorkspaceBadge :=
  (workspaces.filter fun badge => badge.workspaceId == workspaceId).getLast?

/-- A resync that names a workspace replaces its counts, and stamps them with the clock. -/
theorem prev_replaceAll {workspaces : List WorkspaceBadge} {badge : WorkspaceBadge}
    (named : badgeFor workspaceId workspaces = some badge) (now : Int) :
    (store.replaceAll workspaces now).prev workspaceId =
      { mentionCount := badge.mentionCount
        unreadCount := badge.unreadCount
        lastServerTs := now
        lastAckedAt := (store.prev workspaceId).lastAckedAt } := by
  obtain ⟨before, isLast⟩ := List.getLast?_eq_some_iff.mp named
  have listed : badge ∈ workspaces.filter fun badge => badge.workspaceId == workspaceId :=
    isLast ▸ List.mem_append_right _ (List.mem_singleton_self badge)
  have here : badge.workspaceId = workspaceId := by simpa using (List.mem_filter.mp listed).2
  rw [BadgeStore.prev, BadgeStore.replaceAll, getD_groupRows, isLast, List.foldl_append,
    List.foldl_cons, List.foldl_nil, here]

end Entries

end Bongtalk.Web.Badges
