import Bongtalk.Library.System
import Bongtalk.Web.BadgeStore

/-!
# The newest badge wins

Whatever reaches the badge store, the counts of a workspace should be those of the newest
value of the server. The stamps of badge updates are compared with what a resync leaves,
which is the clock of the client, and a resync is compared with nothing.
-/

namespace Bongtalk.Web.Badges

open Library Prisma List Option

/-- What the server says about a workspace, with the server time at which it was computed. -/
structure ServerValue where
  mentionCount : Int
  unreadCount : Int
  computedAt : Int
deriving DecidableEq, Repr

/-- What reaches the store. The times of a resync are the server time of its values and the
server time of its arrival. -/
inductive Delivery where
  | badgeUpdate (workspaceId : WorkspaceId) (mentionCount unreadCount serverTimestamp : Int)
  | resync (workspaces : List WorkspaceBadge) (computedAt arrivedAt : Int)
  | acked (workspaceId : WorkspaceId) (serverTimestamp : Int)
  | increment (workspaceId : WorkspaceId) (delta : Int)
  | mentionCounts (counts : List MentionCount)
deriving DecidableEq, Repr

open Delivery

namespace Delivery

/-- The handlers; the clock of the client is `offset` ahead of that of the server. -/
def apply (offset : Int) (store : BadgeStore) : Delivery → BadgeStore
  | badgeUpdate workspaceId mentionCount unreadCount serverTimestamp =>
    store.applyServerUpdate workspaceId mentionCount unreadCount serverTimestamp
  | resync workspaces _ arrivedAt => store.replaceAll workspaces (arrivedAt + offset)
  | acked workspaceId serverTimestamp => store.markAcked workspaceId serverTimestamp
  | increment workspaceId delta => store.applyOptimisticIncrement workspaceId delta
  | mentionCounts counts => store.applyConnectionMentionCounts counts

variable (workspaceId : WorkspaceId)

/-- The value that a delivery carries for a workspace. -/
def valueFor : Delivery → Option ServerValue
  | badgeUpdate target mentionCount unreadCount serverTimestamp =>
    if target = workspaceId then some ⟨mentionCount, unreadCount, serverTimestamp⟩ else none
  | resync workspaces computedAt _ =>
    (badgeFor workspaceId workspaces).map fun badge =>
      ⟨badge.mentionCount, badge.unreadCount, computedAt⟩
  | _ => none

/-- The time of an acknowledgement in a workspace; other deliveries acknowledge nothing. -/
def ackFor : Delivery → Int
  | acked target serverTimestamp => if target = workspaceId then serverTimestamp else 0
  | _ => 0

/-- The counts are changed without a value of the server. -/
def touches : Delivery → Bool
  | increment target delta => target == workspaceId && delta != 0
  | mentionCounts counts => counts.any (·.workspaceId == workspaceId)
  | _ => false

/-- The store takes the value of a delivery. -/
def taken (store : BadgeStore) : Delivery → Bool
  | badgeUpdate _ _ _ serverTimestamp => (store.prev workspaceId).takes serverTimestamp
  | _ => true

/-- What the server sends: its times lie after the epoch, no response arrives before it was
computed, and a response names every workspace of the user. -/
def Sent : Delivery → Prop
  | badgeUpdate _ _ _ serverTimestamp => 0 < serverTimestamp
  | resync workspaces computedAt arrivedAt =>
    0 < computedAt ∧ computedAt ≤ arrivedAt ∧ (badgeFor workspaceId workspaces).isSome
  | acked _ serverTimestamp => 0 < serverTimestamp
  | _ => True

instance decidableSent : DecidablePred (Sent workspaceId)
  | badgeUpdate _ _ _ serverTimestamp => inferInstanceAs (Decidable (0 < serverTimestamp))
  | resync .. => inferInstanceAs (Decidable (_ ∧ _ ∧ _))
  | acked _ serverTimestamp => inferInstanceAs (Decidable (0 < serverTimestamp))
  | increment .. => .isTrue trivial
  | mentionCounts .. => .isTrue trivial

end Delivery

/-- The store, and what has been delivered for one workspace. -/
structure Client where
  store : BadgeStore
  received : List ServerValue
  /-- The newest acknowledgement. -/
  lastAck : Int
  /-- The value that the store took last. -/
  shown : Option ServerValue
  /-- Nothing has changed the counts since. -/
  settled : Bool

open Client

/-- The start of a session. -/
def Client.initial : Client where
  store := fun _ => none
  received := []
  lastAck := 0
  shown := none
  settled := true

section Runs

variable (workspaceId : WorkspaceId) (offset : Int)

/-- The client after a delivery. -/
def Client.after (client : Client) (delivery : Delivery) : Client where
  store := delivery.apply offset client.store
  received := client.received ++ (delivery.valueFor workspaceId).toList
  lastAck := max client.lastAck (delivery.ackFor workspaceId)
  shown :=
    match delivery.valueFor workspaceId with
    | some value => if delivery.taken workspaceId client.store then some value else client.shown
    | none => client.shown
  settled :=
    match delivery.valueFor workspaceId with
    | some _ => delivery.taken workspaceId client.store || client.settled
    | none => client.settled && !delivery.touches workspaceId

/-- One delivery. -/
def Delivers (client : Client) (delivery : Delivery) (next : Client) : Prop :=
  delivery.Sent workspaceId ∧ next = client.after workspaceId offset delivery

/-- The newest of the delivered values that are not older than the last acknowledgement. -/
structure Client.Newest (client : Client) (value : ServerValue) : Prop where
  delivered : value ∈ client.received
  current : client.lastAck ≤ value.computedAt
  newest : ∀ other ∈ client.received, client.lastAck ≤ other.computedAt →
    other.computedAt ≤ value.computedAt

/-- The displayed counts are those of a value. -/
def Client.Displays (client : Client) (value : ServerValue) : Prop :=
  (client.store.prev workspaceId).mentionCount = value.mentionCount ∧
    (client.store.prev workspaceId).unreadCount = value.unreadCount

/-- Once a value not older than the last acknowledgement is there, the newest of them is shown,
and nothing else is displayed unless a client-side change came after it. -/
def Client.NewestWins (client : Client) : Prop :=
  (∃ value ∈ client.received, client.lastAck ≤ value.computedAt) →
    ∃ value, client.shown = some value ∧ client.Newest value ∧
      (client.settled = true → client.Displays workspaceId value)

/-- A value that is newer than the one shown and not older than the last acknowledgement is not
discarded. -/
def Delivery.Kept (client : Client) (delivery : Delivery) : Prop :=
  ∀ value, delivery.valueFor workspaceId = some value → client.lastAck ≤ value.computedAt →
    (∀ shown, client.shown = some shown → shown.computedAt < value.computedAt) →
      delivery.taken workspaceId client.store = true

/-- A delivery after which the newest value wins, and which discards none. -/
def WinsNewest (client : Client) (delivery : Delivery) (next : Client) : Prop :=
  Delivers workspaceId offset client delivery next ∧ delivery.Kept workspaceId client ∧
    next.NewestWins workspaceId

/-- The condition on a delivery. The stamp of a badge update not older than the last
acknowledgement lies on the same side of `lastServerTs`, into which a resync writes the clock of
the client, as of the server time of the value shown. A resync is not older than the value shown,
unless that one is older than the last acknowledgement. -/
def Delivery.Fits (client : Client) : Delivery → Prop
  | badgeUpdate target _ _ serverTimestamp =>
    target = workspaceId → client.lastAck ≤ serverTimestamp →
      ∀ shown, client.shown = some shown →
        (serverTimestamp < (client.store.prev workspaceId).lastServerTs →
          serverTimestamp ≤ shown.computedAt) ∧
        ((client.store.prev workspaceId).lastServerTs ≤ serverTimestamp →
          client.lastAck ≤ shown.computedAt → shown.computedAt ≤ serverTimestamp)
  | resync _ computedAt _ =>
    ∀ shown, client.shown = some shown → client.lastAck ≤ shown.computedAt →
      shown.computedAt ≤ computedAt
  | _ => True

/-- What holds of a client in every run. -/
structure Client.Tracks (client : Client) : Prop where
  acked : (client.store.prev workspaceId).lastAckedAt = client.lastAck
  ackNonneg : 0 ≤ client.lastAck
  positive : ∀ value ∈ client.received, 0 < value.computedAt
  unshown : client.shown = none → (client.store.prev workspaceId).lastServerTs = 0
  received : ∀ value, client.shown = some value → value ∈ client.received
  displayed : client.settled = true → ∀ value, client.shown = some value →
    client.Displays workspaceId value

section Steps

variable {workspaceId offset} {client : Client} {delivery : Delivery}

theorem Client.tracks_initial : Client.initial.Tracks workspaceId where
  acked := rfl
  ackNonneg := le_rfl
  positive := forall_mem_nil _
  unshown := fun _ => rfl
  received := fun _ shown => by cases shown
  displayed := fun _ _ shown => by cases shown

variable {value : ServerValue}

/-- A delivery with a value acknowledges nothing. -/
theorem Delivery.ackFor_eq_zero (carried : delivery.valueFor workspaceId = some value) :
    delivery.ackFor workspaceId = 0 := by
  cases delivery with
  | acked target serverTimestamp => cases carried
  | badgeUpdate | resync | increment | mentionCounts => rfl

/-- The values that the server sends were computed after the epoch. -/
theorem Delivery.positive_of_sent (sent : delivery.Sent workspaceId)
    (carried : delivery.valueFor workspaceId = some value) : 0 < value.computedAt := by
  cases delivery with
  | badgeUpdate target mentionCount unreadCount serverTimestamp =>
    simp only [valueFor, ite_none_right_eq_some, Option.some.injEq] at carried
    obtain ⟨-, rfl⟩ := carried
    exact sent
  | resync workspaces computedAt arrivedAt =>
    obtain ⟨badge, -, rfl⟩ := map_eq_some_iff.mp carried
    exact sent.1
  | acked | increment | mentionCounts => cases carried

variable (offset) in
/-- A value that is taken replaces the counts. -/
theorem Delivery.apply_of_taken {store : BadgeStore}
    (carried : delivery.valueFor workspaceId = some value)
    (taken : delivery.taken workspaceId store = true) :
    ((delivery.apply offset store).prev workspaceId).mentionCount = value.mentionCount ∧
      ((delivery.apply offset store).prev workspaceId).unreadCount = value.unreadCount ∧
      ((delivery.apply offset store).prev workspaceId).lastAckedAt =
        (store.prev workspaceId).lastAckedAt := by
  cases delivery with
  | badgeUpdate target mentionCount unreadCount serverTimestamp =>
    simp only [valueFor, ite_none_right_eq_some, Option.some.injEq] at carried
    obtain ⟨rfl, rfl⟩ := carried
    have entry := prev_applyServerUpdate_of_takes (of_decide_eq_true taken) mentionCount unreadCount
    rw [Delivery.apply, entry]
    exact ⟨rfl, rfl, rfl⟩
  | resync workspaces computedAt arrivedAt =>
    obtain ⟨badge, named, rfl⟩ := map_eq_some_iff.mp carried
    rw [Delivery.apply, prev_replaceAll named]
    exact ⟨rfl, rfl, rfl⟩
  | acked | increment | mentionCounts => cases carried

/-- A value that is not taken leaves the store alone. -/
theorem Delivery.apply_of_refused {store : BadgeStore}
    (carried : delivery.valueFor workspaceId = some value)
    (refused : delivery.taken workspaceId store = false) : delivery.apply offset store = store := by
  cases delivery with
  | badgeUpdate target mentionCount unreadCount serverTimestamp =>
    simp only [valueFor, ite_none_right_eq_some, Option.some.injEq] at carried
    obtain ⟨rfl, rfl⟩ := carried
    exact applyServerUpdate_of_not_takes (of_decide_eq_false refused) mentionCount unreadCount
  | resync | acked | increment | mentionCounts => cases refused

variable (offset) in
/-- A delivery without a value for the workspace leaves its stamp alone, and its counts unless it
changes them itself. -/
theorem Delivery.apply_of_no_value {store : BadgeStore} (sent : delivery.Sent workspaceId)
    (noValue : delivery.valueFor workspaceId = none)
    (ackNonneg : 0 ≤ (store.prev workspaceId).lastAckedAt) :
    ((delivery.apply offset store).prev workspaceId).lastServerTs =
        (store.prev workspaceId).lastServerTs ∧
      ((delivery.apply offset store).prev workspaceId).lastAckedAt =
        max (store.prev workspaceId).lastAckedAt (delivery.ackFor workspaceId) ∧
      (delivery.touches workspaceId = false →
        (delivery.apply offset store).prev workspaceId =
          { store.prev workspaceId with
            lastAckedAt := max (store.prev workspaceId).lastAckedAt
              (delivery.ackFor workspaceId) }) := by
  have unacked : max (store.prev workspaceId).lastAckedAt 0 =
      (store.prev workspaceId).lastAckedAt := max_eq_left ackNonneg
  cases delivery with
  | badgeUpdate target mentionCount unreadCount serverTimestamp =>
    have elsewhere : workspaceId ≠ target := by
      rintro rfl
      simp [valueFor] at noValue
    simp only [Delivery.apply, ackFor, unacked,
      prev_applyServerUpdate_of_ne elsewhere, true_and, implies_true]
  | resync workspaces computedAt arrivedAt =>
    obtain ⟨badge, named⟩ := isSome_iff_exists.mp sent.2.2
    simp [valueFor, named] at noValue
  | acked target serverTimestamp =>
    by_cases here : target = workspaceId
    · subst here
      simp only [Delivery.apply, ackFor, if_true, prev_markAcked _ ackNonneg,
        true_and, implies_true]
    · simp only [Delivery.apply, ackFor, if_neg here, unacked,
        prev_markAcked_of_ne (Ne.symm here), true_and, implies_true]
  | increment target delta =>
    have times := @times_applyOptimisticIncrement store target workspaceId delta
    refine ⟨times.1, times.2.trans unacked.symm, fun untouched => ?_⟩
    simp only [ackFor, unacked]
    simp only [touches, Bool.and_eq_false_iff, beq_eq_false_iff_ne,
      bne_eq_false_iff_eq] at untouched
    rcases untouched with elsewhere | rfl
    · exact prev_applyOptimisticIncrement_of_ne (Ne.symm elsewhere) delta
    · rfl
  | mentionCounts counts =>
    have times := @times_applyConnectionMentionCounts store workspaceId counts
    refine ⟨times.1, times.2.trans unacked.symm, fun untouched => ?_⟩
    have nothing : counts.filter (fun count => count.workspaceId == workspaceId) = [] := by
      rw [filter_eq_nil_iff]
      exact any_eq_false.mp untouched
    simp only [ackFor, unacked]
    exact (prev_applyConnectionMentionCounts counts).trans (by rw [nothing]; rfl)

/-- The client after a delivery without a value for the workspace. -/
theorem Client.after_of_no_value (noValue : delivery.valueFor workspaceId = none) :
    client.after workspaceId offset delivery =
      { store := delivery.apply offset client.store
        received := client.received
        lastAck := max client.lastAck (delivery.ackFor workspaceId)
        shown := client.shown
        settled := client.settled && !delivery.touches workspaceId } := by
  simp [Client.after, noValue]

/-- The client after a value that the store takes. -/
theorem Client.after_of_taken (ackNonneg : 0 ≤ client.lastAck)
    (carried : delivery.valueFor workspaceId = some value)
    (taken : delivery.taken workspaceId client.store = true) :
    client.after workspaceId offset delivery =
      { store := delivery.apply offset client.store
        received := client.received ++ [value]
        lastAck := client.lastAck
        shown := some value
        settled := true } := by
  simp [Client.after, carried, taken, ackFor_eq_zero carried, ackNonneg]

/-- The client after a value that the store does not take. -/
theorem Client.after_of_refused (ackNonneg : 0 ≤ client.lastAck)
    (carried : delivery.valueFor workspaceId = some value)
    (refused : delivery.taken workspaceId client.store = false) :
    client.after workspaceId offset delivery =
      { client with received := client.received ++ [value] } := by
  simp [Client.after, carried, refused, ackFor_eq_zero carried, ackNonneg,
    apply_of_refused carried refused]

variable (offset) in
/-- Every delivery keeps track. -/
theorem Client.Tracks.after (tracks : client.Tracks workspaceId)
    (sent : delivery.Sent workspaceId) :
    (client.after workspaceId offset delivery).Tracks workspaceId := by
  have ackNonneg := tracks.ackNonneg
  cases carried : delivery.valueFor workspaceId with
  | none =>
    have entry := delivery.apply_of_no_value offset sent carried (tracks.acked ▸ ackNonneg)
    rw [after_of_no_value carried]
    refine ⟨entry.2.1.trans (by rw [tracks.acked]), le_max_of_le_left ackNonneg,
      tracks.positive, fun unshown => entry.1.trans (tracks.unshown unshown), tracks.received,
      fun settled value shown => ?_⟩
    obtain ⟨wasSettled, untouched⟩ := Bool.and_eq_true_iff.mp settled
    have same := entry.2.2 (Bool.not_eq_true' _ ▸ untouched)
    have displayed := tracks.displayed wasSettled value shown
    rw [Displays, same]
    exact displayed
  | some value =>
    have positive : ∀ other ∈ client.received ++ [value], 0 < other.computedAt := by
      intro other present
      rcases mem_append.mp present with before | isLast
      · exact tracks.positive other before
      rw [mem_singleton.mp isLast]
      exact delivery.positive_of_sent sent carried
    cases taken : delivery.taken workspaceId client.store with
    | true =>
      obtain ⟨mentions, unread, acked⟩ := apply_of_taken offset carried taken
      rw [after_of_taken ackNonneg carried taken]
      refine ⟨acked.trans tracks.acked, ackNonneg, positive, (fun unshown => by cases unshown),
        ?_, ?_⟩
      · rintro other shown
        cases shown
        exact mem_append_right _ (mem_singleton_self _)
      · rintro - other shown
        cases shown
        exact ⟨mentions, unread⟩
    | false =>
      rw [after_of_refused ackNonneg carried taken]
      exact ⟨tracks.acked, ackNonneg, positive, tracks.unshown,
        fun other shown => mem_append_left _ (tracks.received other shown),
        tracks.displayed⟩

variable (wins : client.NewestWins workspaceId)

include wins

variable (tracks : client.Tracks workspaceId)

include tracks

/-- The newest value is not older than any that counts, also when the acknowledgement is the
only thing that changed. -/
theorem Client.NewestWins.of_no_value (sent : delivery.Sent workspaceId)
    (noValue : delivery.valueFor workspaceId = none) :
    (client.after workspaceId offset delivery).NewestWins workspaceId := by
  have nextTracks := tracks.after offset sent
  rw [after_of_no_value noValue] at nextTracks ⊢
  rintro ⟨value, present, current⟩
  have ackGrows : client.lastAck ≤ max client.lastAck (delivery.ackFor workspaceId) :=
    le_max_left _ _
  obtain ⟨shown, isShown, newest, -⟩ := wins ⟨value, present, ackGrows.trans current⟩
  have newestAfter : ∀ other ∈ client.received,
      max client.lastAck (delivery.ackFor workspaceId) ≤ other.computedAt →
        other.computedAt ≤ shown.computedAt := fun other otherMem otherCurrent =>
    newest.newest other otherMem (ackGrows.trans otherCurrent)
  exact ⟨shown, isShown,
    ⟨newest.delivered, current.trans (newestAfter value present current), newestAfter⟩,
    fun settled => nextTracks.displayed settled shown isShown⟩

/-- After a value that is taken the newest one wins exactly when that value is not older than the
one it replaces, unless that one is older than the last acknowledgement. -/
theorem Client.newestWins_of_taken (sent : delivery.Sent workspaceId)
    (carried : delivery.valueFor workspaceId = some value)
    (taken : delivery.taken workspaceId client.store = true) :
    (client.after workspaceId offset delivery).NewestWins workspaceId ↔
      ∀ shown, client.shown = some shown → client.lastAck ≤ shown.computedAt →
        shown.computedAt ≤ value.computedAt := by
  have nextTracks := tracks.after offset sent
  rw [after_of_taken tracks.ackNonneg carried taken] at nextTracks ⊢
  constructor
  · intro nextWins shown isShown current
    have present : shown ∈ client.received ++ [value] :=
      mem_append_left _ (tracks.received shown isShown)
    obtain ⟨other, isOther, newest, -⟩ := nextWins ⟨shown, present, current⟩
    cases isOther
    exact newest.newest shown present current
  · rintro fits ⟨other, present, current⟩
    have older : ∀ earlier ∈ client.received, client.lastAck ≤ earlier.computedAt →
        earlier.computedAt ≤ value.computedAt := by
      intro earlier earlierMem earlierCurrent
      obtain ⟨shown, isShown, newest, -⟩ := wins ⟨earlier, earlierMem, earlierCurrent⟩
      exact (newest.newest earlier earlierMem earlierCurrent).trans
        (fits shown isShown newest.current)
    have all : ∀ earlier ∈ client.received ++ [value], client.lastAck ≤ earlier.computedAt →
        earlier.computedAt ≤ value.computedAt := by
      intro earlier earlierMem earlierCurrent
      rcases mem_append.mp earlierMem with before | isLast
      · exact older earlier before earlierCurrent
      · rw [mem_singleton.mp isLast]
    exact ⟨value, rfl,
      ⟨mem_append_right _ (mem_singleton_self _), current.trans (all other present current), all⟩,
      fun settled => nextTracks.displayed settled value rfl⟩

/-- After a value that is not taken the newest one wins exactly when that value is older than the
last acknowledgement or not newer than the one shown. -/
theorem Client.newestWins_of_refused (carried : delivery.valueFor workspaceId = some value)
    (refused : delivery.taken workspaceId client.store = false) :
    (client.after workspaceId offset delivery).NewestWins workspaceId ↔
      (client.lastAck ≤ value.computedAt →
        ∃ shown, client.shown = some shown ∧ value.computedAt ≤ shown.computedAt) := by
  rw [after_of_refused tracks.ackNonneg carried refused]
  have present : value ∈ client.received ++ [value] :=
    mem_append_right _ (mem_singleton_self _)
  constructor
  · intro nextWins current
    obtain ⟨shown, isShown, newest, -⟩ := nextWins ⟨value, present, current⟩
    exact ⟨shown, isShown, newest.newest value present current⟩
  · rintro fits ⟨other, otherMem, current⟩
    have counts : ∃ earlier ∈ client.received, client.lastAck ≤ earlier.computedAt := by
      rcases mem_append.mp otherMem with before | isLast
      · exact ⟨other, before, current⟩
      rw [mem_singleton.mp isLast] at current
      obtain ⟨shown, isShown, newer⟩ := fits current
      exact ⟨shown, tracks.received shown isShown, current.trans newer⟩
    obtain ⟨shown, isShown, newest, -⟩ := wins counts
    refine ⟨shown, isShown, ⟨mem_append_left _ newest.delivered, newest.current, ?_⟩,
      fun settled => tracks.displayed settled shown isShown⟩
    intro earlier earlierMem earlierCurrent
    rcases mem_append.mp earlierMem with before | isLast
    · exact newest.newest earlier before earlierCurrent
    rw [mem_singleton.mp isLast] at earlierCurrent ⊢
    obtain ⟨other, isOther, newer⟩ := fits earlierCurrent
    cases isShown.symm.trans isOther
    exact newer

/-- A delivery keeps the newest value on display exactly when it fits. -/
theorem Client.newestWins_after_iff (sent : delivery.Sent workspaceId) :
    (client.after workspaceId offset delivery).NewestWins workspaceId ↔
      delivery.Fits workspaceId client := by
  cases delivery with
  | badgeUpdate target mentionCount unreadCount serverTimestamp =>
    by_cases here : target = workspaceId
    · subst here
      have carried : (Delivery.badgeUpdate target mentionCount unreadCount
          serverTimestamp).valueFor target =
            some ⟨mentionCount, unreadCount, serverTimestamp⟩ := if_pos rfl
      simp only [Fits, forall_const]
      by_cases takes : (client.store.prev target).takes serverTimestamp
      · -- What is taken is not older than the last acknowledgement.
        have current : client.lastAck ≤ serverTimestamp := by
          have stale := takes.1
          have positive : 0 < serverTimestamp := sent
          have acked := tracks.acked
          omega
        rw [newestWins_of_taken wins tracks sent carried (decide_eq_true takes)]
        simp only [current, forall_const, not_lt.mpr takes.2, false_implies, true_and, takes.2]
      · rw [newestWins_of_refused wins tracks carried (decide_eq_false takes)]
        refine imp_congr_right fun current => ?_
        have older : serverTimestamp < (client.store.prev target).lastServerTs := by
          by_contra newer
          exact takes ⟨.inr (tracks.acked ▸ current), not_lt.mp newer⟩
        simp only [older, forall_const, not_le.mpr older, false_implies, and_true]
        constructor
        · rintro ⟨shown, isShown, newer⟩ other isOther
          cases isShown.symm.trans isOther
          exact newer
        · intro fits
          cases isShown : client.shown with
          | some shown => exact ⟨shown, rfl, fits shown isShown⟩
          | none =>
            -- Before the first value the stamp is zero, and no update is older.
            have positive : 0 < serverTimestamp := sent
            rw [tracks.unshown isShown] at older
            omega
    · exact iff_of_true (wins.of_no_value tracks sent (if_neg here))
        fun target _ => absurd target here
  | resync workspaces computedAt arrivedAt =>
    obtain ⟨badge, named⟩ := isSome_iff_exists.mp sent.2.2
    have carried : (Delivery.resync workspaces computedAt arrivedAt).valueFor workspaceId =
        some ⟨badge.mentionCount, badge.unreadCount, computedAt⟩ := by
      rw [valueFor, named]
      rfl
    exact newestWins_of_taken wins tracks sent carried rfl
  | acked | increment | mentionCounts =>
    exact iff_of_true (wins.of_no_value tracks sent rfl) trivial

/-- When the newest value wins, no newer one was discarded. -/
theorem Delivery.Kept.of_newestWins
    (nextWins : (client.after workspaceId offset delivery).NewestWins workspaceId) :
    delivery.Kept workspaceId client := by
  intro value carried current newer
  by_contra refused
  obtain ⟨shown, isShown, older⟩ := (newestWins_of_refused wins tracks carried
    (Bool.not_eq_true _ ▸ refused)).mp nextWins current
  exact absurd (newer shown isShown) (not_lt.mpr older)

end Steps

/-- In the runs whose deliveries all fit, and in no others, the newest value wins at each moment
and no newer one is discarded. -/
theorem newest_badge_wins_iff {run : List Delivery} {finish : Client} :
    Steps (WinsNewest workspaceId offset) .initial run finish ↔
      Steps (Guarded (Delivers workspaceId offset) fun client delivery =>
        delivery.Fits workspaceId client) .initial run finish := by
  refine Steps.congr_within
    (fun client => client.Tracks workspaceId ∧ client.NewestWins workspaceId) ?_ ?_
    ⟨tracks_initial, ?_⟩
  · rintro client delivery next ⟨⟨sent, rfl⟩, -, nextWins⟩ ⟨tracks, -⟩
    exact ⟨tracks.after offset sent, nextWins⟩
  · rintro client delivery next ⟨tracks, wins⟩
    constructor
    · rintro ⟨⟨sent, rfl⟩, -, nextWins⟩
      exact ⟨⟨sent, rfl⟩, (newestWins_after_iff wins tracks sent).mp nextWins⟩
    · rintro ⟨⟨sent, rfl⟩, fits⟩
      have nextWins : (client.after workspaceId offset delivery).NewestWins workspaceId :=
        (newestWins_after_iff wins tracks sent).mpr fits
      exact ⟨⟨sent, rfl⟩, .of_newestWins wins tracks nextWins, nextWins⟩
  · rintro ⟨value, present, -⟩
    cases present

/-- At the end of a run in which the newest value always wins, it wins. -/
theorem Client.newestWins_of_steps {run : List Delivery} {finish : Client}
    (steps : Steps (WinsNewest workspaceId offset) .initial run finish) :
    finish.NewestWins workspaceId := by
  apply steps.preserves (NewestWins workspaceId)
  · exact fun transition _ => transition.2.2
  · rintro ⟨value, present, -⟩
    cases present

variable {workspaceId offset} in
/-- A run that ends with an older value shown than the newest is none in which that always wins. -/
theorem Client.not_winsNewest_of_stale {run : List Delivery} {finish : Client}
    {value shown : ServerValue} (newest : finish.Newest value) (isShown : finish.shown = some shown)
    (older : shown.computedAt < value.computedAt) :
    ¬Steps (WinsNewest workspaceId offset) .initial run finish := by
  intro steps
  obtain ⟨other, isOther, isNewest, -⟩ := newestWins_of_steps workspaceId offset steps
    ⟨value, newest.delivered, newest.current⟩
  cases isShown.symm.trans isOther
  exact absurd (isNewest.newest value newest.delivered newest.current) (not_le.mpr older)

end Runs

/-- A resync, and after it a newer badge update. -/
def resyncThenUpdate : List Delivery :=
  [.resync [⟨⟨1⟩, 0, 0⟩] 10 10, .badgeUpdate ⟨1⟩ 3 7 20]

/-- A badge update, and after it the response of a resync that was computed before. -/
def updateThenResync : List Delivery :=
  [.badgeUpdate ⟨1⟩ 3 7 20, .resync [⟨⟨1⟩, 0, 0⟩] 10 30]

/-- A run of deliveries that the server sends ends where they leave the client. -/
theorem steps_of_sent {workspaceId : WorkspaceId} (offset : Int) {run : List Delivery}
    (sent : Steps.AllAllowed (Client.after workspaceId offset)
      (fun _ delivery => delivery.Sent workspaceId) .initial run) :
    Steps (Delivers workspaceId offset) .initial run
      (run.foldl (Client.after workspaceId offset) .initial) :=
  Steps.of_allAllowed (fun _ _ allowed => ⟨allowed, rfl⟩) sent

/-- With the clock of the client ahead, a resync makes the store discard the newer badge update
that follows it; and an older response overwrites a newer badge update. -/
theorem newer_badge_lost :
    (∃ finish, Steps (Delivers ⟨1⟩ 1000) .initial resyncThenUpdate finish ∧
      finish.Newest ⟨3, 7, 20⟩ ∧ finish.settled = true ∧ ¬finish.Displays ⟨1⟩ ⟨3, 7, 20⟩ ∧
      ¬Steps (WinsNewest ⟨1⟩ 1000) .initial resyncThenUpdate finish) ∧
    ∃ finish, Steps (Delivers ⟨1⟩ 0) .initial updateThenResync finish ∧
      finish.Newest ⟨3, 7, 20⟩ ∧ finish.settled = true ∧ ¬finish.Displays ⟨1⟩ ⟨3, 7, 20⟩ ∧
      ¬Steps (WinsNewest ⟨1⟩ 0) .initial updateThenResync finish := by
  constructor
  · have newest : (resyncThenUpdate.foldl (Client.after ⟨1⟩ 1000) .initial).Newest ⟨3, 7, 20⟩ :=
      ⟨by decide +kernel, by decide +kernel, by decide +kernel⟩
    refine ⟨_, steps_of_sent 1000 (by decide +kernel), newest, by decide +kernel,
      fun displays => ?_, not_winsNewest_of_stale newest rfl (by decide)⟩
    exact absurd displays.1 (by decide +kernel)
  · have newest : (updateThenResync.foldl (Client.after ⟨1⟩ 0) .initial).Newest ⟨3, 7, 20⟩ :=
      ⟨by decide +kernel, by decide +kernel, by decide +kernel⟩
    refine ⟨_, steps_of_sent 0 (by decide +kernel), newest, by decide +kernel,
      fun displays => ?_, not_winsNewest_of_stale newest rfl (by decide)⟩
    exact absurd displays.1 (by decide +kernel)

end Bongtalk.Web.Badges
