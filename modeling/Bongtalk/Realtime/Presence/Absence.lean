import Bongtalk.Realtime.Presence.Observers

/-!
# Redis with and without a user

A user stays connected in one world and is disconnected in another. What is read of others is the
same in both, and what they write keeps it so.
-/

namespace Bongtalk.Realtime.Presence

open Library Prisma PresenceState List Function StatusRows

variable {userId other : UserId} {redis : PresenceState}

/-- Redis with a user and without. -/
structure RedisAlike (userId : UserId) (redis offline : PresenceState) : Prop where
  now : offline.now = redis.now
  userSessions : ∀ other, other ≠ userId → offline.userSessions other = redis.userSessions other
  noSessions : ∀ entry, offline.userSessions userId = some entry → entry.value = []
  preference : ∀ other, other ≠ userId → offline.preference other = redis.preference other
  lastActivity : ∀ other, other ≠ userId → offline.lastActivity other = redis.lastActivity other
  inactive : offline.lastActivity userId = none
  graceEpoch : ∀ other, other ≠ userId → offline.graceEpoch other = redis.graceEpoch other
  sets : ∀ set workspaceId, offline.workspaceSets set workspaceId =
    (redis.workspaceSets set workspaceId).filter fun member => member ≠ userId

section Updates

variable {α : Type} {keys offline : UserId → α}

variable (same : ∀ other, other ≠ userId → offline other = keys other)

include same

theorem update_alike (changed : UserId) {value valueOffline : α} (sameValue : valueOffline = value) :
    ∀ other, other ≠ userId →
      update offline changed valueOffline other =
        update keys changed value other := by
  intro other differs
  rw [sameValue]
  by_cases isChanged : other = changed
  · subst isChanged
    simp
  · simp [isChanged, same other differs]

theorem update_own (value : α) :
    ∀ other, other ≠ userId → offline other = update keys userId value other := by
  intro other differs
  simp [differs, same other differs]

end Updates

namespace RedisAlike

variable {config : PresenceConfig} {offline : PresenceState}

theorem sessionCount_offline (alike : RedisAlike userId redis offline) :
    offline.sessionCount userId = 0 := by
  unfold sessionCount
  refine length_eq_zero_iff.mpr (eq_nil_iff_forall_not_mem.mpr fun sessionId present => ?_)
  obtain ⟨stored, expiresAt, held, -, member⟩ := Expiring.mem_members_iff.mp present
  obtain rfl : stored = [] := alike.noSessions _ held
  exact not_mem_nil member

theorem lastActivityMs_offline (alike : RedisAlike userId redis offline) :
    offline.lastActivityMs userId = none := by
  unfold lastActivityMs
  rw [alike.inactive]
  rfl

section Others

variable (alike : RedisAlike userId redis offline)

include alike

variable (differs : other ≠ userId)

include differs

theorem members_sessions :
    Expiring.members offline.now (offline.userSessions other) =
      Expiring.members redis.now (redis.userSessions other) := by
  rw [alike.now, alike.userSessions other differs]

theorem sessionCount : offline.sessionCount other = redis.sessionCount other :=
  congrArg List.length (alike.members_sessions differs)

theorem preferenceOf : offline.preferenceOf other = redis.preferenceOf other := by
  unfold PresenceState.preferenceOf
  rw [alike.now, alike.preference other differs]

theorem lastActivityMs : offline.lastActivityMs other = redis.lastActivityMs other := by
  unfold PresenceState.lastActivityMs
  rw [alike.now, alike.lastActivity other differs]

theorem currentGraceEpoch : offline.currentGraceEpoch other = redis.currentGraceEpoch other := by
  unfold PresenceState.currentGraceEpoch
  rw [alike.now, alike.graceEpoch other differs]

end Others

section Sets

variable {set : WorkspaceSet} {workspaceIds : List WorkspaceId}

variable (alike : RedisAlike userId redis offline)

include alike

/-- A change of sets that is the same but for the user. -/
theorem changeSets {change changeOffline : List UserId → List UserId}
    (commutes : ∀ members : List UserId, (change members).filter (fun member => member ≠ userId) =
      changeOffline (members.filter fun member => member ≠ userId)) :
    RedisAlike userId (redis.changeSets set workspaceIds change)
      (offline.changeSets set workspaceIds changeOffline) where
  now := alike.now
  userSessions := alike.userSessions
  noSessions := alike.noSessions
  preference := alike.preference
  lastActivity := alike.lastActivity
  inactive := alike.inactive
  graceEpoch := alike.graceEpoch
  sets := by
    intro other workspaceId
    simp only [PresenceState.changeSets]
    split
    · rw [alike.sets, commutes]
    · exact alike.sets other workspaceId

/-- A change of sets that touches the user alone. -/
theorem changeOwnSets {change : List UserId → List UserId}
    (touchesOwn : ∀ members : List UserId, (change members).filter (fun member => member ≠ userId) =
      members.filter fun member => member ≠ userId) :
    RedisAlike userId (redis.changeSets set workspaceIds change) offline where
  now := alike.now
  userSessions := alike.userSessions
  noSessions := alike.noSessions
  preference := alike.preference
  lastActivity := alike.lastActivity
  inactive := alike.inactive
  graceEpoch := alike.graceEpoch
  sets := by
    intro other workspaceId
    simp only [PresenceState.changeSets]
    split
    · rw [alike.sets, touchesOwn]
    · exact alike.sets other workspaceId

theorem addTo {other : UserId} (differs : other ≠ userId) :
    RedisAlike userId (redis.addTo set workspaceIds other) (offline.addTo set workspaceIds other) := by
  refine alike.changeSets fun members => ?_
  by_cases present : other ∈ members
  · have stays : other ∈ members.filter fun member => member ≠ userId := by
      simp [present, differs]
    rw [insert_of_mem present, insert_of_mem stays]
  · have absent : other ∉ members.filter fun member => member ≠ userId := by
      simp [present]
    rw [insert_of_not_mem present, insert_of_not_mem absent, filter_cons_of_pos]
    simpa using differs

theorem addToOwn :
    RedisAlike userId (redis.addTo set workspaceIds userId) offline := by
  refine alike.changeOwnSets fun members => ?_
  by_cases present : userId ∈ members
  · rw [insert_of_mem present]
  rw [insert_of_not_mem present, filter_cons_of_neg]
  simp

/-- Two removals that differ in the user at most. -/
theorem removeFrom {gone goneOffline : List UserId}
    (same : ∀ member, member ≠ userId → (member ∈ gone ↔ member ∈ goneOffline)) :
    RedisAlike userId (redis.removeFrom set workspaceIds gone)
      (offline.removeFrom set workspaceIds goneOffline) := by
  refine alike.changeSets fun members => ?_
  rw [filter_filter, filter_filter]
  refine filter_congr fun member _ => ?_
  by_cases isUser : member = userId
  · simp [isUser]
  · simp [isUser, same member isUser]

theorem removeOwn :
    RedisAlike userId (redis.removeFrom set workspaceIds [userId]) offline := by
  refine alike.changeOwnSets fun members => ?_
  rw [filter_filter]
  refine filter_congr fun member _ => ?_
  simp

end Sets

section Operations

section

variable (alike : RedisAlike userId redis offline)

include alike

variable (workspaceIds : List WorkspaceId) (preference : PresencePreference)
  (sessionId : PresenceSessionId)

/-- The user registers in the one world. -/
theorem registerOwn (workspaceIds : List WorkspaceId) (preference : PresencePreference)
    (nowMs : Nat) :
    RedisAlike userId (redis.register config ⟨sessionId, userId, workspaceIds, preference⟩ nowMs)
      offline := by
  have keys : RedisAlike userId
      (redis.withSession config ⟨sessionId, userId, workspaceIds, preference⟩ nowMs) offline :=
    { now := alike.now
      userSessions := update_own alike.userSessions _
      noSessions := alike.noSessions
      preference := update_own alike.preference _
      lastActivity := update_own alike.lastActivity _
      inactive := alike.inactive
      graceEpoch := update_own alike.graceEpoch _
      sets := alike.sets }
  unfold register applyPreference
  cases preference with
  | auto => exact keys.addToOwn.removeOwn
  | dnd => exact keys.addToOwn.addToOwn
  | invisible => exact keys.removeOwn.removeOwn

theorem touchOwn (nowMs : Nat) :
    RedisAlike userId (redis.touch config userId nowMs) offline :=
  { alike with lastActivity := update_own alike.lastActivity _ }

theorem writePreferenceOwn :
    RedisAlike userId (redis.writePreference config userId preference) offline :=
  { alike with preference := update_own alike.preference _ }

theorem applySetsOwn (online : Bool) :
    RedisAlike userId (redis.applySets userId workspaceIds preference online) offline := by
  have joined : RedisAlike userId
      (if online then redis.addTo .users workspaceIds userId else redis) offline := by
    split
    · exact alike.addToOwn
    · exact alike
  unfold applySets
  cases preference with
  | auto => exact joined.removeOwn
  | dnd => exact joined.addToOwn
  | invisible => exact alike.removeOwn.removeOwn

theorem unregisterOwn : RedisAlike userId (redis.unregister sessionId userId) offline :=
  { alike with userSessions := update_own alike.userSessions _ }

theorem finalizeOwn : RedisAlike userId (redis.finalizeOffline userId workspaceIds) offline :=
  { alike.removeOwn.removeOwn with lastActivity := update_own alike.lastActivity _ }

end

variable (differs : other ≠ userId)

include differs

/-- Another user registers in both worlds. -/
theorem register (alike : RedisAlike userId redis offline) (sessionId : PresenceSessionId)
    (workspaceIds : List WorkspaceId) (preference : PresencePreference) (nowMs : Nat) :
    RedisAlike userId (redis.register config ⟨sessionId, other, workspaceIds, preference⟩ nowMs)
      (offline.register config ⟨sessionId, other, workspaceIds, preference⟩ nowMs) := by
  have keys : RedisAlike userId
      (redis.withSession config ⟨sessionId, other, workspaceIds, preference⟩ nowMs)
      (offline.withSession config ⟨sessionId, other, workspaceIds, preference⟩ nowMs) :=
    { now := alike.now
      userSessions := update_alike alike.userSessions _ (by
        rw [alike.members_sessions differs, alike.now])
      noSessions := fun entry held =>
        alike.noSessions entry ((update_of_ne differs.symm _ _).symm.trans held)
      preference := update_alike alike.preference _ (by rw [alike.now])
      lastActivity := update_alike alike.lastActivity _ (by rw [alike.now])
      inactive := (update_of_ne differs.symm _ _).trans alike.inactive
      graceEpoch := update_alike alike.graceEpoch _ (by
        rw [alike.currentGraceEpoch differs, alike.now])
      sets := alike.sets }
  unfold PresenceState.register applyPreference
  cases preference with
  | auto => exact (keys.addTo differs).removeFrom fun _ _ => Iff.rfl
  | dnd => exact (keys.addTo differs).addTo differs
  | invisible => exact (keys.removeFrom fun _ _ => Iff.rfl).removeFrom fun _ _ => Iff.rfl

theorem touch (alike : RedisAlike userId redis offline) (nowMs : Nat) :
    RedisAlike userId (redis.touch config other nowMs) (offline.touch config other nowMs) := by
  exact { alike with
    lastActivity := update_alike alike.lastActivity _ (by rw [alike.now])
    inactive := (update_of_ne differs.symm _ _).trans alike.inactive }

omit differs in
theorem writePreference (alike : RedisAlike userId redis offline)
    (preference : PresencePreference) :
    RedisAlike userId (redis.writePreference config other preference)
      (offline.writePreference config other preference) :=
  { alike with preference := update_alike alike.preference _ (by rw [alike.now]) }

section

variable (alike : RedisAlike userId redis offline)

include alike

theorem applySets (workspaceIds : List WorkspaceId) (preference : PresencePreference)
    (online : Bool) :
    RedisAlike userId (redis.applySets other workspaceIds preference online)
      (offline.applySets other workspaceIds preference online) := by
  have joined : RedisAlike userId (if online then redis.addTo .users workspaceIds other else redis)
      (if online then offline.addTo .users workspaceIds other else offline) := by
    split
    · exact alike.addTo differs
    · exact alike
  unfold PresenceState.applySets
  cases preference with
  | auto => exact joined.removeFrom fun _ _ => Iff.rfl
  | dnd => exact joined.addTo differs
  | invisible => exact (alike.removeFrom fun _ _ => Iff.rfl).removeFrom fun _ _ => Iff.rfl

theorem unregister (sessionId : PresenceSessionId) :
    RedisAlike userId (redis.unregister sessionId other) (offline.unregister sessionId other) := by
  exact { alike with
    userSessions := update_alike alike.userSessions _ (by rw [alike.userSessions other differs])
    noSessions := fun entry held =>
      alike.noSessions entry ((update_of_ne differs.symm _ _).symm.trans held) }

theorem finalizeOffline (workspaceIds : List WorkspaceId) :
    RedisAlike userId (redis.finalizeOffline other workspaceIds)
      (offline.finalizeOffline other workspaceIds) := by
  have removed : RedisAlike userId
      ((redis.removeFrom .users workspaceIds [other]).removeFrom .dnd workspaceIds [other])
      ((offline.removeFrom .users workspaceIds [other]).removeFrom .dnd workspaceIds [other]) :=
    (alike.removeFrom fun _ _ => Iff.rfl).removeFrom fun _ _ => Iff.rfl
  exact { removed with
    lastActivity := update_alike alike.lastActivity _ rfl
    inactive := (update_of_ne differs.symm _ _).trans alike.inactive }

end

omit differs in
theorem tick (alike : RedisAlike userId redis offline) (elapsed : Nat) :
    RedisAlike userId (redis.tick elapsed) (offline.tick elapsed) :=
  { alike with now := congrArg (· + elapsed) alike.now }

end Operations

end RedisAlike

/-- What is read of the user in the world where it is disconnected. -/
structure KeysGone (keys offline : StatusKeys) : Prop where
  sessions : offline.sessions = keys.sessions.map fun _ => 0
  lastMs : offline.lastMs = keys.lastMs.map fun _ => none

/-- A row of a query that asks for certain users. -/
structure RowAlike (userId : UserId) (row offline : UserId × StatusKeys) : Prop where
  user : offline.1 = row.1
  others : row.1 ≠ userId → offline.2 = row.2
  own : row.1 = userId → KeysGone row.2 offline.2

def StatusRows.without (userId : UserId) (rows : StatusRows) : StatusRows :=
  rows.filter fun row => row.1 ≠ userId

section Rows

variable {offline : PresenceState} {rows others : StatusRows}

section

variable (alike : RedisAlike userId redis offline)

include alike

theorem read_others {other : UserId} (differs : other ≠ userId) (key : StatusKey)
    (keys : StatusKeys) :
    keys.read offline other key = keys.read redis other key := by
  cases key with
  | sessions => simp only [StatusKeys.read, alike.sessionCount differs]
  | preference => simp only [StatusKeys.read, alike.preferenceOf differs]
  | lastActivity => simp only [StatusKeys.read, alike.lastActivityMs differs]

theorem readAll_others {other : UserId} (differs : other ≠ userId) (keys : StatusKeys) :
    keys.readAll offline other = keys.readAll redis other := by
  simp only [StatusKeys.readAll, read_others alike differs]

theorem KeysGone.read (key : StatusKey) {keys keysOffline : StatusKeys}
    (gone : KeysGone keys keysOffline) :
    KeysGone (keys.read redis userId key) (keysOffline.read offline userId key) := by
  obtain ⟨sessions, lastMs⟩ := gone
  cases key with
  | sessions =>
    refine ⟨?_, lastMs⟩
    simp only [StatusKeys.read, sessions, alike.sessionCount_offline]
    cases keys.sessions <;> rfl
  | preference => exact ⟨sessions, lastMs⟩
  | lastActivity =>
    refine ⟨sessions, ?_⟩
    simp only [StatusKeys.read, lastMs, alike.lastActivityMs_offline]
    cases keys.lastMs <;> rfl

theorem RowAlike.read (key : StatusKey) {row other : UserId × StatusKeys}
    (rowAlike : RowAlike userId row other) :
    RowAlike userId (row.1, row.2.read redis row.1 key)
      (other.1, other.2.read offline other.1 key) where
  user := rowAlike.user
  others differs := by
    dsimp only
    rw [rowAlike.user, rowAlike.others differs, read_others alike differs]
  own same := by
    dsimp only
    rw [rowAlike.user, same]
    exact (rowAlike.own same).read alike key

theorem RowAlike.readAll {row other : UserId × StatusKeys} (rowAlike : RowAlike userId row other) :
    RowAlike userId (row.1, row.2.readAll redis row.1) (other.1, other.2.readAll offline other.1) :=
  ((rowAlike.read alike .sessions).read alike .preference).read alike .lastActivity

end

theorem rowsAlike_unread (userIds : List UserId) :
    Forall₂ (RowAlike userId) (unread userIds) (unread userIds) :=
  forall₂_same.mpr fun row present => by
    obtain ⟨other, -, rfl⟩ := mem_map.mp present
    exact ⟨rfl, fun _ => rfl, fun _ => ⟨rfl, rfl⟩⟩

theorem rowsAlike_readOne (alike : RedisAlike userId redis offline) (other : UserId)
    (key : StatusKey) (rowsAlike : Forall₂ (RowAlike userId) rows others) :
    Forall₂ (RowAlike userId) (rows.readOne redis other key)
      (others.readOne offline other key) := by
  refine forall₂_map_left_iff.mpr (forall₂_map_right_iff.mpr (rowsAlike.imp ?_))
  intro row rowOffline rowAlike
  rw [rowAlike.user]
  split
  · exact rowAlike.user ▸ rowAlike.read alike key
  · exact rowAlike

theorem rowsAlike_readAll (alike : RedisAlike userId redis offline)
    (rowsAlike : Forall₂ (RowAlike userId) rows others) :
    Forall₂ (RowAlike userId) (rows.readAll redis) (others.readAll offline) :=
  forall₂_map_left_iff.mpr
    (forall₂_map_right_iff.mpr (rowsAlike.imp fun _ _ rowAlike => rowAlike.readAll alike))

/-- Reading goes on in the same way for the rows of the others. -/
theorem without_map {change changeOffline : UserId × StatusKeys → UserId × StatusKeys}
    (keeps : ∀ row, (change row).1 = row.1)
    (same : ∀ row : UserId × StatusKeys, row.1 ≠ userId → changeOffline row = change row)
    (rows : StatusRows) :
    without userId (rows.map change) = (rows.without userId).map changeOffline := by
  induction rows with
  | nil => rfl
  | cons row rows ih =>
    unfold without at ih ⊢
    rw [map_cons]
    by_cases isUser : row.1 = userId
    · rw [filter_cons_of_neg (by simp [keeps, isUser]), filter_cons_of_neg (by simp [isUser]), ih]
    · rw [filter_cons_of_pos (by simp [keeps, isUser]),
        filter_cons_of_pos (by simp [isUser]), map_cons, ih,
        same row isUser]

theorem without_unread (userIds : List UserId) :
    without userId (.unread userIds) = .unread (userIds.filter fun other => other ≠ userId) := by
  unfold without unread
  rw [filter_map]
  rfl

section

variable (alike : RedisAlike userId redis offline)

include alike

theorem without_readOne (other : UserId) (key : StatusKey) (rows : StatusRows) :
    (rows.readOne redis other key).without userId =
      (rows.without userId).readOne offline other key := by
  refine without_map ?_ ?_ rows
  · intro row
    split <;> rfl
  · intro row differs
    rw [read_others alike differs]

theorem without_countAll (rows : StatusRows) :
    (rows.countAll redis).without userId = (rows.without userId).countAll offline := by
  refine without_map ?_ ?_ rows
  · exact fun _ => rfl
  · intro row differs
    rw [read_others alike differs]

theorem without_readAll (rows : StatusRows) :
    (rows.readAll redis).without userId = (rows.without userId).readAll offline := by
  refine without_map ?_ ?_ rows
  · exact fun _ => rfl
  · intro row differs
    rw [readAll_others alike differs]

end

/-- The users of some of the rows, without the user. -/
theorem map_filter_without (condition : UserId × StatusKeys → Bool) (rows : StatusRows) :
    ((rows.without userId).filter condition).map Prod.fst =
      ((rows.filter condition).map Prod.fst).filter fun other => other ≠ userId := by
  unfold without
  rw [filter_filter, filter_map, filter_filter]
  congr 1
  refine filter_congr fun row _ => ?_
  exact Bool.and_comm _ _

theorem alive_without (rows : StatusRows) :
    (rows.without userId).alive = rows.alive.filter fun other => other ≠ userId :=
  map_filter_without _ rows

theorem mem_toRemove_without (rows : StatusRows) {other : UserId} (differs : other ≠ userId) :
    other ∈ rows.toRemove ↔ other ∈ (rows.without userId).toRemove := by
  unfold toRemove
  rw [map_filter_without, mem_filter]
  simp [differs]

end Rows

end Bongtalk.Realtime.Presence
