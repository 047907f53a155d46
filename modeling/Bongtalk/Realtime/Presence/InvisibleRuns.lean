import Bongtalk.Realtime.Presence.Invisibility

/-!
# What an invisible user gives away

Step by step, both worlds show the same exactly when the condition on the step is met in the world
where the user stays connected.
-/

namespace Bongtalk.Realtime.Presence

open Library Prisma WritePhase List Function

variable {redis redisOffline : PresenceState}

variable {config : GatewayConfig} {userId : UserId} {world offline : PresenceWorld}

/-- A step in both worlds: the worlds stay alike when others see the same, and they do when the
condition is met. -/
structure StepsAlike (config : GatewayConfig) (userId : UserId) (world : PresenceWorld)
    (event : PresenceEvent) (next : PresenceWorld × PresenceWorld) : Prop where
  alike : SeenAlike userId next → WorldsAlike userId next
  exact : SeenAlike userId next ↔ event.Fits config userId world

section Requests

/-- A request writes to Redis, to the database and to the throttler. -/
theorem write_frame (config : GatewayConfig) (phase : WritePhase) (owner : UserId)
    (world : PresenceWorld) :
    (phase.write config owner world).writes = world.writes ∧
      (phase.write config owner world).queries = world.queries ∧
        (phase.write config owner world).broadcasts = world.broadcasts := by
  cases phase <;> exact ⟨rfl, rfl, rfl⟩

theorem SeenAlike.of_frame (seen : SeenAlike userId (world, offline))
    {next nextOffline : PresenceWorld}
    (frame : next.writes = world.writes ∧ next.queries = world.queries ∧
      next.broadcasts = world.broadcasts)
    (frameOffline : nextOffline.writes = offline.writes ∧ nextOffline.queries = offline.queries ∧
      nextOffline.broadcasts = offline.broadcasts) : SeenAlike userId (next, nextOffline) := by
  obtain ⟨writes, queries, broadcasts⟩ := frame
  obtain ⟨writesOffline, queriesOffline, broadcastsOffline⟩ := frameOffline
  refine ⟨fun other number => ?_, fun viewer number differs => ?_, fun workspaceId number => ?_⟩
  · rw [writes, writesOffline]
    exact seen.updates other number
  · rw [queries, queriesOffline]
    exact seen.queries viewer number differs
  · rw [broadcasts, broadcastsOffline]
    exact seen.broadcasts workspaceId number

/-- A request that is not there goes nowhere. -/
theorem setWrite_absent {number : Nat} (gone : offline.writes userId number = .absent) :
    offline.setWrite userId number .absent = offline := by
  unfold PresenceWorld.setWrite
  rw [← gone, update_entry_self]

theorem shown_next_iff {phase : WritePhase} (unshown : phase.shownToOthers userId = none)
    (viewers : List UserId) :
    (phase.next config userId world viewers).shownToOthers userId = none ↔
      ∀ real updatedAt, phase = .emit real updatedAt → ∀ viewer ∈ viewers, viewer = userId := by
  cases phase with
  | emit real updatedAt =>
    simp [WritePhase.next, shownToOthers]
  | updated shown updatedAt => simpa [WritePhase.next] using unshown
  | touch workspaceIds nowMs wasIdle =>
    cases wasIdle <;> simp [WritePhase.next, shownToOthers]
  | setPreference workspaceIds preference | finalizeCount workspaceIds armedGraceEpoch
  | finalizeEpoch workspaceIds armedGraceEpoch | finalizeRemove workspaceIds =>
    simp only [WritePhase.next]
    split <;> simp [shownToOthers]
  | _ => simp [WritePhase.next, shownToOthers]

theorem shown_readKey (key : StatusKey) (owner : UserId) (phase : WritePhase) :
    (phase.readKey owner world key).shownToOthers userId = phase.shownToOthers userId := by
  cases phase <;> rfl

theorem shown_begin (request : WriteRequest) : request.begin.shownToOthers userId = none := by
  cases request <;> rfl

variable (alike : WorldsAlike userId (world, offline))

include alike

variable (seen : SeenAlike userId (world, offline))

include seen

/-- The user makes a request, in the one world. -/
theorem steps_requestOwn (number : Nat) (request : WriteRequest) :
    StepsAlike config userId world (.request userId number request)
      (world.next config (.request userId number request), offline) := by
  unfold PresenceWorld.next
  dsimp only
  split
  · exact ⟨fun _ => alike.setWriteOwn number _, iff_of_true
      ((seen_setWriteOwn_iff seen (alike.gone number)).mpr (shown_begin request)) trivial⟩
  · exact ⟨fun _ => alike, iff_of_true seen trivial⟩

theorem steps_request {other : UserId} (differs : other ≠ userId) (number : Nat)
    (request : WriteRequest) :
    StepsAlike config userId world (.request other number request)
      (world.next config (.request other number request),
        offline.next config (.request other number request)) := by
  have same : offline.writes other = world.writes other := alike.writes other differs
  unfold PresenceWorld.next
  dsimp only
  rw [same]
  split
  · exact ⟨fun _ => alike.setWrite differs number _,
      iff_of_true (seen.setWrite other number _) trivial⟩
  · exact ⟨fun _ => alike, iff_of_true seen trivial⟩

theorem steps_advanceOwn (number : Nat) (viewers : List UserId) :
    StepsAlike config userId world (.advance userId number viewers)
      (world.next config (.advance userId number viewers),
        offline.next config (.advance userId number viewers)) := by
  have gone : offline.writes userId number = .absent := alike.gone number
  have stays : offline.next config (.advance userId number viewers) = offline := by
    unfold PresenceWorld.next
    dsimp only
    rw [gone]
    exact setWrite_absent gone
  have unshown : (world.writes userId number).shownToOthers userId = none := by
    have shown := seen.updates userId number
    rw [gone] at shown
    exact shown.symm
  rw [stays]
  refine ⟨fun _ => (alike.writeOwn _).setWriteOwn number _, ?_⟩
  have seenWritten := seen.of_frame
    (write_frame config (world.writes userId number) userId world) ⟨rfl, rfl, rfl⟩
  refine (seen_setWriteOwn_iff seenWritten gone).trans ((shown_next_iff unshown viewers).trans ?_)
  exact ⟨fun reaches _ => reaches, fun fits => fits rfl⟩

theorem steps_advance {other : UserId} (differs : other ≠ userId) (number : Nat)
    (viewers : List UserId) :
    StepsAlike config userId world (.advance other number viewers)
      (world.next config (.advance other number viewers),
        offline.next config (.advance other number viewers)) := by
  have same : offline.writes other = world.writes other := alike.writes other differs
  unfold PresenceWorld.next
  dsimp only
  rw [same, alike.next_write differs]
  refine ⟨fun _ => (alike.write differs _).setWrite differs number _, ?_⟩
  refine iff_of_true (SeenAlike.setWrite ?_ other number _) fun isUser => absurd isUser differs
  exact seen.of_frame (write_frame config _ other world) (write_frame config _ other offline)

theorem steps_readOwn (other : UserId) (number : Nat) (key : StatusKey) :
    StepsAlike config userId world (.readOwn other number key)
      (world.next config (.readOwn other number key),
        offline.next config (.readOwn other number key)) := by
  by_cases isUser : other = userId
  · subst isUser
    have gone : offline.writes other number = .absent := alike.gone number
    have stays : offline.next config (.readOwn other number key) = offline := by
      unfold PresenceWorld.next
      dsimp only
      rw [gone]
      exact setWrite_absent gone
    rw [stays]
    refine ⟨fun _ => alike.setWriteOwn number _, iff_of_true ?_ trivial⟩
    apply (seen_setWriteOwn_iff seen gone).mpr
    rw [shown_readKey, ← seen.updates other number, gone]
    rfl
  · have same : offline.writes other = world.writes other := alike.writes other isUser
    unfold PresenceWorld.next
    dsimp only
    rw [same, alike.readKey_write isUser]
    exact ⟨fun _ => alike.setWrite isUser number _,
      iff_of_true (seen.setWrite other number _) trivial⟩

end Requests

/-- Leaving the user out changes nothing when the user is not there. -/
theorem others_eq_self_iff {members : List UserId} :
    (members.filter fun member => member ≠ userId) = members ↔ userId ∉ members := by
  rw [filter_eq_self]
  constructor
  · intro all present
    simpa using all userId present
  · intro absent member present
    simpa using fun isUser : member = userId => absent (isUser ▸ present)

section Queries

variable {phase phaseOffline : QueryPhase}

variable {now : Nat}

theorem status_gone {config : PresenceConfig} {keys keysOffline : StatusKeys}
    (gone : KeysGone keys keysOffline) : keysOffline.status config now = .offline := by
  apply if_pos
  rw [gone.sessions]
  cases keys.sessions <;> rfl

theorem masked_eq_offline_iff {config : PresenceConfig} {keys : StatusKeys} :
    maskPresenceForViewer (keys.status config now) false = .offline ↔
      keys.sessions.getD 0 = 0 ∨ keys.preference.getD .auto = .invisible := by
  unfold StatusKeys.status
  split
  next none => exact iff_of_true rfl (.inl none)
  next some =>
    split
    next isInvisible => exact iff_of_true rfl (.inr isInvisible)
    next isDnd => simp [maskPresenceForViewer, some, isDnd]
    next isAuto =>
      split <;> simp [maskPresenceForViewer, some, isAuto]

theorem updatedAt_eq_now_iff {keys : StatusKeys} :
    (keys.lastMs.getD none).getD now = now ↔
      ∀ lastMs, keys.lastMs = some (some lastMs) → lastMs = now := by
  rcases keys.lastMs with _ | _ | lastMs <;> simp

/-- The entry of the user is the one of a user who is gone. -/
theorem entry_eq_iff {config : PresenceConfig} {keys keysOffline : StatusKeys}
    (gone : KeysGone keys keysOffline) :
    (maskPresenceForViewer (keysOffline.status config now) false =
        maskPresenceForViewer (keys.status config now) false ∧
      (keysOffline.lastMs.getD none).getD now = (keys.lastMs.getD none).getD now) ↔
        keys.LooksGone now := by
  have lastMs : keysOffline.lastMs.getD none = none := by
    rw [gone.lastMs]
    cases keys.lastMs <;> rfl
  rw [status_gone gone, lastMs]
  apply and_congr
  · exact eq_comm.trans masked_eq_offline_iff
  · exact eq_comm.trans updatedAt_eq_now_iff

/-- So the answers to another user are the same when the entries of the user are. -/
theorem entries_eq_iff {config : PresenceConfig} {viewer : UserId} (differs : viewer ≠ userId)
    {rows others : StatusRows} (rowsAlike : Forall₂ (RowAlike userId) rows others) :
    others.entries config now viewer = rows.entries config now viewer ↔
      ∀ keys, (userId, keys) ∈ rows → keys.LooksGone now := by
  unfold StatusRows.entries
  induction rowsAlike with
  | nil => simp
  | @cons row other rows others rowAlike _ ih =>
    obtain ⟨user, keys⟩ := row
    obtain ⟨same, othersSame, own⟩ := rowAlike
    rw [map_cons, map_cons, List.cons.injEq, ih, PresenceEntry.mk.injEq]
    by_cases isUser : user = userId
    · subst isUser
      have notSelf : (user == viewer) = false := beq_eq_false_iff_ne.mpr differs.symm
      simp only at same
      rw [same, notSelf, eq_self, true_and, entry_eq_iff (own rfl)]
      constructor
      · rintro ⟨looksGone, rest⟩ entry present
        rcases mem_cons.mp present with isFirst | inRest
        · cases isFirst
          exact looksGone
        · exact rest entry inRest
      · exact fun all => ⟨all keys mem_cons_self,
          fun entry present => all entry (mem_cons_of_mem _ present)⟩
    · rw [same, othersSame isUser]
      simp only [true_and, mem_cons, Prod.mk.injEq]
      refine forall_congr' fun entry => ?_
      simp [Ne.symm isUser]

theorem answered_next_iff (phases : QueryPhase.Alike userId phase phaseOffline)
    (redisAlike : RedisAlike userId redis redisOffline) {viewer : UserId}
    (differs : viewer ≠ userId) (seen : phaseOffline.answered = phase.answered) :
    (phaseOffline.next config viewer redisOffline).answered =
        (phase.next config viewer redis).answered ↔
      (∀ set workspaceId rows, phase = .removing set workspaceId rows → userId ∉ rows.alive) ∧
        ∀ rows, phase = .replying rows →
          ∀ keys, (userId, keys) ∈ rows → keys.LooksGone redis.now := by
  cases phases with
  | removing set workspaceId rows =>
    have same : (rows.without userId).alive = rows.alive ↔ userId ∉ rows.alive := by
      rw [alive_without, others_eq_self_iff]
    simp only [QueryPhase.next, QueryPhase.answered, Option.some.injEq, Sum.inl.injEq, same]
    constructor
    · intro absent
      refine ⟨?_, by rintro _ ⟨⟩⟩
      rintro _ _ _ ⟨⟩
      exact absent
    · exact fun fits => fits.1 set workspaceId rows rfl
  | replying rowsAlike =>
    simp only [QueryPhase.next, QueryPhase.answered, redisAlike.now, Option.some.injEq,
      Sum.inr.injEq, entries_eq_iff differs rowsAlike]
    constructor
    · intro looksGone
      refine ⟨by rintro _ _ _ ⟨⟩, ?_⟩
      rintro _ ⟨⟩
      exact looksGone
    · exact fun fits => fits.2 _ rfl
  | members userIds others | bulk entries others =>
    exact iff_of_true seen ⟨by rintro _ _ _ ⟨⟩, by rintro _ ⟨⟩⟩
  | _ => exact iff_of_true rfl ⟨by rintro _ _ _ ⟨⟩, by rintro _ ⟨⟩⟩

theorem begin_alike (query : Query) : QueryPhase.Alike userId query.begin query.begin := by
  cases query with
  | members set workspaceId => exact .smembers set workspaceId
  | bulkFor userIds => exact .reading (rowsAlike_unread userIds.eraseDups)

variable (alike : WorldsAlike userId (world, offline))

include alike

theorem steps_query (seen : SeenAlike userId (world, offline)) (viewer : UserId) (number : Nat)
    (query : Query) :
    StepsAlike config userId world (.query viewer number query)
      (world.next config (.query viewer number query),
        offline.next config (.query viewer number query)) := by
  have begins : StepsAlike config userId world (.query viewer number query)
      (world.setQuery viewer number query.begin, offline.setQuery viewer number query.begin) :=
    ⟨fun _ => alike.setQuery viewer number (begin_alike query),
      iff_of_true ((seen_setQuery_iff seen).mpr fun _ => rfl) trivial⟩
  have stays : StepsAlike config userId world (.query viewer number query) (world, offline) :=
    ⟨fun _ => alike, iff_of_true seen trivial⟩
  have phases := alike.queries viewer number
  unfold PresenceWorld.next
  dsimp only
  generalize world.queries viewer number = phase at phases
  generalize offline.queries viewer number = phaseOffline at phases
  cases phases with
  | absent => exact begins
  | _ => exact stays

theorem steps_answer (seen : SeenAlike userId (world, offline)) (viewer : UserId) (number : Nat) :
    StepsAlike config userId world (.answer viewer number)
      (world.next config (.answer viewer number), offline.next config (.answer viewer number)) := by
  have phases : QueryPhase.Alike userId (world.queries viewer number)
      (offline.queries viewer number) := alike.queries viewer number
  have redis : RedisAlike userId world.redis offline.redis := alike.redis
  refine ⟨fun _ => ?_, ?_⟩
  · exact (alike.setRedis (phases.write redis)).setQuery viewer number (phases.next redis)
  · have seenWritten : SeenAlike userId
        ({ world with redis := (world.queries viewer number).write world.redis },
          { offline with redis := (offline.queries viewer number).write offline.redis }) :=
      seen.of_frame ⟨rfl, rfl, rfl⟩ ⟨rfl, rfl, rfl⟩
    refine (seen_setQuery_iff seenWritten).trans (forall_congr' fun differs => ?_)
    exact answered_next_iff phases redis differs (seen.queries viewer number differs)

omit alike in
theorem answered_readKey (redis : PresenceState) (other : UserId) (key : StatusKey)
    (phase : QueryPhase) : (phase.readKey redis other key).answered = phase.answered := by
  cases phase <;> rfl

theorem steps_readFor (seen : SeenAlike userId (world, offline)) (viewer : UserId) (number : Nat)
    (other : UserId) (key : StatusKey) :
    StepsAlike config userId world (.readFor viewer number other key)
      (world.next config (.readFor viewer number other key),
        offline.next config (.readFor viewer number other key)) := by
  refine ⟨fun _ => ?_, iff_of_true ?_ trivial⟩
  · exact alike.setQuery viewer number ((alike.queries viewer number).readKey alike.redis other key)
  · refine (seen_setQuery_iff seen).mpr fun differs => ?_
    rw [answered_readKey, answered_readKey]
    exact seen.queries viewer number differs

end Queries

section Broadcasts

variable {phase phaseOffline : BroadcastPhase}

theorem users_without (rows : StatusRows) :
    (rows.without userId).map Prod.fst =
      (rows.map Prod.fst).filter fun member => member ≠ userId := by
  rw [filter_map]
  rfl

theorem without_eq_self {rows : StatusRows} (absent : userId ∉ rows.map Prod.fst) :
    rows.without userId = rows := by
  refine filter_eq_self.mpr fun row present => ?_
  simpa using fun isUser : row.1 = userId => absent (isUser ▸ mem_map_of_mem present)

theorem sentOut_next_iff (phases : BroadcastPhase.Alike userId phase phaseOffline)
    (redisAlike : RedisAlike userId redis redisOffline) (workspaceId : WorkspaceId)
    (seen : phaseOffline.sentOut = phase.sentOut) :
    (phaseOffline.next config workspaceId redisOffline).sentOut =
        (phase.next config workspaceId redis).sentOut ↔
      ∀ dnd online, phase = .emit dnd online → userId ∉ dnd ∧ userId ∉ online.map Prod.fst := by
  cases phases with
  | emit dnd online =>
    simp only [BroadcastPhase.next, BroadcastPhase.sentOut, redisAlike.now, Option.some.injEq,
      WorkspacePresenceUpdatedPayload.mk.injEq, users_without, others_eq_self_iff]
    constructor
    · rintro ⟨noneOnline, noneDnd, -⟩ _ _ ⟨⟩
      exact ⟨noneDnd, noneOnline⟩
    · intro fits
      obtain ⟨noneDnd, noneOnline⟩ := fits dnd online rfl
      exact ⟨noneOnline, noneDnd, by rw [without_eq_self noneOnline]⟩
  | sent payload other => exact iff_of_true seen (by rintro _ _ ⟨⟩)
  | _ => exact iff_of_true rfl (by rintro _ _ ⟨⟩)

theorem sentOut_readKey (redis : PresenceState) (set : WorkspaceSet) (other : UserId)
    (key : StatusKey) (phase : BroadcastPhase) :
    (phase.readKey redis set other key).sentOut = phase.sentOut := by
  cases phase with
  | counting online dnd => cases set <;> rfl
  | _ => rfl

theorem steps_send (alike : WorldsAlike userId (world, offline))
    (seen : SeenAlike userId (world, offline)) (workspaceId : WorkspaceId) (number : Nat) :
    StepsAlike config userId world (.send workspaceId number)
      (world.next config (.send workspaceId number),
        offline.next config (.send workspaceId number)) := by
  have phases : BroadcastPhase.Alike userId (world.broadcasts workspaceId number)
      (offline.broadcasts workspaceId number) := alike.broadcasts workspaceId number
  have redis : RedisAlike userId world.redis offline.redis := alike.redis
  refine ⟨fun _ => ?_, ?_⟩
  · exact (alike.setRedis (phases.write redis)).setBroadcast workspaceId number (phases.next redis)
  · have seenWritten : SeenAlike userId
        ({ world with redis := (world.broadcasts workspaceId number).write workspaceId world.redis },
          { offline with
            redis := (offline.broadcasts workspaceId number).write workspaceId offline.redis }) :=
      seen.of_frame ⟨rfl, rfl, rfl⟩ ⟨rfl, rfl, rfl⟩
    apply (seen_setBroadcast_iff seenWritten).trans
    exact sentOut_next_iff phases redis workspaceId (seen.broadcasts workspaceId number)

theorem steps_readIn (alike : WorldsAlike userId (world, offline))
    (seen : SeenAlike userId (world, offline)) (workspaceId : WorkspaceId) (number : Nat)
    (set : WorkspaceSet) (other : UserId) (key : StatusKey) :
    StepsAlike config userId world (.readIn workspaceId number set other key)
      (world.next config (.readIn workspaceId number set other key),
        offline.next config (.readIn workspaceId number set other key)) := by
  refine ⟨fun _ => ?_, iff_of_true ?_ trivial⟩
  · exact alike.setBroadcast workspaceId number
      ((alike.broadcasts workspaceId number).readKey alike.redis set other key)
  · apply (seen_setBroadcast_iff seen).mpr
    rw [sentOut_readKey, sentOut_readKey]
    exact seen.broadcasts workspaceId number

/-- Others have waited when the user and others have waited. -/
theorem isDue_of_others {now : Nat} {pending : List ScheduleCall}
    (due : isDue config now (othersCalls userId pending) = true) :
    isDue config now pending = true := by
  obtain ⟨call, present, waited⟩ := any_eq_true.mp due
  exact any_eq_true.mpr ⟨call, (mem_filter.mp present).1, waited⟩

variable (alike : WorldsAlike userId (world, offline))

include alike

theorem WorldsAlike.flush (workspaceId : WorkspaceId) :
    WorldsAlike userId ({ world with pending := update world.pending workspaceId [] },
      { offline with pending := update offline.pending workspaceId [] }) := by
  refine { alike with pending := fun other => ?_ }
  dsimp only
  by_cases same : other = workspaceId
  · subst same
    rw [update_self, update_self]
    rfl
  · rw [update_of_ne same, update_of_ne same]
    exact alike.pending other

theorem steps_flush (seen : SeenAlike userId (world, offline)) (workspaceId : WorkspaceId)
    (number : Nat) :
    StepsAlike config userId world (.flush workspaceId number)
      (world.next config (.flush workspaceId number),
        offline.next config (.flush workspaceId number)) := by
  have phases : BroadcastPhase.Alike userId (world.broadcasts workspaceId number)
      (offline.broadcasts workspaceId number) := alike.broadcasts workspaceId number
  have pending : offline.pending workspaceId = othersCalls userId (world.pending workspaceId) :=
    alike.pending workspaceId
  have now : offline.redis.now = world.redis.now := alike.redis.now
  unfold PresenceWorld.next
  dsimp only
  generalize isPhase : world.broadcasts workspaceId number = phase at phases ⊢
  generalize isPhaseOffline : offline.broadcasts workspaceId number = phaseOffline at phases ⊢
  cases phases with
  | absent =>
    dsimp only
    rw [pending, now]
    by_cases othersWait :
        isDue config world.redis.now (othersCalls userId (world.pending workspaceId)) = true
    · rw [if_pos (isDue_of_others othersWait), if_pos othersWait]
      refine ⟨fun _ => ?_, iff_of_true ?_ fun _ _ => othersWait⟩
      · exact (alike.flush workspaceId).setBroadcast workspaceId number .onlineMembers
      · have flushed : SeenAlike userId
            ({ world with pending := update world.pending workspaceId [] },
              { offline with pending := update offline.pending workspaceId [] }) :=
          seen.of_frame ⟨rfl, rfl, rfl⟩ ⟨rfl, rfl, rfl⟩
        exact (seen_setBroadcast_iff flushed).mpr rfl
    · rw [if_neg othersWait]
      split
      next due =>
        have differ : ¬SeenAlike userId
            ({ world with pending := update world.pending workspaceId [] }.setBroadcast
              workspaceId number .onlineMembers, offline) := by
          intro seenNext
          have sentOut := seenNext.broadcasts workspaceId number
          dsimp only [PresenceWorld.setBroadcast] at sentOut
          rw [update_entry, isPhaseOffline] at sentOut
          cases sentOut
        exact ⟨fun seenNext => absurd seenNext differ,
          iff_of_false differ fun fits => othersWait (fits isPhase due)⟩
      next early =>
        exact ⟨fun _ => alike, iff_of_true seen fun _ due => absurd due early⟩
  | _ =>
    refine ⟨fun _ => alike, iff_of_true seen fun isAbsent => ?_⟩
    rw [isPhase] at isAbsent
    cases isAbsent

theorem steps_tick (seen : SeenAlike userId (world, offline)) (elapsed : Nat) :
    StepsAlike config userId world (.tick elapsed)
      (world.next config (.tick elapsed), offline.next config (.tick elapsed)) :=
  ⟨fun _ => alike.setRedis (alike.redis.tick elapsed),
    iff_of_true (seen.of_frame ⟨rfl, rfl, rfl⟩ ⟨rfl, rfl, rfl⟩) trivial⟩

end Broadcasts

theorem steps_mirrored {worlds next : PresenceWorld × PresenceWorld} {event : PresenceEvent}
    (mirrored : Mirrored config userId worlds event next) (alike : WorldsAlike userId worlds)
    (seen : SeenAlike userId worlds) : StepsAlike config userId worlds.1 event next := by
  obtain ⟨world, offline⟩ := worlds
  obtain rfl := mirrored
  cases event with
  | request other number request =>
    by_cases isUser : other = userId
    · subst isUser
      simp only [PresenceEvent.isFrom, beq_self_eq_true, if_true]
      exact steps_requestOwn alike seen number request
    · simp only [PresenceEvent.isFrom, beq_eq_false_iff_ne.mpr isUser, Bool.false_eq_true, if_false]
      exact steps_request alike seen isUser number request
  | advance other number viewers =>
    by_cases isUser : other = userId
    · subst isUser
      exact steps_advanceOwn alike seen number viewers
    · exact steps_advance alike seen isUser number viewers
  | tick elapsed => exact steps_tick alike seen elapsed
  | readOwn other number key => exact steps_readOwn alike seen other number key
  | query viewer number query => exact steps_query alike seen viewer number query
  | answer viewer number => exact steps_answer alike seen viewer number
  | readFor viewer number other key => exact steps_readFor alike seen viewer number other key
  | flush workspaceId number => exact steps_flush alike seen workspaceId number
  | send workspaceId number => exact steps_send alike seen workspaceId number
  | readIn workspaceId number set other key =>
    exact steps_readIn alike seen workspaceId number set other key

section Parting

/-- The worlds when they part: the user is disconnected in the second, and what others are shown is
compared from now on. -/
structure Parted (userId : UserId) (worlds : PresenceWorld × PresenceWorld) : Prop where
  redis : RedisAlike userId worlds.1.redis worlds.2.redis
  stored : ∀ other, other ≠ userId → worlds.2.stored other = worlds.1.stored other
  pending : ∀ workspaceId,
    worlds.2.pending workspaceId = othersCalls userId (worlds.1.pending workspaceId)
  writes : ∀ other, other ≠ userId → worlds.2.writes other = worlds.1.writes other
  gone : ∀ number, worlds.2.writes userId number = .absent
  unshown : ∀ number, (worlds.1.writes userId number).shownToOthers userId = none
  queries : ∀ viewer number,
    worlds.1.queries viewer number = .absent ∧ worlds.2.queries viewer number = .absent
  broadcasts : ∀ workspaceId number,
    worlds.1.broadcasts workspaceId number = .absent ∧
      worlds.2.broadcasts workspaceId number = .absent

variable {worlds : PresenceWorld × PresenceWorld}

theorem Parted.alike (parted : Parted userId worlds) : WorldsAlike userId worlds := by
  obtain ⟨redis, stored, pending, writes, gone, -, queries, broadcasts⟩ := parted
  refine ⟨redis, stored, pending, writes, gone, fun viewer number => ?_,
    fun workspaceId number => ?_⟩
  · rw [(queries viewer number).1, (queries viewer number).2]
    exact .absent
  · rw [(broadcasts workspaceId number).1, (broadcasts workspaceId number).2]
    exact .absent

theorem Parted.seen (parted : Parted userId worlds) : SeenAlike userId worlds := by
  refine ⟨fun other number => ?_, fun viewer number _ => ?_, fun workspaceId number => ?_⟩
  · by_cases isUser : other = userId
    · rw [isUser, parted.gone, parted.unshown]
      rfl
    · rw [parted.writes other isUser]
  · rw [(parted.queries viewer number).1, (parted.queries viewer number).2]
  · rw [(parted.broadcasts workspaceId number).1, (parted.broadcasts workspaceId number).2]

/-- The sessions of a user are unregistered one after the other. -/
def unregisterAll (redis : PresenceState) (userId : UserId) (sessionIds : List PresenceSessionId) :
    PresenceState :=
  sessionIds.foldl (fun redis sessionId => redis.unregister sessionId userId) redis

/-- Sessions of a user have gone, and nothing else. -/
structure Unregistered (userId : UserId) (sessionIds : List PresenceSessionId)
    (redis left : PresenceState) : Prop where
  now : left.now = redis.now
  userSessions : ∀ other, other ≠ userId → left.userSessions other = redis.userSessions other
  remaining : ∀ entry, left.userSessions userId = some entry →
    ∃ held, redis.userSessions userId = some held ∧
      ∀ member ∈ entry.value, member ∈ held.value ∧ member ∉ sessionIds
  preference : left.preference = redis.preference
  lastActivity : left.lastActivity = redis.lastActivity
  graceEpoch : left.graceEpoch = redis.graceEpoch
  sets : left.workspaceSets = redis.workspaceSets

theorem unregistered_unregisterAll (redis : PresenceState) (sessionIds : List PresenceSessionId) :
    Unregistered userId sessionIds redis (unregisterAll redis userId sessionIds) := by
  induction sessionIds generalizing redis with
  | nil =>
    refine ⟨rfl, fun _ _ => rfl, fun entry held => ⟨entry, held, ?_⟩, rfl, rfl, rfl, rfl⟩
    exact fun member present => ⟨present, not_mem_nil⟩
  | cons sessionId sessionIds ih =>
    obtain ⟨now, userSessions, remaining, preference, lastActivity, graceEpoch, sets⟩ :=
      ih (redis.unregister sessionId userId)
    refine ⟨now, fun other differs => ?_, fun entry isLeft => ?_, preference, lastActivity,
      graceEpoch, sets⟩
    · exact (userSessions other differs).trans (update_of_ne differs _ _)
    · obtain ⟨held, isHeld, members⟩ := remaining entry isLeft
      dsimp only [PresenceState.unregister] at isHeld
      rw [update_self] at isHeld
      obtain ⟨before, isBefore, rfl⟩ := Option.map_eq_some_iff.mp isHeld
      refine ⟨before, isBefore, fun member present => ?_⟩
      obtain ⟨inFiltered, notRest⟩ := members member present
      obtain ⟨inBefore, notFirst⟩ := mem_filter.mp inFiltered
      refine ⟨inBefore, fun gone => ?_⟩
      rcases mem_cons.mp gone with isFirst | inRest
      · exact of_decide_eq_true notFirst isFirst
      · exact notRest inRest

/-- Redis once all sessions of a user are unregistered and the grace period is over. -/
theorem redisAlike_disconnected {redis : PresenceState} {sessionIds : List PresenceSessionId}
    {workspaceIds : List WorkspaceId}
    (all : ∀ entry, redis.userSessions userId = some entry → entry.value ⊆ sessionIds)
    (within : ∀ set workspaceId, userId ∈ redis.workspaceSets set workspaceId →
      workspaceId ∈ workspaceIds) :
    RedisAlike userId redis
      ((unregisterAll redis userId sessionIds).finalizeOffline userId workspaceIds) := by
  obtain ⟨now, userSessions, remaining, preference, lastActivity, graceEpoch, sets⟩ :
      Unregistered userId sessionIds redis (unregisterAll redis userId sessionIds) :=
    unregistered_unregisterAll redis sessionIds
  refine ⟨now, userSessions, fun entry isLeft => ?_, fun other _ => congrFun preference other,
    fun other differs => ?_, update_self _ _ _, fun other _ => congrFun graceEpoch other,
    fun set workspaceId => ?_⟩
  · obtain ⟨held, isHeld, members⟩ := remaining entry isLeft
    refine eq_nil_iff_forall_not_mem.mpr fun member present => ?_
    obtain ⟨inHeld, notAll⟩ := members member present
    exact notAll (all held isHeld inHeld)
  · exact (update_of_ne differs _ _).trans (congrFun lastActivity other)
  · have unchanged := congrFun (congrFun sets set) workspaceId
    have removed : ((unregisterAll redis userId sessionIds).finalizeOffline userId
        workspaceIds).workspaceSets set workspaceId =
          if workspaceId ∈ workspaceIds then
            (redis.workspaceSets set workspaceId).filter fun member => member ∉ [userId]
          else redis.workspaceSets set workspaceId := by
      dsimp only [PresenceState.finalizeOffline, PresenceState.removeFrom, PresenceState.changeSets]
      cases set <;> simp [unchanged]
    rw [removed]
    split
    · simp
    next outside =>
      exact (others_eq_self_iff.mpr fun present => outside (within set workspaceId present)).symm

end Parting

/-- A user who stays connected gives nothing away exactly in the runs in which no step shows them:
in these, others are shown what they would be shown if the user were disconnected. -/
theorem invisible_like_offline_iff (config : GatewayConfig) {userId : UserId}
    {worlds finish : PresenceWorld × PresenceWorld} {events : List PresenceEvent}
    (parted : Parted userId worlds) :
    Steps (Lawful (Mirrored config userId) (SeenAlike userId)) worlds events finish ↔
      Steps (Guarded (Mirrored config userId) fun worlds event =>
        event.Fits config userId worlds.1) worlds events finish := by
  refine Steps.lawful_iff_guarded_within
    (fun worlds => WorldsAlike userId worlds ∧ SeenAlike userId worlds) ?_ ?_
    ⟨parted.alike, parted.seen⟩ parted.seen
  · rintro worlds event next mirrored ⟨alike, seen⟩ seenNext
    exact ⟨(steps_mirrored mirrored alike seen).alike seenNext, seenNext⟩
  · rintro worlds event next mirrored ⟨alike, -⟩ seen
    exact (steps_mirrored mirrored alike seen).exact

/-- User 1 has connected as invisible. -/
def invisibleRedis : PresenceState :=
  ({} : PresenceState).register {} ⟨⟨1⟩, ⟨1⟩, [⟨1⟩], .invisible⟩ 0

/-- User 1 stays, or is gone. -/
def invisibleOrGone : PresenceWorld × PresenceWorld :=
  ({ redis := invisibleRedis, stored := fun _ => .invisible },
    { redis := (unregisterAll invisibleRedis ⟨1⟩ [⟨1⟩]).finalizeOffline ⟨1⟩ [⟨1⟩]
      stored := fun _ => .invisible })

theorem parted_invisibleOrGone : Parted ⟨1⟩ invisibleOrGone where
  redis := by
    refine redisAlike_disconnected ?_ fun set workspaceId present => ?_
    · rintro entry ⟨⟩
      exact List.Subset.refl _
    · have nobody : invisibleRedis.workspaceSets set workspaceId = [] := by
        simp [invisibleRedis, PresenceState.register, PresenceState.applyPreference,
          PresenceState.withSession, PresenceState.removeFrom, PresenceState.changeSets]
      dsimp only [invisibleOrGone] at present
      rw [nobody] at present
      cases present
  stored := fun _ _ => rfl
  pending := fun _ => rfl
  writes := fun _ _ => rfl
  gone := fun _ => rfl
  unshown := fun _ => rfl
  queries := fun _ _ => ⟨rfl, rfl⟩
  broadcasts := fun _ _ => ⟨rfl, rfl⟩

/-- Activity alone shows nothing. -/
theorem activity_unseen : ∃ finish,
    Steps (Lawful (Mirrored {} ⟨1⟩) (SeenAlike ⟨1⟩)) invisibleOrGone
      [.request ⟨1⟩ 0 (.activity [⟨1⟩])] finish :=
  ⟨_, (invisible_like_offline_iff {} parted_invisibleOrGone).mpr (Steps.refl.step ⟨rfl, trivial⟩)⟩

/-- A second later, user 2 asks for the status of user 1. -/
def askedLater : List PresenceEvent :=
  [.tick 1000, .query ⟨2⟩ 0 (.bulkFor [⟨1⟩]), .answer ⟨2⟩ 0, .answer ⟨2⟩ 0]

/-- The entry of an invisible user says when the user was last active. -/
theorem invisible_updatedAt : Parted ⟨1⟩ invisibleOrGone ∧
    invisibleOrGone.1.redis.effectiveStatus {} ⟨1⟩ = .invisible ∧ ∃ finish,
      Steps (Mirrored {} ⟨1⟩) invisibleOrGone askedLater finish ∧ ¬SeenAlike ⟨1⟩ finish := by
  refine ⟨parted_invisibleOrGone, by decide +kernel, _, steps_mirrored_iff.mpr rfl, fun seen => ?_⟩
  have answered := seen.queries ⟨2⟩ 0 (by decide)
  revert answered
  decide +kernel

end Bongtalk.Realtime.Presence
