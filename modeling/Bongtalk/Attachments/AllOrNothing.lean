import Bongtalk.Attachments.Consistency

/-!
# Completing several sessions

A call of `complete` takes its sessions one by one, each with checks of its own and in a
transaction of its own. A session makes one attachment at most. A call that throws at one session
has created nothing exactly when it is the first one.
-/

namespace Bongtalk.Attachments

open Library EventLoop Common Prisma List Table UploadInput

variable {state : UploadState}

/-- The call that a task belongs to. -/
def UploadTask.callOf : UploadTask → Option CompleteCall
  | .findMessage call _ | .authorize call | .count call _ | .findSession call _ _
  | .headObject call _ _ | .getObjectRange call _ _ _ | .deleteBadObject call _
  | .deleteBadSession call _ | .close call _ _ => some call
  | _ => none

def UploadTask.callId (task : UploadTask) : Option CallId :=
  task.callOf.map CompleteCall.id

/-- A call that has thrown has created no attachment, a session makes one at most, and no session
is closed without. -/
structure AllOrNothing (state : UploadState) : Prop where
  nothing : ∀ answer ∈ state.answers, ∀ failure, answer.2 = .error failure →
    ∀ creation ∈ state.creations, creation.callId ≠ answer.1
  once : (state.creations.map Creation.sessionId).Nodup
  closing : ∀ session ∈ state.sessions, session.completed = true →
    ∃ creation ∈ state.creations, creation.sessionId = session.id

/-- A session that a call may complete, as far as its row tells. -/
def CompleteCall.Finds (call : CompleteCall) (session : UploadSession) : Prop :=
  session.uploaderId = call.uploaderId ∧ session.channelId = call.routeChannelId ∧
    session.completed = false ∧ call.now < session.expiresAt

/-- The object of a session is there, in its size. -/
def HasObject (state : UploadState) (session : UploadSession) : Prop :=
  ∃ object ∈ state.objects, object.key = session.storageKey ∧
    object.bytes.length = session.sizeBytes

/-- What each task of a call needs so that the call does not throw. -/
def CanGoOn (state : UploadState) : UploadTask → Prop
  | .findMessage call messageId => ∃ message ∈ state.messages, message.id = messageId ∧
      message.deletedAt = none ∧ message.channelId = call.routeChannelId
  | .authorize call => state.canUpload call.routeChannelId call.uploaderId = .ok () ∧
      (call.body.messageId = none → call.body.sessions.length ≤ attachmentMaxPerMessage)
  | .count call messageId =>
    state.linkedCount messageId + call.body.sessions.length ≤ attachmentMaxPerMessage
  | .findSession call sessionId _ =>
    ∃ session ∈ state.sessions, session.id = sessionId ∧ call.Finds session
  | .headObject _ session _ => state.storageUp = true ∧ HasObject state session
  | .getObjectRange _ _ _ _ | .deleteBadObject _ _ => state.storageUp = true
  | .deleteBadSession _ _ => False
  | .close _ session _ => state.isOpen session.id = true
  | _ => True

/-- A call that has created an attachment meets nothing that makes it throw. -/
def ThrowsFirst (state : UploadState) (task : UploadTask) : Prop :=
  ∀ call, task.callOf = some call → call.attachmentIds ≠ [] → CanGoOn state task

/-- Nothing has been answered or created. -/
structure SameRecords (state next : UploadState) : Prop where
  answers : next.answers = state.answers
  creations : next.creations = state.creations
  nextCallId : next.nextCallId = state.nextCallId

/-- What a task of a call comes to. -/
inductive CallOutcome (state : UploadState) (call : CompleteCall) (CanGoOn : Prop) :
    UploadState × List UploadTask → Prop where
  | goesOn {next : UploadState} {new : UploadTask} (canGoOn : CanGoOn)
      (same : SameRecords state next) (sameCall : new.callOf = some call) :
      CallOutcome state call CanGoOn (next, [new])
  | returns (canGoOn : CanGoOn) :
      CallOutcome state call CanGoOn (state.answer call (.ok call.attachmentIds), [])
  | throws {next : UploadState} (cannot : ¬CanGoOn) (same : SameRecords state next)
      (failure : Failure) : CallOutcome state call CanGoOn (next.answer call (.error failure), [])
  | creates {next : UploadState} {session : UploadSession} (canGoOn : CanGoOn)
      (ok : state.closeSession call session = .ok next) (rest : List SessionId) :
      CallOutcome state call CanGoOn (next.nextSession
        { call with attachmentIds := call.attachmentIds ++ [⟨state.nextAttachmentId⟩] } rest)

section Checks

variable {call : CompleteCall}

theorem SameRecords.refl : SameRecords state state :=
  ⟨rfl, rfl, rfl⟩

theorem checkMessage_eq_ok_iff {messageId : MessageId} :
    (∃ task, checkMessage state call messageId = .ok task) ↔
      CanGoOn state (.findMessage call messageId) := by
  constructor
  · rintro ⟨task, ok⟩
    rw [checkMessage] at ok
    split at ok
    · exact (failWith_ne_ok ok).elim
    next message found =>
      obtain ⟨isFound, isLive⟩ := Option.mem_filter_iff.mp found
      obtain ⟨present, sameId⟩ := mem_of_findUnique isFound
      exact ⟨message, present, sameId, beq_iff_eq.mp isLive, (checkTarget_eq_ok_iff.mp ok).1⟩
  · rintro ⟨message, present, rfl, isLive, ofChannel⟩
    refine ⟨.authorize call, ?_⟩
    rw [checkMessage, findUnique_of_mem present, Option.filter_some, isLive]
    exact checkTarget_eq_ok_iff.mpr ⟨ofChannel, rfl⟩

theorem checkCount_eq_ok_iff {existingCount : Nat} : checkCount call existingCount = .ok () ↔
    existingCount + call.body.sessions.length ≤ attachmentMaxPerMessage := by
  rw [checkCount, failIf_eq_ok, decide_eq_false_iff_not, Nat.not_lt]

theorem checkSession_eq_ok_iff {sessionId : SessionId} {session : UploadSession} :
    checkSession state call sessionId = .ok session ↔
      session ∈ state.sessions ∧ session.id = sessionId ∧ call.Finds session := by
  rw [checkSession]
  split
  next missing =>
    apply iff_of_false failWith_ne_ok
    rintro ⟨present, rfl, uploader, channel, -⟩
    rw [findUnique_of_mem present, Option.filter_some] at missing
    simp [uploader, channel] at missing
  next found isFound =>
    obtain ⟨foundMem, own⟩ := Option.mem_filter_iff.mp isFound
    obtain ⟨present, sameId⟩ := mem_of_findUnique foundMem
    simp only [Bool.and_eq_true, beq_iff_eq] at own
    rw [check_bind_eq_ok, check_bind_eq_ok, failIf_eq_ok, failIf_eq_ok, Except.ok.injEq,
      decide_eq_false_iff_not]
    constructor
    · rintro ⟨isOpen, inTime, rfl⟩
      exact ⟨present, sameId, own.1, own.2, isOpen, Nat.not_le.mp inTime⟩
    · rintro ⟨sessionMem, isSession, -, -, isOpen, inTime⟩
      obtain rfl := eq_of_key_eq present sessionMem (sameId.trans isSession.symm)
      exact ⟨isOpen, Nat.not_le.mpr inTime, rfl⟩

theorem checkObject_eq_ok_iff {session : UploadSession} : checkObject state session = .ok () ↔
    state.storageUp = true ∧ HasObject state session := by
  rw [checkObject]
  split
  next up =>
    refine Iff.trans ?_ (and_iff_right up).symm
    split
    next missing =>
      apply iff_of_false failWith_ne_ok
      rintro ⟨object, present, sameKey, -⟩
      exact findUnique_eq_none_iff.mp missing object present sameKey
    next object found =>
      obtain ⟨present, sameKey⟩ := mem_of_findUnique found
      rw [failIf_eq_ok, bne_eq_false_iff_eq]
      constructor
      · exact fun sameSize => ⟨object, present, sameKey, sameSize⟩
      · rintro ⟨other, otherMem, otherKey, otherSize⟩
        obtain rfl := eq_of_key_eq present otherMem (sameKey.trans otherKey.symm)
        exact otherSize
  next down => exact iff_of_false (by simp) fun up => down up.1

end Checks

section Outcomes

variable {call : CompleteCall} {toLowerCase : String → String}

/-- A call that goes on by a check does so exactly when the check passes. -/
theorem CallOutcome.of_goOn {CanGoOn : Prop} {next : Except Failure UploadTask}
    (exact : (∃ task, next = .ok task) ↔ CanGoOn)
    (sameCall : ∀ task, next = .ok task → task.callOf = some call) :
    CallOutcome state call CanGoOn (state.goOn call next) := by
  cases next with
  | ok task => exact .goesOn (exact.mp ⟨task, rfl⟩) .refl (sameCall task rfl)
  | error failure =>
    refine .throws (fun canGoOn => ?_) .refl failure
    obtain ⟨task, ok⟩ := exact.mpr canGoOn
    cases ok

theorem CallOutcome.of_nextSession {CanGoOn : Prop} (canGoOn : CanGoOn)
    (sessions : List SessionId) :
    CallOutcome state call CanGoOn (state.nextSession call sessions) := by
  cases sessions with
  | nil => exact .returns canGoOn
  | cons sessionId rest => exact .goesOn canGoOn .refl rfl

theorem map_eq_ok_iff {α β : Type} {answer : Except Failure α} {change : α → β} :
    (∃ result, answer.map change = .ok result) ↔ ∃ value, answer = .ok value := by
  cases answer with
  | error failure => exact iff_of_false (by rintro ⟨result, ⟨⟩⟩) (by rintro ⟨value, ⟨⟩⟩)
  | ok value => exact iff_of_true ⟨change value, rfl⟩ ⟨value, rfl⟩

/-- A task of a call goes on, returns, throws or creates an attachment, and it throws exactly when
it cannot go on. -/
theorem callOutcome_resume (consistent : Consistent state) {task : UploadTask}
    (isOf : task.callOf = some call) :
    CallOutcome state call (CanGoOn state task) (task.resume toLowerCase state) := by
  cases task with
  | findMessage call messageId =>
    cases isOf
    refine .of_goOn checkMessage_eq_ok_iff fun task ok => ?_
    rw [(checkMessage_eq_ok ok).1]
    rfl
  | authorize call =>
    cases isOf
    rw [UploadTask.resume]
    split
    next failure refused =>
      refine .throws (fun canGoOn => ?_) .refl failure
      rw [canGoOn.1] at refused
      cases refused
    next allowed =>
      split
      next messageId named =>
        refine .goesOn ⟨allowed, fun none_ => ?_⟩ .refl rfl
        rw [named] at none_
        cases none_
      next none_ =>
        split
        next failure tooMany =>
          refine .throws (fun canGoOn => ?_) .refl failure
          have fits := canGoOn.2 none_
          rw [checkCount_eq_ok_iff.mpr ((Nat.zero_add _).symm ▸ fits)] at tooMany
          cases tooMany
        next fits =>
          have few := checkCount_eq_ok_iff.mp fits
          rw [Nat.zero_add] at few
          exact .of_nextSession ⟨allowed, fun _ => few⟩ _
  | count call messageId =>
    cases isOf
    rw [UploadTask.resume]
    split
    next failure tooMany =>
      refine .throws (fun canGoOn => ?_) .refl failure
      rw [checkCount_eq_ok_iff.mpr canGoOn] at tooMany
      cases tooMany
    next fits => exact .of_nextSession (checkCount_eq_ok_iff.mp fits) _
  | findSession call sessionId rest =>
    cases isOf
    refine .of_goOn (map_eq_ok_iff.trans ?_) fun task ok => ?_
    · exact exists_congr fun session => checkSession_eq_ok_iff
    · obtain ⟨session, -, rfl⟩ := map_eq_ok ok
      rfl
  | headObject call session rest =>
    cases isOf
    refine .of_goOn (map_eq_ok_iff.trans ?_) fun task ok => ?_
    · refine Iff.trans ⟨?_, fun ok => ⟨(), ok⟩⟩ checkObject_eq_ok_iff
      rintro ⟨⟨⟩, ok⟩
      exact ok
    · obtain ⟨-, -, rfl⟩ := map_eq_ok ok
      split <;> rfl
  | getObjectRange call session kind rest =>
    cases isOf
    refine .of_goOn ?_ fun task ok => ?_
    · split
      next up => exact iff_of_true ⟨_, rfl⟩ up
      next down => exact iff_of_false (by rintro ⟨task, ⟨⟩⟩) down
    · split at ok
      · cases ok
        split <;> rfl
      · cases ok
  | deleteBadObject call session =>
    cases isOf
    rw [UploadTask.resume]
    split
    next up => exact .goesOn up ⟨rfl, rfl, rfl⟩ rfl
    next down => exact .throws down .refl _
  | deleteBadSession call session =>
    cases isOf
    rw [UploadTask.resume]
    split
    · exact .throws id .refl _
    have same : SameRecords state (state.deleteSession session.id) := ⟨rfl, rfl, rfl⟩
    exact .throws id same _
  | close call session rest =>
    cases isOf
    rw [UploadTask.resume]
    split
    next failure refused =>
      refine .throws (fun isOpen => ?_) .refl failure
      obtain ⟨next, committed⟩ := consistent.closeSession_eq_ok_iff.mpr isOpen
      rw [refused] at committed
      cases committed
    next closed ok => exact .creates (closeSession_eq_ok ok).1 ok rest
  | _ => cases isOf

theorem callOf_nextOrphan {sweep : Sweep} {orphans : List Orphan} {new : UploadTask}
    (isNew : new ∈ sweep.nextOrphan toLowerCase orphans) : new.callOf = none := by
  cases orphans with
  | nil =>
    obtain rfl := mem_singleton.mp isNew
    split <;> rfl
  | cons orphan rest =>
    rw [Sweep.nextOrphan] at isNew
    split at isNew
    · obtain rfl := mem_singleton.mp isNew
      rfl
    · obtain rfl := mem_singleton.mp isNew
      rfl

theorem callOf_nextExpired {sweep : Sweep} {sessions : List ExpiredSession} {new : UploadTask}
    (isNew : new ∈ sweep.nextExpired sessions) : new.callOf = none := by
  cases sessions with
  | nil =>
    rw [Sweep.nextExpired] at isNew
    split at isNew
    · obtain rfl := mem_singleton.mp isNew
      rfl
    · cases isNew
  | cons session rest =>
    obtain rfl := mem_singleton.mp isNew
    rfl

theorem sameRecords_sendMessage {args : Messages.SendArgs} :
    SameRecords state (state.sendMessage args) := by
  rw [UploadState.sendMessage]
  split <;> exact ⟨rfl, rfl, rfl⟩

/-- A send or a sweep answers no call and creates nothing. -/
theorem sameRecords_resume {task : UploadTask} (isOther : task.callOf = none) :
    SameRecords state (task.resume toLowerCase state).1 ∧
      ∀ new ∈ (task.resume toLowerCase state).2, new.callOf = none := by
  cases task with
  | findAttachments request =>
    rw [UploadTask.resume]
    split
    · exact ⟨.refl, forall_mem_singleton.mpr rfl⟩
    · exact ⟨.refl, forall_mem_nil _⟩
  | createMessage request =>
    rw [UploadTask.resume]
    split
    · exact ⟨sameRecords_sendMessage, forall_mem_nil _⟩
    · exact ⟨.refl, forall_mem_nil _⟩
  | findOrphans sweep =>
    refine ⟨.refl, fun new isNew => ?_⟩
    rw [UploadTask.resume] at isNew
    split at isNew
    · obtain rfl := mem_singleton.mp isNew
      rfl
    · exact callOf_nextOrphan isNew
  | recheckOrphan sweep orphan kind rest =>
    refine ⟨.refl, fun new isNew => ?_⟩
    rw [UploadTask.resume] at isNew
    dsimp only at isNew
    split at isNew
    · obtain rfl := mem_singleton.mp isNew
      split <;> rfl
    · exact callOf_nextOrphan isNew
  | blockOrphan sweep orphan rest =>
    rw [UploadTask.resume]
    split
    · exact ⟨.refl, fun new => callOf_nextOrphan⟩
    · exact ⟨⟨rfl, rfl, rfl⟩, forall_mem_singleton.mpr rfl⟩
  | deleteOrphanObject sweep orphan rest =>
    rw [UploadTask.resume]
    split
    · exact ⟨⟨rfl, rfl, rfl⟩, forall_mem_singleton.mpr rfl⟩
    · exact ⟨.refl, fun new => callOf_nextOrphan⟩
  | deleteOrphan sweep orphan rest =>
    rw [UploadTask.resume]
    split
    · exact ⟨.refl, fun new => callOf_nextOrphan⟩
    · exact ⟨⟨rfl, rfl, rfl⟩, fun new => callOf_nextOrphan⟩
  | findExpired sweep =>
    refine ⟨.refl, fun new isNew => ?_⟩
    rw [UploadTask.resume] at isNew
    dsimp only at isNew
    split at isNew
    · cases isNew
    · exact callOf_nextExpired isNew
  | deleteExpiredObject sweep session rest =>
    rw [UploadTask.resume]
    split
    · exact ⟨⟨rfl, rfl, rfl⟩, forall_mem_singleton.mpr rfl⟩
    · exact ⟨.refl, fun new => callOf_nextExpired⟩
  | deleteExpired sweep session rest =>
    rw [UploadTask.resume]
    split
    · exact ⟨.refl, fun new => callOf_nextExpired⟩
    · exact ⟨⟨rfl, rfl, rfl⟩, fun new => callOf_nextExpired⟩
  | _ => cases isOther

end Outcomes

/-- The ids of the calls so far. -/
def callIds : Nat → List CallId
  | 0 => []
  | count + 1 => ⟨count⟩ :: callIds count

theorem mem_callIds {count : Nat} {id : CallId} : id ∈ callIds count ↔ id.value < count := by
  induction count with
  | zero => simp [callIds]
  | succ count ih =>
    rw [callIds, mem_cons, ih, Nat.lt_succ_iff_lt_or_eq, or_comm]
    exact or_congr_right ⟨fun same => same ▸ rfl, fun same => by cases id; cases same; rfl⟩

/-- Calls are answered and create once they have an id, and no session is closed without a
creation. -/
structure Recorded (state : UploadState) : Prop where
  consistent : Consistent state
  answerBelow : ∀ answer ∈ state.answers, answer.1.value < state.nextCallId
  creationBelow : ∀ creation ∈ state.creations, creation.callId.value < state.nextCallId
  closing : ∀ session ∈ state.sessions, session.completed = true →
    ∃ creation ∈ state.creations, creation.sessionId = session.id

/-- What is known of a call on its way. -/
structure Tracks (state : UploadState) (call : CompleteCall) : Prop where
  made : call.attachmentIds = [] ↔ ∀ creation ∈ state.creations, creation.callId ≠ call.id
  unanswered : ∀ answer ∈ state.answers, answer.1 ≠ call.id
  below : call.id.value < state.nextCallId

def Tracked (state : UploadState) (task : UploadTask) : Prop :=
  HasRead state task ∧ ∀ call, task.callOf = some call → Tracks state call

/-- Only one call, if any, has been answered or has created. -/
structure RecordsBy (state next : UploadState) (id : Option CallId) : Prop where
  answers : ∀ answer ∈ next.answers, answer ∈ state.answers ∨ id = some answer.1
  creations : ∀ creation ∈ next.creations, creation ∈ state.creations ∨ id = some creation.callId
  kept : state.creations ⊆ next.creations
  nextCallId : state.nextCallId ≤ next.nextCallId

section Records

variable {next : UploadState} {call : CompleteCall} {id : Option CallId}

theorem SameRecords.recordsBy (same : SameRecords state next) : RecordsBy state next id where
  answers _ answered := .inl (same.answers ▸ answered)
  creations _ made := .inl (same.creations ▸ made)
  kept := same.creations ▸ List.Subset.refl _
  nextCallId := same.nextCallId.ge

theorem RecordsBy.answer (records : RecordsBy state next (some call.id))
    (result : Except Failure (List Messages.AttachmentId)) :
    RecordsBy state (next.answer call result) (some call.id) where
  answers := by
    intro answer answered
    rcases mem_append.mp answered with earlier | isNew
    · exact records.answers answer earlier
    rw [mem_singleton.mp isNew]
    exact .inr rfl
  creations := records.creations
  kept := records.kept
  nextCallId := records.nextCallId

theorem recordsBy_close {session : UploadSession}
    (ok : state.closeSession call session = .ok next) : RecordsBy state next (some call.id) := by
  obtain ⟨-, attachments, -, rfl⟩ := closeSession_eq_ok ok
  refine ⟨fun answer answered => .inl answered, fun creation made => ?_,
    subset_append_left _ _, le_rfl⟩
  rcases mem_append.mp made with earlier | isNew
  · exact .inl earlier
  rw [mem_singleton.mp isNew]
  exact .inr rfl

theorem RecordsBy.nextSession (records : RecordsBy state next (some call.id))
    {other : CompleteCall} (sameId : other.id = call.id) (rest : List SessionId) :
    RecordsBy state (next.nextSession other rest).1 (some call.id) := by
  cases rest with
  | nil =>
    rw [← sameId] at records ⊢
    exact records.answer _
  | cons sessionId rest => exact records

variable {CanGoOn : Prop} {result : UploadState × List UploadTask}

theorem CallOutcome.recordsBy (outcome : CallOutcome state call CanGoOn result) :
    RecordsBy state result.1 (some call.id) := by
  cases outcome with
  | goesOn canGoOn same sameCall => exact same.recordsBy
  | returns canGoOn => exact SameRecords.refl.recordsBy.answer _
  | throws cannot same failure => exact same.recordsBy.answer _
  | creates canGoOn ok rest =>
    refine (recordsBy_close ok).nextSession ?_ rest
    rfl

variable {task : UploadTask}

theorem recordsBy_resume {toLowerCase : String → String} (consistent : Consistent state) :
    RecordsBy state (task.resume toLowerCase state).1 task.callId := by
  cases isOf : task.callOf with
  | none => exact (sameRecords_resume isOf).1.recordsBy
  | some call =>
    have outcome : CallOutcome state call (CanGoOn state task)
        (task.resume toLowerCase state) := callOutcome_resume consistent isOf
    rw [UploadTask.callId, isOf]
    exact outcome.recordsBy

/-- What is known of a call stays known while another one goes on. -/
theorem Tracks.later (tracks : Tracks state call) (records : RecordsBy state next id)
    (other : id ≠ some call.id) : Tracks next call where
  made := by
    rw [tracks.made]
    constructor
    · intro none_ creation made
      rcases records.creations creation made with earlier | byOther
      · exact none_ creation earlier
      intro same
      exact other (same ▸ byOther)
    · exact fun none_ creation made => none_ creation (records.kept made)
  unanswered := by
    intro answer answered
    rcases records.answers answer answered with earlier | byOther
    · exact tracks.unanswered answer earlier
    intro same
    exact other (same ▸ byOther)
  below := tracks.below.trans_le records.nextCallId

theorem Tracked.later (tracked : Tracked state task) (precedes : Precedes state next)
    (records : RecordsBy state next id) (others : ∀ key, task.callId = some key → id ≠ some key) :
    Tracked next task := by
  refine ⟨tracked.1.later precedes, fun call isOf => (tracked.2 call isOf).later records ?_⟩
  exact others call.id (congrArg (Option.map CompleteCall.id) isOf)

section

variable (outcome : CallOutcome state call CanGoOn result)

include outcome

/-- A call that goes on is known as before, or has created by now. -/
theorem CallOutcome.tracks (tracks : Tracks state call) {new : UploadTask}
    (isNew : new ∈ result.2) :
    new.callId = some call.id ∧ ∀ other, new.callOf = some other → Tracks result.1 other := by
  cases outcome with
  | returns canGoOn | throws cannot same failure => cases isNew
  | goesOn canGoOn same sameCall =>
    obtain rfl := mem_singleton.mp isNew
    refine ⟨congrArg (Option.map CompleteCall.id) sameCall, fun other isOther => ?_⟩
    cases sameCall.symm.trans isOther
    exact ⟨same.creations.symm ▸ tracks.made, same.answers.symm ▸ tracks.unanswered,
      same.nextCallId.symm ▸ tracks.below⟩
  | creates canGoOn ok rest =>
    obtain ⟨sessionId, later, rfl, rfl⟩ := mem_nextSession.mp isNew
    refine ⟨rfl, fun other isOther => ?_⟩
    cases isOther
    obtain ⟨-, attachments, -, rfl⟩ := closeSession_eq_ok ok
    refine ⟨iff_of_false (append_ne_nil_of_right_ne_nil _ (cons_ne_nil _ _)) ?_,
      tracks.unanswered, tracks.below⟩
    intro none_
    exact none_ _ (mem_append_right _ (mem_singleton_self _)) rfl

theorem CallOutcome.nextCallId : result.1.nextCallId = state.nextCallId := by
  cases outcome with
  | goesOn canGoOn same sameCall | throws cannot same failure => exact same.nextCallId
  | returns canGoOn => rfl
  | creates canGoOn ok rest =>
    obtain ⟨-, attachments, -, rfl⟩ := closeSession_eq_ok ok
    cases rest <;> rfl

/-- A call goes on with its id, or ends. -/
theorem CallOutcome.lockMove {task : UploadTask} (held : task.callId = some call.id) :
    LockMove UploadTask.callId task (callIds state.nextCallId) result.2
      (callIds result.1.nextCallId) := by
  rw [outcome.nextCallId]
  cases outcome with
  | goesOn canGoOn same sameCall =>
    exact .keep ((congrArg (Option.map CompleteCall.id) sameCall).trans held.symm)
  | returns canGoOn | throws cannot same failure => exact .free (forall_mem_nil _)
  | creates canGoOn ok rest =>
    cases rest with
    | nil => exact .free (forall_mem_nil _)
    | cons sessionId later => exact .keep held.symm

/-- A call that can go on throws nothing new. -/
theorem CallOutcome.of_thrown (canGoOn : CanGoOn)
    {answer : CallId × Except Failure (List Messages.AttachmentId)}
    (answered : answer ∈ result.1.answers) {failure : Failure}
    (thrown : answer.2 = .error failure) :
    answer ∈ state.answers := by
  have old {other : CompleteCall} {ids : List Messages.AttachmentId}
      (among : answer ∈ state.answers ++ [(other.id, .ok ids)]) : answer ∈ state.answers := by
    rcases mem_append.mp among with earlier | isNew
    · exact earlier
    rw [mem_singleton.mp isNew] at thrown
    cases thrown
  cases outcome with
  | goesOn _ same sameCall => exact same.answers ▸ answered
  | returns => exact old answered
  | throws cannot same failure => exact absurd canGoOn cannot
  | creates _ ok rest =>
    obtain ⟨-, attachments, -, rfl⟩ := closeSession_eq_ok ok
    cases rest with
    | nil => exact old answered
    | cons sessionId later => exact answered

theorem CallOutcome.throws_of_not (cannot : ¬CanGoOn) :
    ∃ next failure, SameRecords state next ∧ result = (next.answer call (.error failure), []) := by
  cases outcome with
  | throws cannot same failure => exact ⟨_, failure, same, rfl⟩
  | goesOn canGoOn | returns canGoOn | creates canGoOn => exact absurd canGoOn cannot

end

/-- No effect closes a session without a creation. -/
theorem Effect.closing (effect : Effect state task next) (recorded : Recorded state) :
    ∀ session ∈ next.sessions, session.completed = true →
      ∃ creation ∈ next.creations, creation.sessionId = session.id := by
  cases effect with
  | deleteBadSession | deleteExpired =>
    exact fun session present => recorded.closing session (mem_deleteMany.mp present).1
  | close hasMessage ok =>
    obtain ⟨-, attachments, -, rfl⟩ := closeSession_eq_ok ok
    intro session present completed
    obtain ⟨earlier, earlierMem, rfl⟩ := mem_closedSessions.mp present
    split at completed
    next isIt =>
      rw [if_pos isIt]
      exact ⟨_, mem_append_right _ (mem_singleton_self _), isIt.symm⟩
    next isOther =>
      rw [if_neg isOther]
      obtain ⟨creation, made, same⟩ := recorded.closing earlier earlierMem completed
      exact ⟨creation, mem_append_left _ made, same⟩
  | @createMessage request =>
    have sent : Sent state request.args (state.sendMessage request.args) :=
      recorded.consistent.sent
    rw [sent.others]
    exact recorded.closing
  | _ => exact recorded.closing

end Records

section Run

variable {toLowerCase : String → String}

section

variable (recorded : Recorded state)

include recorded

/-- The law is about the calls that have thrown; the rest of it always holds. -/
theorem Recorded.allOrNothing_iff : AllOrNothing state ↔
    ∀ answer ∈ state.answers, ∀ failure, answer.2 = .error failure →
      ∀ creation ∈ state.creations, creation.callId ≠ answer.1 :=
  ⟨AllOrNothing.nothing, fun nothing =>
    ⟨nothing, recorded.consistent.sessionsApart, recorded.closing⟩⟩

variable {task : UploadTask}

theorem Recorded.resume (tracked : Tracked state task) :
    Recorded (task.resume toLowerCase state).1 := by
  have kept : Resumed state task (task.resume toLowerCase state) :=
    resumed recorded.consistent tracked.1
  have records : RecordsBy state (task.resume toLowerCase state).1 task.callId :=
    recordsBy_resume recorded.consistent
  have below {id : CallId} (by_ : task.callId = some id) : id.value < state.nextCallId := by
    obtain ⟨call, isOf, rfl⟩ := Option.map_eq_some_iff.mp by_
    exact (tracked.2 call isOf).below
  refine ⟨(kept.keeps recorded.consistent).invariant, fun answer answered => ?_,
    fun creation made => ?_, ?_⟩
  · refine Nat.lt_of_lt_of_le ?_ records.nextCallId
    exact (records.answers answer answered).elim (recorded.answerBelow answer) below
  · refine Nat.lt_of_lt_of_le ?_ records.nextCallId
    exact (records.creations creation made).elim (recorded.creationBelow creation) below
  · obtain ⟨middle, effect, same⟩ := kept.effect
    rw [← same]
    exact effect.closing recorded

theorem keepsLocked_resume (tracked : Tracked state task) :
    KeepsLocked Recorded Tracked UploadTask.callId (fun state => callIds state.nextCallId) state
      task (task.resume toLowerCase state).1 (task.resume toLowerCase state).2 := by
  have kept : Resumed state task (task.resume toLowerCase state) :=
    resumed recorded.consistent tracked.1
  have records : RecordsBy state (task.resume toLowerCase state).1 task.callId :=
    recordsBy_resume recorded.consistent
  obtain ⟨middle, effect, same⟩ := kept.effect
  have precedes := (effect.precedes recorded.consistent).trans same.precedes
  have stable : ∀ waiting : UploadTask, (∀ key, waiting.callId = some key →
      key ∈ callIds state.nextCallId ∧ task.callId ≠ some key) → Tracked state waiting →
      Tracked (task.resume toLowerCase state).1 waiting := by
    intro waiting others known
    exact known.later precedes records fun key held => (others key held).2
  cases isOf : task.callOf with
  | none =>
    have other : SameRecords state (task.resume toLowerCase state).1 ∧
        ∀ new ∈ (task.resume toLowerCase state).2, new.callOf = none := sameRecords_resume isOf
    obtain ⟨sameRecords, noCalls⟩ := other
    refine ⟨recorded.resume tracked, ?_, stable, fun new isNew => ⟨kept.fresh new isNew, ?_⟩⟩
    · rw [sameRecords.nextCallId]
      refine .free fun new isNew => ?_
      rw [UploadTask.callId, noCalls new isNew]
      rfl
    · intro call isCall
      rw [noCalls new isNew] at isCall
      cases isCall
  | some call =>
    have outcome : CallOutcome state call (CanGoOn state task)
        (task.resume toLowerCase state) := callOutcome_resume recorded.consistent isOf
    refine ⟨recorded.resume tracked, ?_, stable, fun new isNew => ⟨kept.fresh new isNew, ?_⟩⟩
    · have held : task.callId = some call.id := congrArg (Option.map CompleteCall.id) isOf
      exact outcome.lockMove held
    · exact (outcome.tracks (tracked.2 call isOf) isNew).2

/-- A task keeps to the law exactly when its call does not throw after it has created. -/
theorem allOrNothing_resume_iff (tracked : Tracked state task) (law : AllOrNothing state) :
    AllOrNothing (task.resume toLowerCase state).1 ↔ ThrowsFirst state task := by
  rw [(recorded.resume tracked).allOrNothing_iff]
  cases isOf : task.callOf with
  | none =>
    have same : SameRecords state (task.resume toLowerCase state).1 :=
      (sameRecords_resume isOf).1
    rw [same.answers, same.creations]
    refine iff_of_true law.nothing fun call isCall => ?_
    rw [isOf] at isCall
    cases isCall
  | some call =>
    have outcome : CallOutcome state call (CanGoOn state task)
        (task.resume toLowerCase state) := callOutcome_resume recorded.consistent isOf
    have tracks := tracked.2 call isOf
    by_cases canGoOn : CanGoOn state task
    · refine iff_of_true (fun answer answered failure thrown creation made => ?_)
        fun _ _ _ => canGoOn
      have earlier := outcome.of_thrown canGoOn answered thrown
      rcases outcome.recordsBy.creations creation made with madeBefore | byCall
      · exact law.nothing answer earlier failure thrown creation madeBefore
      rw [← Option.some.inj byCall]
      exact (tracks.unanswered answer earlier).symm
    · have throwsFirst : ThrowsFirst state task ↔ call.attachmentIds = [] := by
        constructor
        · exact fun first => by_contra fun made => canGoOn (first call isOf made)
        · intro none_ other isOther made
          cases isOf.symm.trans isOther
          exact absurd none_ made
      obtain ⟨next, failure, same, isThrown⟩ := outcome.throws_of_not canGoOn
      rw [throwsFirst, tracks.made, isThrown]
      constructor
      · intro nothing creation made
        exact nothing (call.id, .error failure)
          (mem_append_right _ (mem_singleton_self _)) failure rfl creation
          (same.creations.symm ▸ made)
      · intro none_ answer answered thrown threw creation made
        have madeBefore : creation ∈ state.creations := same.creations ▸ made
        rcases mem_append.mp answered with earlier | isNew
        · exact law.nothing answer (same.answers ▸ earlier) thrown threw creation madeBefore
        rw [mem_singleton.mp isNew]
        exact none_ creation madeBefore

end

/-- A call that begins goes on, or throws at once. -/
theorem beginComplete_cases (state : UploadState) (call : CompleteCall) :
    (∃ new, state.beginComplete call = (state, [new]) ∧ new.callOf = some call) ∨
      ∃ failure, state.beginComplete call = (state.answer call (.error failure), []) := by
  have goes (next : Except Failure UploadTask)
      (isOf : ∀ new, next = .ok new → new.callOf = some call) :
      (∃ new, state.goOn call next = (state, [new]) ∧ new.callOf = some call) ∨
        ∃ failure, state.goOn call next = (state.answer call (.error failure), []) := by
    cases next with
    | ok new => exact .inl ⟨new, rfl, isOf new rfl⟩
    | error failure => exact .inr ⟨failure, rfl⟩
  rw [UploadState.beginComplete]
  split
  · exact .inl ⟨_, rfl, rfl⟩
  split
  · exact .inr ⟨_, rfl⟩
  refine goes _ fun new ok => ?_
  rw [(checkTarget_eq_ok_iff.mp ok).2]
  rfl

variable {input : UploadInput}

/-- What an input other than a call of `complete` leaves alone. -/
theorem accepted_other (state : UploadState)
    (other : ∀ uploaderId routeChannelId body, input ≠ .complete uploaderId routeChannelId body) :
    SameRecords state (input.accepted state).1 ∧
      (∀ session ∈ (input.accepted state).1.sessions, session.completed = true →
        session ∈ state.sessions) ∧
      ∀ new ∈ (input.accepted state).2, new.callOf = none := by
  cases input with
  | complete uploaderId routeChannelId body => exact absurd rfl (other _ _ _)
  | createSession uploaderId channelId sizeBytes mimeType path ttl =>
    rw [accepted]
    split
    · exact ⟨.refl, fun _ present _ => present, forall_mem_nil _⟩
    next sessions inserted =>
      refine ⟨⟨rfl, rfl, rfl⟩, fun session present completed => ?_, forall_mem_nil _⟩
      rcases (mem_insert? inserted).mp present with rfl | isOld
      · cases completed
      · exact isOld
  | send request =>
    refine ⟨.refl, fun _ present _ => present, forall_mem_singleton.mpr ?_⟩
    split <;> rfl
  | sweep => exact ⟨.refl, fun _ present _ => present, forall_mem_singleton.mpr rfl⟩
  | _ => exact ⟨⟨rfl, rfl, rfl⟩, fun _ present _ => present, forall_mem_nil _⟩

/-- A call that begins is a new one. -/
theorem acceptsLocked_complete (recorded : Recorded state) {call : CompleteCall}
    (isNew : call.id = ⟨state.nextCallId⟩) (empty : call.attachmentIds = []) :
    AcceptsLocked Recorded Tracked UploadTask.callId (fun state => callIds state.nextCallId) state
      ({ state with nextCallId := state.nextCallId + 1 }.beginComplete call).1
      ({ state with nextCallId := state.nextCallId + 1 }.beginComplete call).2 := by
  generalize isNext : { state with nextCallId := state.nextCallId + 1 } = next
  have counted : Recorded next := by
    rw [← isNext]
    exact ⟨{ recorded.consistent with }, fun answer answered =>
      Nat.lt_succ_of_lt (recorded.answerBelow answer answered), fun creation made =>
        Nat.lt_succ_of_lt (recorded.creationBelow creation made), recorded.closing⟩
  have sameAnswers : next.answers = state.answers := isNext ▸ rfl
  have sameCreations : next.creations = state.creations := isNext ▸ rfl
  have nextId : next.nextCallId = state.nextCallId + 1 := isNext ▸ rfl
  have tracks : Tracks next call := by
    constructor
    · refine iff_of_true empty fun creation made same => ?_
      have below := recorded.creationBelow creation (sameCreations ▸ made)
      rw [same, isNew] at below
      exact Nat.lt_irrefl _ below
    · intro answer answered same
      have below := recorded.answerBelow answer (sameAnswers ▸ answered)
      rw [same, isNew] at below
      exact Nat.lt_irrefl _ below
    · rw [isNew, nextId]
      exact Nat.lt_succ_self _
  have begun : RecordsBy state next (some call.id) :=
    ⟨fun _ answered => .inl (sameAnswers ▸ answered), fun _ made => .inl (sameCreations ▸ made),
      sameCreations ▸ List.Subset.refl _, nextId ▸ Nat.le_succ _⟩
  have precedes : Precedes state next := by
    rw [← isNext]
    exact ⟨fun message present => ⟨message, present, rfl, rfl, rfl⟩, fun _ made => made⟩
  have others {waiting : UploadTask} (held : ∀ key, waiting.callId = some key →
      key ∈ callIds state.nextCallId) : ∀ key, waiting.callId = some key → some call.id ≠ some key := by
    rintro key isKey same
    have below := mem_callIds.mp (held key isKey)
    rw [← Option.some.inj same, isNew] at below
    exact Nat.lt_irrefl _ below
  have kept : callIds state.nextCallId ⊆ callIds next.nextCallId := by
    rw [nextId]
    exact subset_cons_self _ _
  rcases beginComplete_cases next call with ⟨new, goesOn, isOf⟩ | ⟨failure, throws⟩
  · have fresh := (beginComplete_spec next call).2
    rw [goesOn] at fresh ⊢
    refine ⟨counted, fun waiting held known => known.later precedes begun (others held),
      fun other isOther => ⟨fresh other isOther, fun otherCall isCall => ?_⟩, kept,
      fun other isOther key held => ?_, pairwise_singleton _ _⟩
    · obtain rfl := mem_singleton.mp isOther
      cases isOf.symm.trans isCall
      exact tracks
    · obtain rfl := mem_singleton.mp isOther
      have isKey : call.id = key :=
        Option.some.inj ((congrArg (Option.map CompleteCall.id) isOf).symm.trans held)
      rw [← isKey, isNew, mem_callIds, mem_callIds, nextId]
      exact ⟨Nat.lt_irrefl _, Nat.lt_succ_self _⟩
  · rw [throws]
    refine ⟨⟨{ counted.consistent with }, fun answer answered => ?_, counted.creationBelow,
      counted.closing⟩, fun waiting held known => known.later
        (precedes.trans sameTables_answer.precedes) (begun.answer _) (others held),
      forall_mem_nil _, kept, forall_mem_nil _, .nil⟩
    rcases mem_append.mp answered with earlier | isLast
    · exact counted.answerBelow answer earlier
    rw [mem_singleton.mp isLast]
    exact tracks.below

theorem acceptsLocked (recorded : Recorded state) :
    AcceptsLocked Recorded Tracked UploadTask.callId (fun state => callIds state.nextCallId) state
      (input.accepted state).1 (input.accepted state).2 := by
  have kept : Keeps Consistent HasRead state (input.accepted state).1 (input.accepted state).2 :=
    keeps_accepted recorded.consistent
  have untouched : Untouched state (input.accepted state).1 := untouched_accepted
  by_cases isCall : ∃ uploaderId routeChannelId body,
      input = .complete uploaderId routeChannelId body
  · obtain ⟨uploaderId, routeChannelId, body, rfl⟩ := isCall
    exact acceptsLocked_complete recorded rfl rfl
  · have other : ∀ uploaderId routeChannelId body,
        input ≠ .complete uploaderId routeChannelId body :=
      fun _ _ _ same => isCall ⟨_, _, _, same⟩
    obtain ⟨same, sessions, noCalls⟩ := accepted_other state other
    have noneHeld : ∀ new ∈ (input.accepted state).2, new.callId = none := by
      intro new isNew
      rw [UploadTask.callId, noCalls new isNew]
      rfl
    have noRecords : RecordsBy state (input.accepted state).1 none := same.recordsBy
    refine ⟨⟨kept.invariant, ?_, ?_, fun session present completed => ?_⟩, fun waiting held known =>
      known.later untouched.precedes noRecords (by simp), fun new isNew => ⟨kept.fresh new isNew, ?_⟩, ?_, ?_, ?_⟩
    · rw [same.answers, same.nextCallId]
      exact recorded.answerBelow
    · rw [same.creations, same.nextCallId]
      exact recorded.creationBelow
    · rw [same.creations]
      exact recorded.closing session (sessions session present completed) completed
    · intro call isOf
      rw [noCalls new isNew] at isOf
      cases isOf
    · rw [same.nextCallId]
      exact List.Subset.refl _
    · intro new isNew key held
      rw [noneHeld new isNew] at held
      cases held
    · refine pairwise_of_forall_mem_list fun first firstMem second _ key held => ?_
      rw [noneHeld first firstMem] at held
      cases held

/-- A call that throws at once has created nothing. -/
theorem allOrNothing_accepted (recorded : Recorded state) (law : AllOrNothing state) :
    AllOrNothing (input.accepted state).1 := by
  apply (acceptsLocked recorded).invariant.allOrNothing_iff.mpr
  have untouched : Untouched state (input.accepted state).1 := untouched_accepted
  rw [untouched.creations]
  by_cases isCall : ∃ uploaderId routeChannelId body,
      input = .complete uploaderId routeChannelId body
  · obtain ⟨uploaderId, routeChannelId, body, rfl⟩ := isCall
    rw [accepted]
    rcases beginComplete_cases { state with nextCallId := state.nextCallId + 1 }
        ⟨⟨state.nextCallId⟩, uploaderId, routeChannelId, body, state.now, []⟩ with
      ⟨new, goesOn, -⟩ | ⟨failure, throws⟩
    · rw [goesOn]
      exact law.nothing
    · rw [throws]
      intro answer answered thrown isThrown creation made
      rcases mem_append.mp answered with earlier | isLast
      · exact law.nothing answer earlier thrown isThrown creation made
      rw [mem_singleton.mp isLast]
      rintro same
      have below := recorded.creationBelow creation made
      rw [same] at below
      exact Nat.lt_irrefl _ below
  · have other : ∀ uploaderId routeChannelId body,
        input ≠ .complete uploaderId routeChannelId body :=
      fun _ _ _ same => isCall ⟨_, _, _, same⟩
    rw [(accepted_other state other).1.answers]
    exact law.nothing

theorem recorded_empty : Recorded {} := by
  refine ⟨consistent_empty, ?_, ?_, ?_⟩ <;> simp [mem_def, Table.empty]

/-- The runs in which every call is all or nothing are those in which a call that has created an
attachment never throws. -/
theorem allOrNothing_steps_iff {labels : List (Label UploadTask UploadInput)}
    {finish : State UploadState UploadTask} :
    Steps (Lawful (Step (uploadLoop toLowerCase)) fun state => AllOrNothing state.shared) ⟨{}, []⟩
        labels finish ↔
      Steps (Guarded (Step (uploadLoop toLowerCase)) (OnResume ThrowsFirst)) ⟨{}, []⟩ labels
        finish := by
  have lawful : AllOrNothing {} := recorded_empty.allOrNothing_iff.mpr (forall_mem_nil _)
  have kept {state : UploadState} {task : UploadTask} (recorded : Recorded state)
      (tracked : Tracked state task) :
      KeepsLocked Recorded Tracked UploadTask.callId (fun state => callIds state.nextCallId) state
        task ((uploadLoop toLowerCase).resume state task).1
        ((uploadLoop toLowerCase).resume state task).2 :=
    keepsLocked_resume recorded tracked
  refine lawful_iff_guarded_of_locked kept (fun accepted recorded => ?_)
    (fun recorded tracked law => allOrNothing_resume_iff recorded tracked law)
    (fun accepted recorded law => ?_) recorded_empty lawful
  · obtain ⟨rfl, rfl⟩ := Prod.mk.inj accepted
    exact acceptsLocked recorded
  · obtain ⟨rfl, rfl⟩ := Prod.mk.inj accepted
    exact allOrNothing_accepted recorded law

end Run

section Alone

variable (toLowerCase : String → String)

/-- A session that a call can complete: its object is there, in its size and of its kind. -/
def CompleteCall.Completes (state : UploadState) (call : CompleteCall) (sessionId : SessionId) :
    Prop :=
  ∃ session ∈ state.sessions, session.id = sessionId ∧ call.Finds session ∧
    ∃ object ∈ state.objects, object.key = session.storageKey ∧
      object.bytes.length = session.sizeBytes ∧
      ∀ kind, MagicSupportedMime.ofMime (toLowerCase session.mimeType) = some kind →
        matchesMagic (object.bytes.take magicPrefixBytes) kind = true

variable {toLowerCase} {call : CompleteCall}

/-- One session of a call that runs alone. -/
theorem exists_runFirst_session (consistent : Consistent state) (up : state.storageUp = true)
    {sessionId : SessionId} (completes : call.Completes toLowerCase state sessionId)
    (rest : List SessionId) : ∃ count session closed, session.id = sessionId ∧
      state.closeSession call session = .ok closed ∧
      (uploadLoop toLowerCase).runFirst count ⟨state, [.findSession call sessionId rest]⟩ =
        ⟨(closed.nextSession { call with
            attachmentIds := call.attachmentIds ++ [⟨state.nextAttachmentId⟩] } rest).1,
          (closed.nextSession { call with
            attachmentIds := call.attachmentIds ++ [⟨state.nextAttachmentId⟩] } rest).2⟩ := by
  obtain ⟨session, present, rfl, finds, object, objectMem, sameKey, sameSize, kinds⟩ := completes
  have isOpen : state.isOpen session.id = true :=
    any_eq_true.mpr ⟨session, present, by simp [finds.2.2.1]⟩
  obtain ⟨closed, ok⟩ := consistent.closeSession_eq_ok_iff.mpr isOpen
  have found : checkSession state call session.id = .ok session :=
    checkSession_eq_ok_iff.mpr ⟨present, rfl, finds⟩
  have uploaded : checkObject state session = .ok () :=
    checkObject_eq_ok_iff.mpr ⟨up, object, objectMem, sameKey, sameSize⟩
  have closes : (UploadTask.close call session rest).resume toLowerCase state =
      closed.nextSession { call with
        attachmentIds := call.attachmentIds ++ [⟨state.nextAttachmentId⟩] } rest := by
    rw [UploadTask.resume, ok]
  have finds_ : (UploadTask.findSession call session.id rest).resume toLowerCase state =
      (state, [.headObject call session rest]) := by
    rw [UploadTask.resume, found]
    rfl
  cases isKind : MagicSupportedMime.ofMime (toLowerCase session.mimeType) with
  | none =>
    have heads : (UploadTask.headObject call session rest).resume toLowerCase state =
        (state, [.close call session rest]) := by
      rw [UploadTask.resume, uploaded, isKind]
      rfl
    refine ⟨3, session, closed, rfl, ok, ?_⟩
    simp only [runFirst, uploadLoop, finds_, heads, closes, append_nil]
  | some kind =>
    have heads : (UploadTask.headObject call session rest).resume toLowerCase state =
        (state, [.getObjectRange call session kind rest]) := by
      rw [UploadTask.resume, uploaded, isKind]
      rfl
    have ofKind : matchesKind state session.storageKey kind = true := by
      rw [matchesKind, ← sameKey, findUnique_of_mem objectMem]
      exact kinds kind isKind
    have ranges : (UploadTask.getObjectRange call session kind rest).resume toLowerCase state =
        (state, [.close call session rest]) := by
      rw [UploadTask.resume, if_pos up, if_pos ofKind]
      rfl
    refine ⟨4, session, closed, rfl, ok, ?_⟩
    simp only [runFirst, uploadLoop, finds_, heads, ranges, closes, append_nil]

/-- Another session can be completed still when one has been. -/
theorem CompleteCall.Completes.later {session : UploadSession} {closed : UploadState}
    {sessionId : SessionId} (completes : call.Completes toLowerCase state sessionId)
    (ok : state.closeSession call session = .ok closed) (other : session.id ≠ sessionId)
    (ids : List Messages.AttachmentId) :
    ({ call with attachmentIds := ids } : CompleteCall).Completes toLowerCase closed sessionId := by
  obtain ⟨-, attachments, -, rfl⟩ := closeSession_eq_ok ok
  obtain ⟨open_, present, rfl, finds, object⟩ := completes
  exact ⟨open_, mem_closedSessions.mpr ⟨open_, present, if_neg other.symm⟩, rfl, finds, object⟩

/-- The sessions of a call that runs alone, one after the other. -/
theorem exists_runFirst_sessions {sessions : List SessionId} (consistent : Consistent state)
    (hasMessage : call.HasMessage state) (up : state.storageUp = true) (nodup : sessions.Nodup)
    (completes : ∀ sessionId ∈ sessions, call.Completes toLowerCase state sessionId) :
    ∃ count last ids, (uploadLoop toLowerCase).runFirst count
        ⟨(state.nextSession call sessions).1, (state.nextSession call sessions).2⟩ = ⟨last, []⟩ ∧
      last.answers = state.answers ++ [(call.id, .ok ids)] ∧
      ids.length = call.attachmentIds.length + sessions.length := by
  induction sessions generalizing state call with
  | nil => exact ⟨0, _, call.attachmentIds, rfl, rfl, rfl⟩
  | cons sessionId rest ih =>
    obtain ⟨fresh, restNodup⟩ := nodup_cons.mp nodup
    obtain ⟨first, session, closed, rfl, ok, ran⟩ := exists_runFirst_session consistent up
      (completes sessionId mem_cons_self) rest
    have sameAnswers : closed.answers = state.answers := by
      obtain ⟨-, attachments, -, rfl⟩ := closeSession_eq_ok ok
      rfl
    have stillUp : closed.storageUp = true := by
      obtain ⟨-, attachments, -, rfl⟩ := closeSession_eq_ok ok
      exact up
    have effect : Effect state (.close call session rest) closed := .close hasMessage ok
    have laterMessage : ({ call with
        attachmentIds := call.attachmentIds ++ [⟨state.nextAttachmentId⟩] } :
          CompleteCall).HasMessage closed :=
      hasMessage.later (effect.precedes consistent)
    have goesOn := ih (consistent.close hasMessage ok) laterMessage stillUp restNodup
      fun other otherMem => (completes other (mem_cons_of_mem _ otherMem)).later ok
        (fun same => fresh (same ▸ otherMem)) _
    obtain ⟨second, last, ids, finished, answers, count⟩ := goesOn
    refine ⟨first + second, last, ids, ?_, sameAnswers ▸ answers, ?_⟩
    · rw [runFirst_add]
      exact (congrArg _ ran).trans finished
    · rw [count, length_append, length_singleton, length_cons]
      omega

/-- A call of `complete` that nothing stands in the way of. -/
structure CanComplete (toLowerCase : String → String) (state : UploadState)
    (call : CompleteCall) : Prop where
  up : state.storageUp = true
  allowed : state.canUpload call.routeChannelId call.uploaderId = .ok ()
  fits : match call.body.messageId with
    | some messageId => CanGoOn state (.findMessage call messageId) ∧
        CanGoOn state (.count call messageId)
    | none => call.body.targetChannelId = some call.routeChannelId ∧
        call.body.sessions.length ≤ attachmentMaxPerMessage
  nodup : call.body.sessions.Nodup
  completes : ∀ sessionId ∈ call.body.sessions, call.Completes toLowerCase state sessionId

/-- A call that nothing stands in the way of comes to its sessions. -/
theorem exists_runFirst_begin (can : CanComplete toLowerCase state call) :
    call.HasMessage state ∧ ∃ count, (uploadLoop toLowerCase).runFirst count
        ⟨(state.beginComplete call).1, (state.beginComplete call).2⟩ =
      ⟨(state.nextSession call call.body.sessions).1,
        (state.nextSession call call.body.sessions).2⟩ := by
  have fits := can.fits
  split at fits
  next messageId named =>
    obtain ⟨⟨message, present, sameId, live, channel⟩, few⟩ := fits
    have goesOn : checkMessage state call messageId = .ok (.authorize call) := by
      obtain ⟨task, ok⟩ := checkMessage_eq_ok_iff.mpr ⟨message, present, sameId, live, channel⟩
      rw [ok, (checkMessage_eq_ok ok).1]
    have finds : (UploadTask.findMessage call messageId).resume toLowerCase state =
        (state, [.authorize call]) := by
      rw [UploadTask.resume, goesOn]
      rfl
    have authorizes : (UploadTask.authorize call).resume toLowerCase state =
        (state, [.count call messageId]) := by
      simp only [UploadTask.resume, can.allowed, named]
    have counts : (UploadTask.count call messageId).resume toLowerCase state =
        state.nextSession call call.body.sessions := by
      simp only [UploadTask.resume, checkCount_eq_ok_iff.mpr few]
    rw [UploadState.beginComplete, named]
    refine ⟨fun other isOther => ?_, 3, ?_⟩
    · cases named.symm.trans isOther
      exact ⟨message, present, sameId, channel⟩
    · simp only [runFirst, uploadLoop, finds, authorizes, counts, append_nil]
  next none_ =>
    obtain ⟨target, few⟩ := fits
    have passes : checkCount call 0 = .ok () :=
      checkCount_eq_ok_iff.mpr (by rwa [Nat.zero_add])
    have authorizes : (UploadTask.authorize call).resume toLowerCase state =
        state.nextSession call call.body.sessions := by
      simp only [UploadTask.resume, can.allowed, none_, passes]
    have goesOn : checkTarget call call.routeChannelId = .ok (.authorize call) :=
      checkTarget_eq_ok_iff.mpr ⟨rfl, rfl⟩
    rw [UploadState.beginComplete, none_, target]
    refine ⟨fun other isOther => ?_, 1, ?_⟩
    · rw [none_] at isOther
      cases isOther
    · simp only [runFirst, uploadLoop, goesOn, UploadState.goOn, authorizes, append_nil]

/-- A call that nothing stands in the way of succeeds when it runs alone. -/
theorem exists_runFirst_complete (consistent : Consistent state)
    (can : CanComplete toLowerCase state call) :
    ∃ count last ids, (uploadLoop toLowerCase).runFirst count
        ⟨(state.beginComplete call).1, (state.beginComplete call).2⟩ = ⟨last, []⟩ ∧
      last.answers = state.answers ++ [(call.id, .ok ids)] ∧
      ids.length = call.attachmentIds.length + call.body.sessions.length := by
  obtain ⟨hasMessage, first, begun⟩ := exists_runFirst_begin can
  obtain ⟨second, last, ids, finished, answers, count⟩ :=
    exists_runFirst_sessions consistent hasMessage can.up can.nodup can.completes
  refine ⟨first + second, last, ids, ?_, answers, count⟩
  rw [runFirst_add, begun, finished]

end Alone

/-- Calls are all or nothing along a run exactly when no call throws after it has created an
attachment. After any run, a call that nothing stands in the way of succeeds when it runs alone. -/
theorem complete_all_or_nothing_iff (toLowerCase : String → String) :
    (∀ labels finish,
      Steps (Lawful (Step (uploadLoop toLowerCase)) fun state => AllOrNothing state.shared)
          ⟨{}, []⟩ labels finish ↔
        Steps (Guarded (Step (uploadLoop toLowerCase)) (OnResume ThrowsFirst)) ⟨{}, []⟩ labels
          finish) ∧
    ∀ labels finish, Steps (Step (uploadLoop toLowerCase)) ⟨{}, []⟩ labels finish →
      ∀ uploaderId routeChannelId body, CanComplete toLowerCase finish.shared
          ⟨⟨finish.shared.nextCallId⟩, uploaderId, routeChannelId, body, finish.shared.now, []⟩ →
        ∃ count last ids, (uploadLoop toLowerCase).runFirst count
            ⟨((complete uploaderId routeChannelId body).accepted finish.shared).1,
              ((complete uploaderId routeChannelId body).accepted finish.shared).2⟩ =
            ⟨last, []⟩ ∧
          last.answers = finish.shared.answers ++ [(⟨finish.shared.nextCallId⟩, .ok ids)] ∧
          ids.length = body.sessions.length := by
  refine ⟨fun _ _ => allOrNothing_steps_iff, ?_⟩
  intro labels finish steps uploaderId routeChannelId body can
  have counted : Consistent { finish.shared with nextCallId := finish.shared.nextCallId + 1 } :=
    { consistent_of_steps steps with }
  obtain ⟨count, last, ids, ran, answers, length⟩ := exists_runFirst_complete counted
    ⟨can.up, can.allowed, can.fits, can.nodup, can.completes⟩
  exact ⟨count, last, ids, ran, answers, length.trans (Nat.zero_add _)⟩

/-- The checks of a task that can still throw, while its call has created an attachment. -/
def passesChecks (state : UploadState) : UploadTask → Bool
  | .findSession call sessionId _ => (checkSession state call sessionId).isOk
  | .headObject _ session _ => (checkObject state session).isOk
  | .close _ session _ => state.isOpen session.id
  | task => task.callOf.all fun call => call.attachmentIds = []

theorem throwsFirst_of_passesChecks (state : UploadState) (task : UploadTask)
    (passes : passesChecks state task = true) : ThrowsFirst state task := by
  have isOk {α : Type} {answer : Except Failure α} (ok : answer.isOk = true) :
      ∃ value, answer = .ok value := by
    cases answer with
    | error failure => cases ok
    | ok value => exact ⟨value, rfl⟩
  intro call isOf made
  have unmade (passed : (task.callOf.all fun call => call.attachmentIds = []) = true) :
      call.attachmentIds = [] := by
    rw [isOf] at passed
    exact of_decide_eq_true passed
  cases task with
  | findSession call sessionId rest =>
    obtain ⟨session, ok⟩ := isOk passes
    exact ⟨session, checkSession_eq_ok_iff.mp ok⟩
  | headObject call session rest =>
    obtain ⟨⟨⟩, ok⟩ := isOk passes
    exact checkObject_eq_ok_iff.mp ok
  | close call session rest => exact passes
  | _ => exact absurd (unmade passes) made

/-- A session with a file, and nothing else. -/
def uploaded : UploadState :=
  ((upload ⟨⟨⟨0⟩, "file"⟩, [0]⟩).accepted
    ((createSession ⟨1⟩ ⟨0⟩ 1 "text/plain" "file" 1000).accepted {}).1).1

/-- Two sessions are completed by one call, and one by a call that runs alone. -/
theorem sessions_completed : (∃ labels finish,
      Steps (Lawful (Step (uploadLoop id)) fun state => AllOrNothing state.shared) ⟨{}, []⟩ labels
          finish ∧
        finish.shared.answers.map (fun answer => answer.2.toOption) = [some [⟨0⟩, ⟨1⟩]]) ∧
    ∃ count last ids, (uploadLoop id).runFirst count
        ⟨((complete ⟨1⟩ ⟨0⟩
            { targetChannelId := some ⟨0⟩, sessions := [⟨0⟩] }).accepted uploaded).1,
          ((complete ⟨1⟩ ⟨0⟩
            { targetChannelId := some ⟨0⟩, sessions := [⟨0⟩] }).accepted uploaded).2⟩ =
        ⟨last, []⟩ ∧ last.answers = [(⟨0⟩, .ok ids)] ∧ ids.length = 1 := by
  have toUploaded : Steps (Step (uploadLoop id)) ⟨{}, []⟩
      ([.accept (.createSession ⟨1⟩ ⟨0⟩ 1 "text/plain" "file" 1000)] ++
        [.accept (.upload ⟨⟨⟨0⟩, "file"⟩, [0]⟩)]) ⟨uploaded, []⟩ :=
    .step (Steps.singleton_iff.mpr (.accept rfl)) (.accept rfl)
  have can : CanComplete id uploaded
      ⟨⟨0⟩, ⟨1⟩, ⟨0⟩, { targetChannelId := some ⟨0⟩, sessions := [⟨0⟩] }, 0, []⟩ := by
    refine ⟨rfl, rfl, ⟨rfl, by decide⟩, by decide, forall_mem_singleton.mpr ?_⟩
    exact ⟨_, mem_def.mpr (.head _), rfl, ⟨rfl, rfl, rfl, by decide⟩,
      _, mem_def.mpr (.head _), rfl, rfl, fun kind isKind => by cases isKind⟩
  refine ⟨?_, (complete_all_or_nothing_iff id).2 _ _ toUploaded _ _ _ can⟩
  exact exists_onResume_of_play ⟨{}, []⟩ (accepts_upload _) throwsFirst_of_passesChecks
    ((complete_all_or_nothing_iff id).1 _ _).mpr
    (uploadMoves ⟨1⟩ 0 ++ uploadMoves ⟨1⟩ 1 ++
      [.accept (.complete ⟨1⟩ ⟨0⟩ { targetChannelId := some ⟨0⟩, sessions := [⟨0⟩, ⟨1⟩] })] ++
      List.replicate 7 (.run 0)) (by decide +kernel)

/-- A call names a session with a file and one that does not exist. It throws at the second one and
leaves the attachment of the first one, so that a call with the first one alone throws as well. -/
theorem thrown_call_leaves_attachment : ∃ labels finish,
    Steps (Step (uploadLoop id)) ⟨{}, []⟩ labels finish ∧
      finish.shared.answers = [
        (⟨0⟩, failWith .attachmentSessionNotFound "upload session not found: 5"),
        (⟨1⟩, failWith .attachmentSessionNotFound "upload session already completed")] ∧
      finish.shared.creations = [⟨⟨0⟩, ⟨0⟩, ⟨0⟩⟩] ∧ ¬AllOrNothing finish.shared := by
  obtain ⟨labels, finish, steps, answers, creations⟩ :=
    exists_steps_of_play ⟨{}, []⟩ (accepts_upload id)
      (uploadMoves ⟨1⟩ 0 ++
        [.accept (.complete ⟨1⟩ ⟨0⟩ { targetChannelId := some ⟨0⟩, sessions := [⟨0⟩, ⟨5⟩] })] ++
        List.replicate 5 (.run 0) ++
        [.accept (.complete ⟨1⟩ ⟨0⟩ { targetChannelId := some ⟨0⟩, sessions := [⟨0⟩] })] ++
        List.replicate 2 (.run 0))
      (P := fun finish => finish.shared.answers = [
          (⟨0⟩, failWith .attachmentSessionNotFound "upload session not found: 5"),
          (⟨1⟩, failWith .attachmentSessionNotFound "upload session already completed")] ∧
        finish.shared.creations = [⟨⟨0⟩, ⟨0⟩, ⟨0⟩⟩]) (by decide +kernel)
  refine ⟨labels, finish, steps, answers, creations, fun law => ?_⟩
  have thrown : (⟨0⟩, failWith .attachmentSessionNotFound "upload session not found: 5") ∈
      finish.shared.answers := by
    rw [answers]
    exact .head _
  exact law.nothing _ thrown _ rfl ⟨⟨0⟩, ⟨0⟩, ⟨0⟩⟩ (creations ▸ .head _) rfl

end Bongtalk.Attachments
