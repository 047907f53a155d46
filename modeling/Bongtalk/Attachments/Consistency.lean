import Bongtalk.Attachments.UploadService

/-!
# What uploads keep

Sessions, attachments and messages get ids of their own, an attachment is made of one session, a
session makes one attachment at most, and a link stays.
-/

namespace Bongtalk.Attachments

open Library EventLoop Common Prisma UploadState Table CompleteCall List

variable {state next : UploadState}

/-- Every attachment has been made of a session, by a transaction that closed it, and the links are
those of the rows. -/
structure Consistent (state : UploadState) : Prop where
  messageBelow : ∀ message ∈ state.messages, message.id.value < state.nextMessageId
  sessionBelow : ∀ session ∈ state.sessions, session.id.value < state.nextSessionId
  attachmentBelow : ∀ row ∈ state.attachments, row.id.value < state.nextAttachmentId
  created : ∀ row ∈ state.attachments, ∃ creation ∈ state.creations,
    creation.attachmentId = row.id ∧ creation.sessionId = row.storageKey.sessionId
  sessionsApart : (state.creations.map Creation.sessionId).Nodup
  creationBelow : ∀ creation ∈ state.creations,
    creation.sessionId.value < state.nextSessionId ∧
      creation.attachmentId.value < state.nextAttachmentId
  closed : ∀ creation ∈ state.creations, ∀ session ∈ state.sessions,
    session.id = creation.sessionId → session.completed = true
  ofMessage : ∀ row ∈ state.attachments, ∀ messageId, row.messageId = some messageId →
    ∃ message ∈ state.messages, message.id = messageId
  linked : ∀ link ∈ state.links, link.1.value < state.nextAttachmentId ∧
    ∀ row ∈ state.attachments, row.id = link.1 → row.messageId = some link.2
  linkedOnce : ∀ first ∈ state.links, ∀ second ∈ state.links, first.1 = second.1 →
    first.2 = second.2

/-- The message of a call is there, in the channel of the call. -/
def CompleteCall.HasMessage (state : UploadState) (call : CompleteCall) : Prop :=
  ∀ messageId, call.body.messageId = some messageId →
    ∃ message ∈ state.messages, message.id = messageId ∧ message.channelId = call.routeChannelId

/-- What has been made of the session of an object. -/
def Orphan.WasCreated (state : UploadState) (orphan : Orphan) : Prop :=
  ∃ creation ∈ state.creations,
    creation.attachmentId = orphan.id ∧ creation.sessionId = orphan.storageKey.sessionId

/-- What a task has read. -/
def HasRead (state : UploadState) : UploadTask → Prop
  | .findMessage call messageId => call.body.messageId = some messageId
  | .authorize call | .count call _ | .findSession call _ _ | .headObject call _ _
  | .getObjectRange call _ _ _ | .deleteBadObject call _ | .deleteBadSession call _
  | .close call _ _ => call.HasMessage state
  | .recheckOrphan _ orphan _ rest | .blockOrphan _ orphan rest
  | .deleteOrphanObject _ orphan rest | .deleteOrphan _ orphan rest =>
    ∀ selected ∈ orphan :: rest, selected.WasCreated state
  | _ => True

/-- Messages stay where they are and whose they are, and creations are not undone. -/
structure Precedes (state next : UploadState) : Prop where
  messages : ∀ message ∈ state.messages, ∃ later ∈ next.messages,
    later.id = message.id ∧ later.channelId = message.channelId ∧ later.authorId = message.authorId
  creations : ∀ creation ∈ state.creations, creation ∈ next.creations

/-- What a task writes, apart from its answer. -/
inductive Effect (state : UploadState) : UploadTask → UploadState → Prop where
  | none {task : UploadTask} : Effect state task state
  | deleteBadObject {call : CompleteCall} {session : UploadSession} :
      Effect state (.deleteBadObject call session) (state.deleteObject session.storageKey)
  | deleteBadSession {call : CompleteCall} {session : UploadSession} :
      Effect state (.deleteBadSession call session) (state.deleteSession session.id)
  | close {call : CompleteCall} {session : UploadSession} {rest : List SessionId}
      {next : UploadState} (hasMessage : call.HasMessage state)
      (closed : state.closeSession call session = .ok next) :
      Effect state (.close call session rest) next
  | createMessage {request : SendRequest} :
      Effect state (.createMessage request) (state.sendMessage request.args)
  | blockOrphan {sweep : Sweep} {orphan : Orphan} {rest : List Orphan} :
      Effect state (.blockOrphan sweep orphan rest) (state.block orphan.id)
  | deleteOrphanObject {sweep : Sweep} {orphan : Orphan} {rest : List Orphan} :
      Effect state (.deleteOrphanObject sweep orphan rest) (state.deleteObject orphan.storageKey)
  | deleteOrphan {sweep : Sweep} {orphan : Orphan} {rest : List Orphan} :
      Effect state (.deleteOrphan sweep orphan rest) (state.deleteAttachment orphan.id)
  | deleteExpiredObject {sweep : Sweep} {session : ExpiredSession} {rest : List ExpiredSession} :
      Effect state (.deleteExpiredObject sweep session rest) (state.deleteObject session.storageKey)
  | deleteExpired {sweep : Sweep} {session : ExpiredSession} {rest : List ExpiredSession} :
      Effect state (.deleteExpired sweep session rest) (state.deleteSession session.id)

/-- The same state, but for what calls have answered. -/
def SameTables (state next : UploadState) : Prop :=
  { state with answers := next.answers } = next

section Effects

variable {call : CompleteCall}

theorem SameTables.refl : SameTables state state :=
  rfl

theorem sameTables_answer {result : Except Failure (List Messages.AttachmentId)} :
    SameTables state (state.answer call result) :=
  rfl

theorem sameTables_nextSession {rest : List SessionId} :
    SameTables state (state.nextSession call rest).1 := by
  cases rest <;> rfl

theorem sameTables_goOn {result : Except Failure UploadTask} :
    SameTables state (state.goOn call result).1 := by
  cases result <;> rfl

theorem SameTables.precedes (same : SameTables state next) : Precedes state next := by
  rw [← same]
  exact ⟨fun message present => ⟨message, present, rfl, rfl, rfl⟩, fun _ present => present⟩

theorem Precedes.trans {last : UploadState} (first : Precedes state next)
    (second : Precedes next last) : Precedes state last := by
  refine ⟨fun message present => ?_, fun creation present =>
    second.creations creation (first.creations creation present)⟩
  obtain ⟨later, laterMem, sameId, sameChannel, sameAuthor⟩ := first.messages message present
  obtain ⟨latest, latestMem, latestId, latestChannel, latestAuthor⟩ :=
    second.messages later laterMem
  exact ⟨latest, latestMem, latestId.trans sameId, latestChannel.trans sameChannel,
    latestAuthor.trans sameAuthor⟩

theorem SameTables.consistent (same : SameTables state next) (consistent : Consistent state) :
    Consistent next := by
  rw [← same]
  exact { consistent with }

theorem CompleteCall.HasMessage.later (hasMessage : call.HasMessage state)
    (later : Precedes state next) : call.HasMessage next := by
  intro messageId named
  obtain ⟨message, present, sameId, ofChannel⟩ := hasMessage messageId named
  obtain ⟨latest, latestMem, latestId, latestChannel, -⟩ := later.messages message present
  exact ⟨latest, latestMem, latestId.trans sameId, latestChannel.trans ofChannel⟩

theorem HasRead.later {task : UploadTask} (read : HasRead state task)
    (later : Precedes state next) : HasRead next task := by
  have orphans : ∀ {selected : List Orphan}, (∀ orphan ∈ selected, orphan.WasCreated state) →
      ∀ orphan ∈ selected, orphan.WasCreated next := by
    intro selected created orphan present
    obtain ⟨creation, creationMem, made⟩ := created orphan present
    exact ⟨creation, later.creations creation creationMem, made⟩
  cases task with
  | authorize call | count call messageId | findSession call sessionId rest
  | headObject call session rest | getObjectRange call session kind rest
  | deleteBadObject call session | deleteBadSession call session | close call session rest =>
    exact HasMessage.later read later
  | recheckOrphan sweep orphan kind rest | blockOrphan sweep orphan rest
  | deleteOrphanObject sweep orphan rest | deleteOrphan sweep orphan rest => exact orphans read
  | _ => exact read

end Effects

section Consistency

variable {call : CompleteCall} {session : UploadSession}

section

variable (consistent : Consistent state)

include consistent

/-- A session that is open has not made an attachment. -/
theorem Consistent.ne_of_isOpen {sessionId : SessionId} (isOpen : state.isOpen sessionId = true)
    {creation : Creation} (made : creation ∈ state.creations) : creation.sessionId ≠ sessionId := by
  intro same
  obtain ⟨session, present, isIt⟩ := any_eq_true.mp isOpen
  simp only [Bool.and_eq_true, decide_eq_true_eq, Bool.not_eq_true'] at isIt
  rw [consistent.closed creation made session present (isIt.1.trans same.symm)] at isIt
  cases isIt.2

theorem Consistent.below_of_isOpen {sessionId : SessionId} (isOpen : state.isOpen sessionId = true) :
    sessionId.value < state.nextSessionId := by
  obtain ⟨session, present, isIt⟩ := any_eq_true.mp isOpen
  simp only [Bool.and_eq_true, decide_eq_true_eq] at isIt
  exact isIt.1 ▸ consistent.sessionBelow session present

/-- The id of a new attachment is new. -/
theorem Consistent.insert_completedRow :
    ∃ attachments, state.attachments.insert? (state.completedRow call session) =
      some attachments := by
  refine Option.ne_none_iff_exists'.mp fun repeated => ?_
  obtain ⟨row, present, sameId⟩ := Table.insert?_eq_none_iff.mp repeated
  have below := consistent.attachmentBelow row present
  rw [sameId] at below
  exact Nat.lt_irrefl _ below

/-- The transaction of `complete` commits exactly when it finds its session open. -/
theorem Consistent.closeSession_eq_ok_iff :
    (∃ next, state.closeSession call session = .ok next) ↔ state.isOpen session.id = true := by
  rw [closeSession]
  split
  next isOpen =>
    obtain ⟨attachments, inserted⟩ := consistent.insert_completedRow
    rw [inserted]
    exact iff_of_true ⟨_, rfl⟩ isOpen
  next isClosed =>
    refine iff_of_false ?_ isClosed
    rintro ⟨next, ok⟩
    exact failWith_ne_ok ok

end

/-- What the transaction of `complete` writes. -/
theorem closeSession_eq_ok (ok : state.closeSession call session = .ok next) :
    state.isOpen session.id = true ∧ ∃ attachments,
      state.attachments.insert? (state.completedRow call session) = some attachments ∧
      next = { state with
        sessions := state.closedSessions session.id
        attachments := attachments
        nextAttachmentId := state.nextAttachmentId + 1
        creations := state.creations ++ [⟨call.id, session.id, ⟨state.nextAttachmentId⟩⟩]
        links := state.links ++
          call.body.messageId.toList.map fun messageId => (⟨state.nextAttachmentId⟩, messageId) } := by
  rw [closeSession] at ok
  split at ok
  next isOpen =>
    split at ok
    · cases ok
    next attachments inserted => exact ⟨isOpen, attachments, inserted, (Except.ok.inj ok).symm⟩
  · exact (failWith_ne_ok ok).elim

theorem mem_closedSessions {sessionId : SessionId} {later : UploadSession} :
    later ∈ state.closedSessions sessionId ↔ ∃ earlier ∈ state.sessions,
      (if earlier.id = sessionId then { earlier with completed := true } else earlier) = later :=
  mem_rewrite

theorem Consistent.close (consistent : Consistent state) (hasMessage : call.HasMessage state)
    (ok : state.closeSession call session = .ok next) : Consistent next := by
  obtain ⟨isOpen, attachments, inserted, rfl⟩ := closeSession_eq_ok ok
  have mem_attachments {row : AttachmentRow} : row ∈ attachments ↔
      row = state.completedRow call session ∨ row ∈ state.attachments := mem_insert? inserted
  constructor
  case messageBelow => exact consistent.messageBelow
  case sessionBelow =>
    intro later present
    obtain ⟨earlier, earlierMem, rfl⟩ := mem_closedSessions.mp present
    have below := consistent.sessionBelow earlier earlierMem
    split <;> exact below
  case attachmentBelow =>
    intro row present
    rcases mem_attachments.mp present with rfl | isOld
    · exact Nat.lt_succ_self _
    · exact Nat.lt_succ_of_lt (consistent.attachmentBelow row isOld)
  case created =>
    intro row present
    rcases mem_attachments.mp present with rfl | isOld
    · exact ⟨_, mem_append_right _ (mem_singleton_self _), rfl, session.ownKey.symm⟩
    obtain ⟨creation, made, ofRow⟩ := consistent.created row isOld
    exact ⟨creation, mem_append_left _ made, ofRow⟩
  case sessionsApart =>
    rw [map_append, map_singleton, ← concat_eq_append]
    refine consistent.sessionsApart.concat fun repeated => ?_
    obtain ⟨creation, made, same⟩ := mem_map.mp repeated
    exact consistent.ne_of_isOpen isOpen made same
  case creationBelow =>
    intro creation made
    rcases mem_append.mp made with isOld | isNew
    · exact (consistent.creationBelow creation isOld).imp_right Nat.lt_succ_of_lt
    obtain rfl := mem_singleton.mp isNew
    exact ⟨consistent.below_of_isOpen isOpen, Nat.lt_succ_self _⟩
  case closed =>
    intro creation made later present sameId
    obtain ⟨earlier, earlierMem, rfl⟩ := mem_closedSessions.mp present
    split at sameId
    next isIt => rw [if_pos isIt]
    next isOther =>
      rw [if_neg isOther]
      rcases mem_append.mp made with isOld | isNew
      · exact consistent.closed creation isOld earlier earlierMem sameId
      obtain rfl := mem_singleton.mp isNew
      exact absurd sameId isOther
  case ofMessage =>
    intro row present messageId ofMessage
    rcases mem_attachments.mp present with rfl | isOld
    · obtain ⟨message, messageMem, sameId, -⟩ := hasMessage messageId ofMessage
      exact ⟨message, messageMem, sameId⟩
    · exact consistent.ofMessage row isOld messageId ofMessage
  case linked =>
    intro link made
    rcases mem_append.mp made with isOld | isNew
    · refine ⟨Nat.lt_succ_of_lt (consistent.linked link isOld).1, fun row present sameId => ?_⟩
      rcases mem_attachments.mp present with rfl | rowOld
      · have below := (consistent.linked link isOld).1
        rw [← sameId] at below
        exact absurd below (Nat.lt_irrefl _)
      · exact (consistent.linked link isOld).2 row rowOld sameId
    · obtain ⟨messageId, named, rfl⟩ := mem_map.mp isNew
      refine ⟨Nat.lt_succ_self _, fun row present sameId => ?_⟩
      rcases mem_attachments.mp present with rfl | rowOld
      · exact Option.mem_toList.mp named
      have below := consistent.attachmentBelow row rowOld
      rw [sameId] at below
      exact absurd below (Nat.lt_irrefl _)
  case linkedOnce =>
    have newApart : ∀ old ∈ state.links, old.1 ≠ ⟨state.nextAttachmentId⟩ := by
      intro old oldMem same
      have below := (consistent.linked old oldMem).1
      rw [same] at below
      exact Nat.lt_irrefl _ below
    intro first firstMem second secondMem same
    rcases mem_append.mp firstMem with firstOld | firstNew
    · rcases mem_append.mp secondMem with secondOld | secondNew
      · exact consistent.linkedOnce first firstOld second secondOld same
      obtain ⟨messageId, -, rfl⟩ := mem_map.mp secondNew
      exact absurd same (newApart first firstOld)
    · obtain ⟨messageId, named, rfl⟩ := mem_map.mp firstNew
      rcases mem_append.mp secondMem with secondOld | secondNew
      · exact absurd same.symm (newApart second secondOld)
      obtain ⟨other, otherNamed, rfl⟩ := mem_map.mp secondNew
      exact Option.some.inj
        ((Option.mem_toList.mp named).symm.trans (Option.mem_toList.mp otherNamed))

section Send

variable {args : Messages.SendArgs}

variable {row : AttachmentRow}

theorem linksOf_iff : linksOf args row = true ↔
    row.id ∈ args.attachmentIds ∧ row.messageId = none ∧ row.uploaderId = args.authorId ∧
      row.channelId = args.channelId := by
  simp only [linksOf, Bool.and_eq_true, contains_eq_mem, decide_eq_true_eq, beq_iff_eq, and_assoc]

@[simp]
theorem linkedRow_storageKey : (state.linkedRow args row).storageKey = row.storageKey := by
  rw [linkedRow]
  split <;> rfl

/-- The id of a new message is new. -/
theorem Consistent.insert_newMessage (consistent : Consistent state) (args : Messages.SendArgs) :
    ∃ messages, state.messages.insert? (state.newMessage args) = some messages := by
  refine Option.ne_none_iff_exists'.mp fun repeated => ?_
  obtain ⟨message, present, sameId⟩ := Table.insert?_eq_none_iff.mp repeated
  have below := consistent.messageBelow message present
  rw [sameId] at below
  exact Nat.lt_irrefl _ below

/-- What the transaction of a send writes. -/
structure Sent (state : UploadState) (args : Messages.SendArgs) (next : UploadState) : Prop where
  mem_messages : ∀ {message}, message ∈ next.messages ↔
    message = state.newMessage args ∨ message ∈ state.messages
  attachments_rows : next.attachments.rows = state.attachments.rows.map (state.linkedRow args)
  others : next = { state with
    messages := next.messages
    attachments := next.attachments
    nextMessageId := state.nextMessageId + 1
    links := state.links ++ (state.attachments.findMany (linksOf args)).map fun row =>
      (row.id, ⟨state.nextMessageId⟩) }

theorem Consistent.sent (consistent : Consistent state) :
    Sent state args (state.sendMessage args) := by
  obtain ⟨messages, inserted⟩ := consistent.insert_newMessage args
  rw [sendMessage, inserted]
  exact ⟨mem_insert? inserted, rfl, rfl⟩

theorem Sent.mem_attachments (sent : Sent state args next) :
    row ∈ next.attachments ↔ ∃ earlier ∈ state.attachments, state.linkedRow args earlier = row := by
  rw [mem_def, sent.attachments_rows, mem_map]
  exact Iff.rfl

/-- A row that has a message keeps it, and one of another message than the new one has had it. -/
theorem linkedRow_of_ne_none (linked : row.messageId ≠ none) : state.linkedRow args row = row :=
  if_neg fun links => linked (linksOf_iff.mp links).2.1

theorem Consistent.send (consistent : Consistent state) :
    Consistent (state.sendMessage args) := by
  have sent : Sent state args (state.sendMessage args) := consistent.sent
  have others := sent.others
  generalize state.sendMessage args = next at sent others
  have links_eq : next.links = state.links ++
      (state.attachments.findMany (linksOf args)).map fun row =>
        (row.id, ⟨state.nextMessageId⟩) := by
    rw [others]
  have sameSessions : next.sessions = state.sessions := by rw [others]
  have sameCreations : next.creations = state.creations := by rw [others]
  have nextIds : next.nextMessageId = state.nextMessageId + 1 ∧
      next.nextSessionId = state.nextSessionId ∧
      next.nextAttachmentId = state.nextAttachmentId := by
    rw [others]
    exact ⟨rfl, rfl, rfl⟩
  obtain ⟨nextMessage, nextSession, nextAttachment⟩ := nextIds
  have newLink {link : Messages.AttachmentId × MessageId}
      (isNew : link ∈ (state.attachments.findMany (linksOf args)).map fun row =>
        (row.id, ⟨state.nextMessageId⟩)) :
      link.2 = ⟨state.nextMessageId⟩ ∧ ∃ row ∈ state.attachments, row.id = link.1 ∧
        linksOf args row = true := by
    obtain ⟨row, found, rfl⟩ := mem_map.mp isNew
    obtain ⟨present, links⟩ := mem_findMany.mp found
    exact ⟨rfl, row, present, rfl, links⟩
  have newApart {old link : Messages.AttachmentId × MessageId} (oldMem : old ∈ state.links)
      (isNew : link ∈ (state.attachments.findMany (linksOf args)).map fun row =>
        (row.id, ⟨state.nextMessageId⟩)) : old.1 ≠ link.1 := by
    intro same
    obtain ⟨-, row, present, sameId, links⟩ := newLink isNew
    have linked := (consistent.linked old oldMem).2 row present (sameId.trans same.symm)
    rw [(linksOf_iff.mp links).2.1] at linked
    cases linked
  constructor
  case messageBelow =>
    intro message present
    rw [nextMessage]
    rcases sent.mem_messages.mp present with rfl | isOld
    · exact Nat.lt_succ_self _
    · exact Nat.lt_succ_of_lt (consistent.messageBelow message isOld)
  case sessionBelow =>
    rw [sameSessions, nextSession]
    exact consistent.sessionBelow
  case attachmentBelow =>
    intro row present
    obtain ⟨earlier, earlierMem, rfl⟩ := sent.mem_attachments.mp present
    rw [nextAttachment, linkedRow_id]
    exact consistent.attachmentBelow earlier earlierMem
  case created =>
    intro row present
    obtain ⟨earlier, earlierMem, rfl⟩ := sent.mem_attachments.mp present
    rw [sameCreations, linkedRow_id, linkedRow_storageKey]
    exact consistent.created earlier earlierMem
  case sessionsApart =>
    rw [sameCreations]
    exact consistent.sessionsApart
  case creationBelow =>
    rw [sameCreations, nextSession, nextAttachment]
    exact consistent.creationBelow
  case closed =>
    rw [sameCreations, sameSessions]
    exact consistent.closed
  case ofMessage =>
    intro row present messageId ofMessage
    obtain ⟨earlier, earlierMem, rfl⟩ := sent.mem_attachments.mp present
    rw [UploadState.linkedRow] at ofMessage
    split at ofMessage
    · exact ⟨_, sent.mem_messages.mpr (.inl rfl), Option.some.inj ofMessage⟩
    obtain ⟨message, messageMem, sameId⟩ :=
      consistent.ofMessage earlier earlierMem messageId ofMessage
    exact ⟨message, sent.mem_messages.mpr (.inr messageMem), sameId⟩
  case linked =>
    intro link made
    rw [links_eq] at made
    rw [nextAttachment]
    rcases mem_append.mp made with isOld | isNew
    · refine ⟨(consistent.linked link isOld).1, fun row present sameId => ?_⟩
      obtain ⟨earlier, earlierMem, rfl⟩ := sent.mem_attachments.mp present
      rw [linkedRow_id] at sameId
      have linked := (consistent.linked link isOld).2 earlier earlierMem sameId
      have ne_none : earlier.messageId ≠ none := linked ▸ Option.some_ne_none _
      rw [linkedRow_of_ne_none ne_none]
      exact linked
    · obtain ⟨toMessage, linkedRow, linkedRowMem, linkedId, links⟩ := newLink isNew
      refine ⟨linkedId ▸ consistent.attachmentBelow linkedRow linkedRowMem,
        fun row present sameId => ?_⟩
      obtain ⟨earlier, earlierMem, rfl⟩ := sent.mem_attachments.mp present
      rw [linkedRow_id] at sameId
      obtain rfl := eq_of_key_eq earlierMem linkedRowMem (sameId.trans linkedId.symm)
      rw [UploadState.linkedRow, if_pos links, toMessage]
  case linkedOnce =>
    intro first firstMem second secondMem same
    rw [links_eq] at firstMem secondMem
    rcases mem_append.mp firstMem with firstOld | firstNew
    · rcases mem_append.mp secondMem with secondOld | secondNew
      · exact consistent.linkedOnce first firstOld second secondOld same
      · exact absurd same (newApart firstOld secondNew)
    · rcases mem_append.mp secondMem with secondOld | secondNew
      · exact absurd same.symm (newApart secondOld firstNew)
      · exact (newLink firstNew).1.trans (newLink secondNew).1.symm

end Send

theorem Consistent.deleteObject (consistent : Consistent state) {key : StorageKey} :
    Consistent (state.deleteObject key) :=
  { consistent with }

theorem Consistent.deleteSession (consistent : Consistent state) {id : SessionId} :
    Consistent (state.deleteSession id) :=
  { consistent with
    sessionBelow := fun session present =>
      consistent.sessionBelow session (mem_deleteMany.mp present).1
    closed := fun creation made session present =>
      consistent.closed creation made session (mem_deleteMany.mp present).1 }

variable {id : Messages.AttachmentId}

theorem Consistent.deleteAttachment (consistent : Consistent state) :
    Consistent (state.deleteAttachment id) :=
  { consistent with
    attachmentBelow := fun row present =>
      consistent.attachmentBelow row (mem_deleteMany.mp present).1
    created := fun row present => consistent.created row (mem_deleteMany.mp present).1
    ofMessage := fun row present => consistent.ofMessage row (mem_deleteMany.mp present).1
    linked := fun link made => ⟨(consistent.linked link made).1, fun row present =>
      (consistent.linked link made).2 row (mem_deleteMany.mp present).1⟩ }

/-- A row after it may have been blocked is the row but for its status. -/
theorem mem_block {row : AttachmentRow} (present : row ∈ (state.block id).attachments) :
    ∃ earlier ∈ state.attachments, ∃ status, { earlier with processingStatus := status } = row := by
  obtain ⟨earlier, earlierMem, rfl⟩ := mem_map.mp present
  refine ⟨earlier, earlierMem, ?_⟩
  split
  · exact ⟨.blocked, rfl⟩
  · exact ⟨earlier.processingStatus, rfl⟩

theorem Consistent.block (consistent : Consistent state) :
    Consistent (state.block id) :=
  { consistent with
    attachmentBelow := fun row present => by
      obtain ⟨earlier, earlierMem, status, rfl⟩ := mem_block present
      exact consistent.attachmentBelow earlier earlierMem
    created := fun row present => by
      obtain ⟨earlier, earlierMem, status, rfl⟩ := mem_block present
      exact consistent.created earlier earlierMem
    ofMessage := fun row present => by
      obtain ⟨earlier, earlierMem, status, rfl⟩ := mem_block present
      exact consistent.ofMessage earlier earlierMem
    linked := fun link made => ⟨(consistent.linked link made).1, fun row present => by
      obtain ⟨earlier, earlierMem, status, rfl⟩ := mem_block present
      exact (consistent.linked link made).2 earlier earlierMem⟩ }

/-- Each effect keeps what uploads keep. -/
theorem Effect.consistent {task : UploadTask} (effect : Effect state task next)
    (consistent : Consistent state) : Consistent next := by
  cases effect with
  | none => exact consistent
  | deleteBadObject | deleteOrphanObject | deleteExpiredObject => exact consistent.deleteObject
  | deleteBadSession | deleteExpired => exact consistent.deleteSession
  | close hasMessage closed => exact consistent.close hasMessage closed
  | createMessage => exact consistent.send
  | blockOrphan => exact consistent.block
  | deleteOrphan => exact consistent.deleteAttachment

theorem Effect.precedes {task : UploadTask} (effect : Effect state task next)
    (consistent : Consistent state) : Precedes state next := by
  cases effect with
  | close hasMessage closed =>
    obtain ⟨-, attachments, -, rfl⟩ := closeSession_eq_ok closed
    exact ⟨fun message present => ⟨message, present, rfl, rfl, rfl⟩,
      fun creation made => mem_append_left _ made⟩
  | @createMessage request =>
    have sent : Sent state request.args (state.sendMessage request.args) := consistent.sent
    refine ⟨fun message present => ⟨message, sent.mem_messages.mpr (.inr present), rfl, rfl, rfl⟩,
      fun creation made => ?_⟩
    rw [sent.others]
    exact made
  | _ => exact ⟨fun message present => ⟨message, present, rfl, rfl, rfl⟩, fun _ made => made⟩

end Consistency

section Resume

variable {task : UploadTask} {call : CompleteCall}

theorem mem_goOn {next : Except Failure UploadTask} {new : UploadTask} :
    new ∈ (state.goOn call next).2 ↔ next = .ok new := by
  cases next with
  | error failure => simp [goOn]
  | ok task => simp [goOn, eq_comm]

theorem mem_nextSession {rest : List SessionId} {new : UploadTask} :
    new ∈ (state.nextSession call rest).2 ↔
      ∃ sessionId later, rest = sessionId :: later ∧ new = .findSession call sessionId later := by
  cases rest with
  | nil | cons sessionId later => simp [nextSession]

theorem checkTarget_eq_ok_iff {targetChannelId : ChannelId} :
    checkTarget call targetChannelId = .ok task ↔
      targetChannelId = call.routeChannelId ∧ task = .authorize call := by
  rw [checkTarget, check_bind_eq_ok, failIf_eq_ok, bne_eq_false_iff_eq, Except.ok.injEq,
    eq_comm (a := task)]

/-- A call that goes on after its message has been read is one to the channel of the message. -/
theorem checkMessage_eq_ok {messageId : MessageId}
    (ok : checkMessage state call messageId = .ok task) :
    task = .authorize call ∧ ∃ message ∈ state.messages, message.id = messageId ∧
      message.channelId = call.routeChannelId := by
  rw [checkMessage] at ok
  split at ok
  · exact (failWith_ne_ok ok).elim
  next message found =>
    obtain ⟨ofChannel, rfl⟩ := checkTarget_eq_ok_iff.mp ok
    obtain ⟨present, sameId⟩ := mem_of_findUnique (Option.mem_filter_iff.mp found).1
    exact ⟨rfl, message, present, sameId, ofChannel⟩

section Batches

variable {toLowerCase : String → String} {sweep : Sweep} {new : UploadTask}

theorem hasRead_nextOrphan {orphans : List Orphan}
    (created : ∀ orphan ∈ orphans, orphan.WasCreated state)
    (isNew : new ∈ sweep.nextOrphan toLowerCase orphans) : HasRead state new := by
  cases orphans with
  | nil =>
    rw [Sweep.nextOrphan, mem_singleton] at isNew
    rw [isNew]
    split <;> trivial
  | cons orphan rest =>
    rw [Sweep.nextOrphan] at isNew
    split at isNew
    · obtain rfl := mem_singleton.mp isNew
      exact created
    · obtain rfl := mem_singleton.mp isNew
      exact created

theorem hasRead_nextExpired {sessions : List ExpiredSession}
    (isNew : new ∈ sweep.nextExpired sessions) : HasRead state new := by
  cases sessions with
  | nil =>
    rw [Sweep.nextExpired] at isNew
    split at isNew
    · obtain rfl := mem_singleton.mp isNew
      trivial
    · cases isNew
  | cons session rest =>
    obtain rfl := mem_singleton.mp isNew
    trivial

/-- What a sweep selects has been made of a session. -/
theorem Consistent.wasCreated (consistent : Consistent state) {cutoff : DateTime} :
    ∀ orphan ∈ state.orphans cutoff, orphan.WasCreated state := by
  intro orphan selected
  obtain ⟨row, rowMem, rfl⟩ := mem_map.mp selected
  have sorted := mem_of_mem_take rowMem
  rw [mem_insertionSort] at sorted
  exact consistent.created row (mem_findMany.mp sorted).1

end Batches

/-- A task has an effect and answers at most, and leaves tasks that have read what they need. -/
structure Resumed (state : UploadState) (task : UploadTask)
    (result : UploadState × List UploadTask) : Prop where
  effect : ∃ middle, Effect state task middle ∧ SameTables middle result.1
  fresh : ∀ new ∈ result.2, HasRead result.1 new

variable {result : UploadState × List UploadTask}

theorem Resumed.of_same (same : SameTables state result.1)
    (fresh : ∀ new ∈ result.2, HasRead state new) :
    Resumed state task result :=
  ⟨⟨state, .none, same⟩, fun new isNew => (fresh new isNew).later same.precedes⟩

theorem Resumed.of_answer {result : Except Failure (List Messages.AttachmentId)} :
    Resumed state task (state.answer call result, []) :=
  .of_same sameTables_answer (forall_mem_nil _)

/-- A call that goes on does so with its message. -/
theorem Resumed.of_goOn {next : Except Failure UploadTask}
    (fresh : ∀ new, next = .ok new → HasRead state new) :
    Resumed state task (state.goOn call next) :=
  .of_same sameTables_goOn fun new isNew => fresh new (mem_goOn.mp isNew)

theorem Resumed.of_nextSession {rest : List SessionId} (hasMessage : call.HasMessage state) :
    Resumed state task (state.nextSession call rest) := by
  refine .of_same sameTables_nextSession fun new isNew => ?_
  obtain ⟨sessionId, later, -, rfl⟩ := mem_nextSession.mp isNew
  exact hasMessage

/-- A write that leaves tasks which go by what has been read before it. -/
theorem Resumed.of_effect {next : UploadState} {spawned : List UploadTask}
    (consistent : Consistent state) (effect : Effect state task next)
    (fresh : ∀ new ∈ spawned, HasRead state new) : Resumed state task (next, spawned) :=
  ⟨⟨next, effect, .refl⟩, fun new isNew => (fresh new isNew).later (effect.precedes consistent)⟩

theorem resumed {toLowerCase : String → String} (consistent : Consistent state)
    (read : HasRead state task) : Resumed state task (task.resume toLowerCase state) := by
  cases task with
  | findMessage call messageId =>
    refine .of_goOn fun new ok => ?_
    obtain ⟨rfl, found⟩ := checkMessage_eq_ok ok
    intro named isNamed
    cases isNamed.symm.trans read
    exact found
  | authorize call =>
    rw [UploadTask.resume]
    split
    · exact .of_answer
    split
    · exact .of_same .refl (forall_mem_singleton.mpr read)
    split
    · exact .of_answer
    · exact .of_nextSession read
  | count call messageId =>
    rw [UploadTask.resume]
    split
    · exact .of_answer
    · exact .of_nextSession read
  | findSession call sessionId rest =>
    refine .of_goOn fun new ok => ?_
    obtain ⟨session, -, rfl⟩ := map_eq_ok ok
    exact read
  | headObject call session rest =>
    refine .of_goOn fun new ok => ?_
    obtain ⟨-, -, rfl⟩ := map_eq_ok ok
    split <;> exact read
  | getObjectRange call session kind rest =>
    refine .of_goOn fun new ok => ?_
    split at ok
    · cases ok
      split <;> exact read
    · cases ok
  | deleteBadObject call session =>
    rw [UploadTask.resume]
    split
    · exact .of_effect consistent .deleteBadObject (forall_mem_singleton.mpr read)
    · exact .of_answer
  | deleteBadSession call session =>
    rw [UploadTask.resume]
    split
    · exact .of_answer
    · exact ⟨⟨_, .deleteBadSession, sameTables_answer⟩, forall_mem_nil _⟩
  | close call session rest =>
    rw [UploadTask.resume]
    split
    · exact .of_answer
    next closed ok =>
      have effect : Effect state (.close call session rest) closed := .close read ok
      refine ⟨⟨closed, effect, sameTables_nextSession⟩, fun new isNew => ?_⟩
      obtain ⟨sessionId, later, -, rfl⟩ := mem_nextSession.mp isNew
      have afterwards : call.HasMessage closed :=
        HasMessage.later read (effect.precedes consistent)
      exact afterwards.later sameTables_nextSession.precedes
  | findAttachments request =>
    rw [UploadTask.resume]
    split
    · exact .of_same .refl (forall_mem_singleton.mpr trivial)
    · exact .of_same .refl (forall_mem_nil _)
  | createMessage request =>
    rw [UploadTask.resume]
    split
    · exact .of_effect consistent .createMessage (forall_mem_nil _)
    · exact .of_same .refl (forall_mem_nil _)
  | findOrphans sweep =>
    refine .of_same .refl fun new isNew => ?_
    rw [UploadTask.resume] at isNew
    split at isNew
    · obtain rfl := mem_singleton.mp isNew
      trivial
    · exact hasRead_nextOrphan consistent.wasCreated isNew
  | recheckOrphan sweep orphan kind rest =>
    refine .of_same .refl fun new isNew => ?_
    rw [UploadTask.resume] at isNew
    dsimp only at isNew
    split at isNew
    · obtain rfl := mem_singleton.mp isNew
      split <;> exact read
    · exact hasRead_nextOrphan (forall_mem_cons.mp read).2 isNew
  | blockOrphan sweep orphan rest =>
    rw [UploadTask.resume]
    split
    · exact .of_same .refl fun new => hasRead_nextOrphan (forall_mem_cons.mp read).2
    · exact .of_effect consistent .blockOrphan (forall_mem_singleton.mpr read)
  | deleteOrphanObject sweep orphan rest =>
    rw [UploadTask.resume]
    split
    · exact .of_effect consistent .deleteOrphanObject (forall_mem_singleton.mpr read)
    · exact .of_same .refl fun new => hasRead_nextOrphan (forall_mem_cons.mp read).2
  | deleteOrphan sweep orphan rest =>
    rw [UploadTask.resume]
    split
    · exact .of_same .refl fun new => hasRead_nextOrphan (forall_mem_cons.mp read).2
    exact .of_effect consistent .deleteOrphan fun new =>
      hasRead_nextOrphan (forall_mem_cons.mp read).2
  | findExpired sweep =>
    refine .of_same .refl fun new isNew => ?_
    rw [UploadTask.resume] at isNew
    dsimp only at isNew
    split at isNew
    · cases isNew
    · exact hasRead_nextExpired isNew
  | deleteExpiredObject sweep session rest =>
    rw [UploadTask.resume]
    split
    · exact .of_effect consistent .deleteExpiredObject (forall_mem_singleton.mpr trivial)
    · exact .of_same .refl fun new => hasRead_nextExpired
  | deleteExpired sweep session rest =>
    rw [UploadTask.resume]
    split
    · exact .of_same .refl fun new => hasRead_nextExpired
    · exact .of_effect consistent .deleteExpired fun new => hasRead_nextExpired

theorem Resumed.keeps (consistent : Consistent state) (resumed : Resumed state task result) :
    Keeps Consistent HasRead state result.1 result.2 := by
  obtain ⟨middle, effect, same⟩ := resumed.effect
  refine ⟨same.consistent (effect.consistent consistent), fun waiting read => ?_, resumed.fresh⟩
  exact read.later ((effect.precedes consistent).trans same.precedes)

end Resume

/-- A call that begins answers at most, and goes on with its message. -/
theorem beginComplete_spec (state : UploadState) (call : CompleteCall) : SameTables state (state.beginComplete call).1 ∧
    ∀ new ∈ (state.beginComplete call).2, HasRead state new := by
  rw [beginComplete]
  split
  next messageId named => exact ⟨.refl, forall_mem_singleton.mpr named⟩
  next none_ =>
    have hasMessage : call.HasMessage state := by
      intro messageId named
      rw [none_] at named
      cases named
    split
    · exact ⟨sameTables_goOn, fun new isNew => (failWith_ne_ok (mem_goOn.mp isNew)).elim⟩
    refine ⟨sameTables_goOn, fun new isNew => ?_⟩
    obtain ⟨-, rfl⟩ := checkTarget_eq_ok_iff.mp (mem_goOn.mp isNew)
    exact hasMessage

/-- What the outside world leaves alone. -/
structure Untouched (state next : UploadState) : Prop where
  attachments : next.attachments = state.attachments
  creations : next.creations = state.creations
  links : next.links = state.links
  sweptLinked : next.sweptLinked = state.sweptLinked
  precedes : Precedes state next

theorem Untouched.of_same {next : UploadState} (messages : next.messages = state.messages)
    (attachments : next.attachments = state.attachments)
    (creations : next.creations = state.creations) (links : next.links = state.links)
    (sweptLinked : next.sweptLinked = state.sweptLinked) : Untouched state next := by
  refine ⟨attachments, creations, links, sweptLinked, fun message present => ?_,
    fun creation made => creations ▸ made⟩
  exact ⟨message, messages ▸ present, rfl, rfl, rfl⟩

theorem untouched_accepted {input : UploadInput} : Untouched state (input.accepted state).1 := by
  cases input with
  | createSession uploaderId channelId sizeBytes mimeType path ttl =>
    rw [UploadInput.accepted]
    split <;> exact .of_same rfl rfl rfl rfl rfl
  | deleteMessage messageId =>
    refine ⟨rfl, rfl, rfl, rfl, fun message present => ?_, fun _ made => made⟩
    refine ⟨_, mem_map.mpr ⟨message, present, rfl⟩, ?_⟩
    split <;> exact ⟨rfl, rfl, rfl⟩
  | complete uploaderId routeChannelId body =>
    obtain ⟨same, -⟩ := beginComplete_spec { state with nextCallId := state.nextCallId + 1 }
      ⟨⟨state.nextCallId⟩, uploaderId, routeChannelId, body, state.now, []⟩
    rw [UploadInput.accepted, ← same]
    exact .of_same rfl rfl rfl rfl rfl
  | _ => exact .of_same rfl rfl rfl rfl rfl

theorem keeps_accepted {input : UploadInput} (consistent : Consistent state) :
    Keeps Consistent HasRead state (input.accepted state).1 (input.accepted state).2 := by
  have later : Precedes state (input.accepted state).1 := untouched_accepted.precedes
  refine ⟨?_, fun waiting read => read.later later, ?_⟩
  · cases input with
    | createSession uploaderId channelId sizeBytes mimeType path ttl =>
      rw [UploadInput.accepted]
      split
      · exact consistent
      next sessions inserted =>
        refine { consistent with
          sessionBelow := fun session present => ?_
          creationBelow := fun creation made => ?_
          closed := fun creation made session present sameId => ?_ }
        · rcases (mem_insert? inserted).mp present with rfl | isOld
          · exact Nat.lt_succ_self _
          · exact Nat.lt_succ_of_lt (consistent.sessionBelow session isOld)
        · exact (consistent.creationBelow creation made).imp_left Nat.lt_succ_of_lt
        · rcases (mem_insert? inserted).mp present with rfl | isOld
          · have below := (consistent.creationBelow creation made).1
            rw [← sameId] at below
            exact absurd below (Nat.lt_irrefl _)
          · exact consistent.closed creation made session isOld sameId
    | deleteMessage messageId =>
      refine { consistent with
        messageBelow := fun message present => ?_
        ofMessage := fun row present named isNamed => ?_ }
      · obtain ⟨earlier, earlierMem, rfl⟩ := mem_map.mp present
        have below := consistent.messageBelow earlier earlierMem
        split <;> exact below
      · obtain ⟨message, messageMem, sameId⟩ := consistent.ofMessage row present named isNamed
        obtain ⟨latest, latestMem, latestId, -⟩ := later.messages message messageMem
        exact ⟨latest, latestMem, latestId.trans sameId⟩
    | complete uploaderId routeChannelId body =>
      obtain ⟨same, -⟩ := beginComplete_spec { state with nextCallId := state.nextCallId + 1 }
        ⟨⟨state.nextCallId⟩, uploaderId, routeChannelId, body, state.now, []⟩
      exact same.consistent { consistent with }
    | _ => exact { consistent with }
  · cases input with
    | complete uploaderId routeChannelId body =>
      obtain ⟨same, fresh⟩ := beginComplete_spec
        { state with nextCallId := state.nextCallId + 1 }
        ⟨⟨state.nextCallId⟩, uploaderId, routeChannelId, body, state.now, []⟩
      exact fun new isNew => (fresh new isNew).later same.precedes
    | createSession uploaderId channelId sizeBytes mimeType path ttl =>
      rw [UploadInput.accepted]
      split <;> exact forall_mem_nil _
    | send request =>
      refine forall_mem_singleton.mpr ?_
      split <;> trivial
    | sweep => exact forall_mem_singleton.mpr trivial
    | _ => exact forall_mem_nil _

theorem consistent_empty : Consistent {} := by
  constructor <;> simp [mem_def, Table.empty]

theorem consistent_of_steps {toLowerCase : String → String}
    {labels : List (Label UploadTask UploadInput)} {finish : State UploadState UploadTask}
    (steps : Steps (Step (uploadLoop toLowerCase)) ⟨{}, []⟩ labels finish) :
    Consistent finish.shared := by
  have free : Steps (Guarded (Step (uploadLoop toLowerCase)) (OnResume fun _ _ => True)) ⟨{}, []⟩
      labels finish := by
    refine steps.mono fun {state label next} step => ⟨step, ?_⟩
    cases label <;> trivial
  refine (invariant_of_steps (fun consistent read _ => (resumed consistent read).keeps consistent)
    (fun accepted consistent => ?_) consistent_empty free).1
  obtain ⟨rfl, rfl⟩ := Prod.mk.inj accepted
  exact keeps_accepted consistent

theorem accepts_upload (toLowerCase : String → String) (state : UploadState) (input : UploadInput) :
    (uploadLoop toLowerCase).Accepts state input (input.accepted state).1
      (input.accepted state).2 :=
  rfl

/-- A message of the first user without attachments. -/
def plainSend : SendRequest where
  args := { workspaceId := none, channelId := ⟨0⟩, authorId := ⟨1⟩, content := "hello" }
  atMost := Nat.zero_le _

/-- A user uploads a file to a new session. -/
def uploadMoves (uploaderId : UserId) (session : Nat) : List (Move UploadInput) :=
  [.accept (.createSession uploaderId ⟨0⟩ 1 "text/plain" "file" 1000),
    .accept (.upload ⟨⟨⟨session⟩, "file"⟩, [0]⟩)]

end Bongtalk.Attachments
