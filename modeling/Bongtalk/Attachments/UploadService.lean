import Bongtalk.Library.EventLoop
import Bongtalk.Messages.Send

/-!
# Uploads

A client uploads a file to a session, and declares what it is; of most kinds of files the first
bytes tell whether that is true. Completing the session makes an attachment of the file, for a
message that is there or for one that is still to be sent. A sweep deletes the attachments that no
message has taken, and the sessions that have expired. Each statement is a step of its own, and so
is each transaction.
-/

namespace Bongtalk.Attachments

open Library Common Prisma Messages

inductive MagicSupportedMime where
  | png
  | gif
  | jpeg
  | webp
  | pdf
  | mp4
  | mpegAudio
  | ogg
  | wav
  | flac
  | zip
deriving DecidableEq, Repr

namespace MagicSupportedMime

def text : MagicSupportedMime → String
  | png => "image/png"
  | gif => "image/gif"
  | jpeg => "image/jpeg"
  | webp => "image/webp"
  | pdf => "application/pdf"
  | mp4 => "video/mp4"
  | mpegAudio => "audio/mpeg"
  | ogg => "audio/ogg"
  | wav => "audio/wav"
  | flac => "audio/flac"
  | zip => "application/zip"

/-- `MAGIC_CHECKED_MIMES`. -/
def all : List MagicSupportedMime :=
  [png, gif, jpeg, webp, pdf, mp4, mpegAudio, ogg, wav, flac, zip]

/-- `isMagicChecked`, with the kind that is checked. -/
def ofMime (mime : String) : Option MagicSupportedMime :=
  all.find? fun kind => kind.text = mime

end MagicSupportedMime

abbrev Bytes := List UInt8

def startsWith (buf signature : Bytes) : Bool :=
  signature.isPrefixOf buf

def png : Bytes := [0x89, 0x50, 0x4e, 0x47, 0x0d, 0x0a, 0x1a, 0x0a]

def gifPrefix : Bytes := [0x47, 0x49, 0x46, 0x38]

def jpeg : Bytes := [0xff, 0xd8, 0xff]

def riff : Bytes := [0x52, 0x49, 0x46, 0x46]

def webp : Bytes := [0x57, 0x45, 0x42, 0x50]

def pdf : Bytes := [0x25, 0x50, 0x44, 0x46, 0x2d]

def ftyp : Bytes := [0x66, 0x74, 0x79, 0x70]

def id3 : Bytes := [0x49, 0x44, 0x33]

def ogg : Bytes := [0x4f, 0x67, 0x67, 0x53]

def wave : Bytes := [0x57, 0x41, 0x56, 0x45]

def flac : Bytes := [0x66, 0x4c, 0x61, 0x43]

def pkZip : Bytes := [0x50, 0x4b]

def matchesGif (buf : Bytes) : Bool :=
  startsWith buf gifPrefix && (buf[4]? == some 0x37 || buf[4]? == some 0x39) && buf[5]? == some 0x61

/-- The form of a RIFF file stands behind its length. -/
def matchesRiff (form buf : Bytes) : Bool :=
  startsWith buf riff && startsWith (buf.drop 8) form

def matchesMp4 (buf : Bytes) : Bool :=
  startsWith (buf.drop 4) ftyp

def matchesMpegAudio (buf : Bytes) : Bool :=
  startsWith buf id3 || (buf[0]? == some 0xff && buf[1]?.any fun second => second &&& 0xe0 == 0xe0)

def matchesMagic (head : Bytes) : MagicSupportedMime → Bool
  | .png => startsWith head png
  | .gif => matchesGif head
  | .jpeg => startsWith head jpeg
  | .webp => matchesRiff webp head
  | .pdf => startsWith head pdf
  | .mp4 => matchesMp4 head
  | .mpegAudio => matchesMpegAudio head
  | .ogg => startsWith head ogg
  | .wav => matchesRiff wave head
  | .flac => startsWith head flac
  | .zip => startsWith head pkZip

/-- `MAGIC_PREFIX_BYTES`. -/
def magicPrefixBytes : Nat := 8192

structure SessionId where
  value : Nat
deriving DecidableEq, Repr

/-- A call of `complete`. -/
structure CallId where
  value : Nat
deriving DecidableEq, Repr

/-- `buildKey`: the key of an object holds the id of the session it is uploaded to. -/
structure StorageKey where
  sessionId : SessionId
  path : String
deriving DecidableEq, Repr

structure StoredObject where
  key : StorageKey
  bytes : Bytes
deriving DecidableEq, Repr

/-- A row of `AttachmentUploadSession`. -/
structure UploadSession where
  id : SessionId
  uploaderId : UserId
  channelId : ChannelId
  sizeBytes : Nat
  mimeType : String
  storageKey : StorageKey
  expiresAt : DateTime
  completed : Bool := false
  ownKey : storageKey.sessionId = id
deriving DecidableEq, Repr

inductive AttachmentStatus where
  | ready
  | blocked
deriving DecidableEq, Repr

/-- A row of `Attachment`, with the columns that the sweep reads as well. -/
structure AttachmentRow extends Attachment where
  mime : String
  storedMimeType : Option String
  sizeBytes : Nat
  storageKey : StorageKey
  createdAt : DateTime
  processingStatus : AttachmentStatus := .ready
deriving DecidableEq, Repr

/-- The columns of a message that matter to attachments. No update writes the channel or the
author. -/
structure MessageRecord where
  id : MessageId
  channelId : ChannelId
  authorId : UserId
  deletedAt : Option DateTime := none
deriving DecidableEq, Repr

/-- A transaction of `complete` has closed a session and made an attachment of it. -/
structure Creation where
  callId : CallId
  sessionId : SessionId
  attachmentId : AttachmentId
deriving DecidableEq, Repr

/-- `ATTACHMENT_MAX_PER_MESSAGE`. -/
def attachmentMaxPerMessage : Nat := 10

/-- `ATTACHMENT_GC_BATCH_SIZE`. -/
def attachmentGcBatchSize : Nat := 500

/-- `ATTACHMENT_GC_UNLINKED_GRACE_HOURS`, in milliseconds. -/
def attachmentGcUnlinkedGrace : Nat := 24 * 60 * 60 * 1000

structure UploadState where
  /-- What a service that reads the clock sees. -/
  now : DateTime := 0
  /-- Whether the object storage answers. -/
  storageUp : Bool := true
  /-- `loadChannel` and `requireUpload`. -/
  canUpload : ChannelId → UserId → Except Failure Unit := fun _ _ => .ok ()
  messages : Table MessageRecord MessageRecord.id := .empty
  sessions : Table UploadSession UploadSession.id := .empty
  attachments : Table AttachmentRow (fun row => row.id) := .empty
  objects : Table StoredObject StoredObject.key := .empty
  nextMessageId : Nat := 0
  nextSessionId : Nat := 0
  nextAttachmentId : Nat := 0
  nextCallId : Nat := 0
  /-- What the calls of `complete` have created, and what they have answered. -/
  creations : List Creation := []
  answers : List (CallId × Except Failure (List AttachmentId)) := []
  /-- The links that have been made, and the linked attachments that a sweep has deleted. -/
  links : List (AttachmentId × MessageId) := []
  sweptLinked : List AttachmentId := []

structure CompleteBody where
  messageId : Option MessageId := none
  targetChannelId : Option ChannelId := none
  sessions : List SessionId
deriving DecidableEq, Repr

/-- A call of `complete` on its way, with the attachments it has created so far. -/
structure CompleteCall where
  id : CallId
  uploaderId : UserId
  routeChannelId : ChannelId
  body : CompleteBody
  now : DateTime
  attachmentIds : List AttachmentId := []
deriving DecidableEq, Repr

/-- A send as the schema of the request admits it, with what its other checks and statements come
to. -/
structure SendRequest where
  args : SendArgs
  atMost : args.attachmentIds.length ≤ attachmentMaxPerMessage
  others : Except Failure Unit := .ok ()

/-- What a sweep has selected of an attachment. -/
structure Orphan where
  id : AttachmentId
  storageKey : StorageKey
  mime : String
  storedMimeType : Option String
deriving DecidableEq, Repr

/-- What a sweep has selected of a session. -/
structure ExpiredSession where
  id : SessionId
  storageKey : StorageKey
deriving DecidableEq, Repr

/-- A sweep at a batch: whether the batch is full, and whether any of it has been deleted. -/
structure Sweep where
  now : DateTime
  full : Bool := true
  progressed : Bool := true
deriving DecidableEq, Repr

/-- What runs between two awaits. In a loop, `rest` is what it has not come to yet. -/
inductive UploadTask where
  /-- `complete`. -/
  | findMessage (call : CompleteCall) (messageId : MessageId)
  | authorize (call : CompleteCall)
  | count (call : CompleteCall) (messageId : MessageId)
  | findSession (call : CompleteCall) (sessionId : SessionId) (rest : List SessionId)
  | headObject (call : CompleteCall) (session : UploadSession) (rest : List SessionId)
  | getObjectRange (call : CompleteCall) (session : UploadSession) (kind : MagicSupportedMime)
      (rest : List SessionId)
  | deleteBadObject (call : CompleteCall) (session : UploadSession)
  | deleteBadSession (call : CompleteCall) (session : UploadSession)
  | close (call : CompleteCall) (session : UploadSession) (rest : List SessionId)
  /-- `MessagesService.send`. -/
  | findAttachments (request : SendRequest)
  | createMessage (request : SendRequest)
  /-- `sweep`. -/
  | findOrphans (sweep : Sweep)
  | recheckOrphan (sweep : Sweep) (orphan : Orphan) (kind : MagicSupportedMime) (rest : List Orphan)
  | blockOrphan (sweep : Sweep) (orphan : Orphan) (rest : List Orphan)
  | deleteOrphanObject (sweep : Sweep) (orphan : Orphan) (rest : List Orphan)
  | deleteOrphan (sweep : Sweep) (orphan : Orphan) (rest : List Orphan)
  | findExpired (sweep : Sweep)
  | deleteExpiredObject (sweep : Sweep) (session : ExpiredSession) (rest : List ExpiredSession)
  | deleteExpired (sweep : Sweep) (session : ExpiredSession) (rest : List ExpiredSession)

inductive UploadInput where
  | tick (elapsed : Nat)
  | storage (up : Bool)
  | permissions (canUpload : ChannelId → UserId → Except Failure Unit)
  /-- A session of `createUploadUrl`, which expires after some time. -/
  | createSession (uploaderId : UserId) (channelId : ChannelId) (sizeBytes : Nat)
      (mimeType path : String) (ttl : Nat)
  /-- A client writes or overwrites an object. -/
  | upload (object : StoredObject)
  | deleteMessage (messageId : MessageId)
  | complete (uploaderId : UserId) (routeChannelId : ChannelId) (body : CompleteBody)
  | send (request : SendRequest)
  | sweep

namespace UploadState

variable (state : UploadState)

/-- The answer of a call. -/
def answer (call : CompleteCall) (result : Except Failure (List AttachmentId)) :
    UploadState :=
  { state with answers := state.answers ++ [(call.id, result)] }

/-- A call goes on with a task, or throws. -/
def goOn (call : CompleteCall) (next : Except Failure UploadTask) : UploadState × List UploadTask :=
  match next with
  | .ok task => (state, [task])
  | .error failure => (state.answer call (.error failure), [])

/-- The loop of `complete` goes to its next session, or returns. -/
def nextSession (call : CompleteCall) : List SessionId → UploadState × List UploadTask
  | [] => (state.answer call (.ok call.attachmentIds), [])
  | sessionId :: rest => (state, [.findSession call sessionId rest])

def linkedCount (messageId : MessageId) : Nat :=
  state.attachments.rows.countP fun row => row.messageId = some messageId

/-- Delete an object; there need not be one. -/
def deleteObject (key : StorageKey) : UploadState :=
  { state with objects := state.objects.deleteMany fun object => object.key = key }

end UploadState

section Checks

variable (state : UploadState) (call : CompleteCall)

/-- What a statement on the object storage throws while the storage does not answer. -/
def storageError : Failure :=
  .domain ⟨.internal, "object storage unavailable"⟩

def checkTarget (targetChannelId : ChannelId) : Except Failure UploadTask := do
  failIf (targetChannelId != call.routeChannelId) .validationFailed
    "target channel does not match route channel"
  .ok (.authorize call)

def checkMessage (messageId : MessageId) : Except Failure UploadTask :=
  match (state.messages.findUnique messageId).filter (·.deletedAt == none) with
  | none => failWith .messageNotFound "message not found"
  | some message => checkTarget call message.channelId

def checkCount (existingCount : Nat) : Except Failure Unit :=
  failIf (decide (attachmentMaxPerMessage < existingCount + call.body.sessions.length))
    .attachmentCountExceeded s!"too many attachments (max {attachmentMaxPerMessage})"

/-- The checks of a session by its row. -/
def checkSession (sessionId : SessionId) : Except Failure UploadSession :=
  match (state.sessions.findUnique sessionId).filter fun session =>
      session.uploaderId == call.uploaderId && session.channelId == call.routeChannelId with
  | none => failWith .attachmentSessionNotFound s!"upload session not found: {sessionId.value}"
  | some session => do
    failIf session.completed .attachmentSessionNotFound "upload session already completed"
    failIf (decide (session.expiresAt ≤ call.now)) .attachmentSessionExpired
      s!"upload session expired: {sessionId.value}"
    .ok session

/-- The checks of the object of a session, without its bytes. -/
def checkObject (session : UploadSession) : Except Failure Unit :=
  if state.storageUp then
    match state.objects.findUnique session.storageKey with
    | none =>
      failWith .attachmentNotUploaded "no object at storageKey — upload must have failed"
    | some object =>
      failIf (object.bytes.length != session.sizeBytes) .attachmentSizeMismatch
        s!"declared {session.sizeBytes} bytes, actual {object.bytes.length}"
  else .error storageError

/-- Whether the first bytes of an object are those of its kind. -/
def matchesKind (key : StorageKey) (kind : MagicSupportedMime) : Bool :=
  (state.objects.findUnique key).any fun object =>
    matchesMagic (object.bytes.take magicPrefixBytes) kind

end Checks

namespace UploadState

variable (state : UploadState)

/-- Whether the transaction of `complete` finds its session open. -/
def isOpen (sessionId : SessionId) : Bool :=
  state.sessions.rows.any fun session => session.id = sessionId && !session.completed

/-- The attachment that `complete` makes of a session. -/
def completedRow (call : CompleteCall) (session : UploadSession) : AttachmentRow where
  id := ⟨state.nextAttachmentId⟩
  channelId := call.routeChannelId
  messageId := call.body.messageId
  uploaderId := call.uploaderId
  finalizedAt := some call.now
  linkedAt := if call.body.messageId.isSome then some call.now else none
  mime := session.mimeType
  storedMimeType := some session.mimeType
  sizeBytes := session.sizeBytes
  storageKey := session.storageKey
  createdAt := state.now

/-- `updateMany` of the transaction. -/
def closedSessions (sessionId : SessionId) : Table UploadSession UploadSession.id :=
  state.sessions.rewrite
    (fun session => if session.id = sessionId then { session with completed := true } else session)
    fun session => by split <;> rfl

/-- The transaction of `complete`, which the session lets pass once. -/
def closeSession (call : CompleteCall) (session : UploadSession) : Except Failure UploadState :=
  if state.isOpen session.id then
    match state.attachments.insert? (state.completedRow call session) with
    | none => .error .uniqueViolation
    | some attachments => .ok { state with
        sessions := state.closedSessions session.id
        attachments := attachments
        nextAttachmentId := state.nextAttachmentId + 1
        creations := state.creations ++ [⟨call.id, session.id, ⟨state.nextAttachmentId⟩⟩]
        links := state.links ++
          call.body.messageId.toList.map fun messageId => (⟨state.nextAttachmentId⟩, messageId) }
  else failWith .attachmentSessionNotFound "upload session already completed (race)"

/-- The rows that the transaction of a send links. -/
def linksOf (args : SendArgs) (row : AttachmentRow) : Bool :=
  args.attachmentIds.contains row.id && row.messageId == none && row.uploaderId == args.authorId &&
    row.channelId == args.channelId

/-- The message of a send. -/
def newMessage (args : SendArgs) : MessageRecord where
  id := ⟨state.nextMessageId⟩
  channelId := args.channelId
  authorId := args.authorId

/-- A row after the transaction of a send. -/
def linkedRow (args : SendArgs) (row : AttachmentRow) : AttachmentRow :=
  if linksOf args row then
    { row with messageId := some ⟨state.nextMessageId⟩, linkedAt := some state.now }
  else row

@[simp]
theorem linkedRow_id {args : SendArgs} {row : AttachmentRow} :
    (state.linkedRow args row).id = row.id := by
  rw [linkedRow]
  split <;> rfl

/-- The transaction of a send. -/
def sendMessage (args : SendArgs) : UploadState :=
  match state.messages.insert? (state.newMessage args) with
  | none => state
  | some messages => { state with
      messages := messages
      nextMessageId := state.nextMessageId + 1
      attachments := state.attachments.rewrite (state.linkedRow args) fun _ => linkedRow_id state
      links := state.links ++ (state.attachments.findMany (linksOf args)).map fun row =>
        (row.id, ⟨state.nextMessageId⟩) }

/-- The attachments a sweep selects, the oldest first. -/
def orphans (cutoff : DateTime) : List Orphan :=
  (((state.attachments.findMany fun row =>
    row.linkedAt == none && decide (row.createdAt < cutoff)).insertionSort fun first second =>
      first.createdAt ≤ second.createdAt).take attachmentGcBatchSize).map fun row =>
        ⟨row.id, row.storageKey, row.mime, row.storedMimeType⟩

/-- The sessions a sweep selects, the one that expired first first. -/
def expiredSessions (now : DateTime) : List ExpiredSession :=
  (((state.sessions.findMany fun session =>
    !session.completed && decide (session.expiresAt < now)).insertionSort fun first second =>
      first.expiresAt ≤ second.expiresAt).take attachmentGcBatchSize).map fun session =>
        ⟨session.id, session.storageKey⟩

/-- `attachment.update` of an orphan that is still there. -/
def block (id : AttachmentId) : UploadState :=
  { state with
    attachments := state.attachments.rewrite
      (fun row => if row.id = id then { row with processingStatus := .blocked } else row)
      fun row => by split <;> rfl }

/-- `attachment.delete` by id. -/
def deleteAttachment (id : AttachmentId) : UploadState :=
  { state with
    attachments := state.attachments.deleteMany fun row => row.id = id
    sweptLinked := state.sweptLinked ++ (state.attachments.findMany fun row =>
      row.id = id && row.messageId.isSome).map fun row => row.id }

def deleteSession (id : SessionId) : UploadState :=
  { state with sessions := state.sessions.deleteMany fun session => session.id = id }

end UploadState

section Resume

variable (toLowerCase : String → String)

namespace Sweep

variable (sweep : Sweep)

/-- The loop over a batch of orphans goes to the next one, to the next batch, or ends. -/
def nextOrphan : List Orphan → List UploadTask
  | [] => [if sweep.full && sweep.progressed then .findOrphans sweep else .findExpired sweep]
  | orphan :: rest =>
    match MagicSupportedMime.ofMime (toLowerCase (orphan.storedMimeType.getD orphan.mime)) with
    | none => [.deleteOrphanObject sweep orphan rest]
    | some kind => [.recheckOrphan sweep orphan kind rest]

/-- The same over a batch of sessions. -/
def nextExpired : List ExpiredSession → List UploadTask
  | [] => if sweep.full && sweep.progressed then [.findExpired sweep] else []
  | session :: rest => [.deleteExpiredObject sweep session rest]

/-- A new batch. -/
def started (size : Nat) : Sweep :=
  { sweep with full := decide (attachmentGcBatchSize ≤ size), progressed := false }

def succeeded : Sweep :=
  { sweep with progressed := true }

end Sweep

/-- A task up to its next await. Within a sweep, what throws is caught for each row. -/
def UploadTask.resume (state : UploadState) : UploadTask → UploadState × List UploadTask
  | findMessage call messageId => state.goOn call (checkMessage state call messageId)
  | authorize call =>
    match state.canUpload call.routeChannelId call.uploaderId with
    | .error failure => (state.answer call (.error failure), [])
    | .ok () =>
      match call.body.messageId with
      | some messageId => (state, [.count call messageId])
      | none =>
        match checkCount call 0 with
        | .error failure => (state.answer call (.error failure), [])
        | .ok () => state.nextSession call call.body.sessions
  | count call messageId =>
    match checkCount call (state.linkedCount messageId) with
    | .error failure => (state.answer call (.error failure), [])
    | .ok () => state.nextSession call call.body.sessions
  | findSession call sessionId rest =>
    state.goOn call ((checkSession state call sessionId).map fun session =>
      .headObject call session rest)
  | headObject call session rest =>
    state.goOn call ((checkObject state session).map fun _ =>
      match MagicSupportedMime.ofMime (toLowerCase session.mimeType) with
      | none => .close call session rest
      | some kind => .getObjectRange call session kind rest)
  | getObjectRange call session kind rest =>
    state.goOn call (if state.storageUp then
        .ok (if matchesKind state session.storageKey kind then .close call session rest
          else .deleteBadObject call session)
      else .error storageError)
  | deleteBadObject call session =>
    if state.storageUp then
      (state.deleteObject session.storageKey, [.deleteBadSession call session])
    else (state.answer call (.error storageError), [])
  | deleteBadSession call session =>
    match state.sessions.findUnique session.id with
    | none => (state.answer call (.error .recordNotFound), [])
    | some _ =>
      ((state.deleteSession session.id).answer call (failWith .mimeMismatch
        s!"declared {session.mimeType} but file magic does not match"), [])
  | close call session rest =>
    match state.closeSession call session with
    | .error failure => (state.answer call (.error failure), [])
    | .ok closed => closed.nextSession
        { call with attachmentIds := call.attachmentIds ++ [⟨state.nextAttachmentId⟩] } rest
  | findAttachments request =>
    if (state.attachments.findMany fun row =>
        isLinkable request.args row.toAttachment).length = request.args.attachmentIds.length then
      (state, [.createMessage request])
    else (state, [])
  | createMessage request =>
    if request.others.toBool then (state.sendMessage request.args, []) else (state, [])
  | findOrphans sweep =>
    let orphans := state.orphans (sweep.now - attachmentGcUnlinkedGrace)
    (state, if orphans = [] then [.findExpired sweep]
      else (sweep.started orphans.length).nextOrphan toLowerCase orphans)
  | recheckOrphan sweep orphan kind rest =>
    (state, if state.storageUp then
        [if matchesKind state orphan.storageKey kind then .deleteOrphanObject sweep orphan rest
          else .blockOrphan sweep orphan rest]
      else sweep.nextOrphan toLowerCase rest)
  | blockOrphan sweep orphan rest =>
    match state.attachments.findUnique orphan.id with
    | none => (state, sweep.nextOrphan toLowerCase rest)
    | some _ => (state.block orphan.id, [.deleteOrphanObject sweep orphan rest])
  | deleteOrphanObject sweep orphan rest =>
    if state.storageUp then
      (state.deleteObject orphan.storageKey, [.deleteOrphan sweep orphan rest])
    else (state, sweep.nextOrphan toLowerCase rest)
  | deleteOrphan sweep orphan rest =>
    match state.attachments.findUnique orphan.id with
    | none => (state, sweep.nextOrphan toLowerCase rest)
    | some _ => (state.deleteAttachment orphan.id, sweep.succeeded.nextOrphan toLowerCase rest)
  | findExpired sweep =>
    let sessions := state.expiredSessions sweep.now
    (state, if sessions = [] then [] else (sweep.started sessions.length).nextExpired sessions)
  | deleteExpiredObject sweep session rest =>
    if state.storageUp then
      (state.deleteObject session.storageKey, [.deleteExpired sweep session rest])
    else (state, sweep.nextExpired rest)
  | deleteExpired sweep session rest =>
    match state.sessions.findUnique session.id with
    | none => (state, sweep.nextExpired rest)
    | some _ => (state.deleteSession session.id, sweep.succeeded.nextExpired rest)

/-- A call of `complete` up to its first await. -/
def UploadState.beginComplete (state : UploadState) (call : CompleteCall) :
    UploadState × List UploadTask :=
  match call.body.messageId with
  | some messageId => (state, [.findMessage call messageId])
  | none =>
    match call.body.targetChannelId with
    | none =>
      state.goOn call (failWith .validationFailed "one of messageId | targetChannelId required")
    | some targetChannelId => state.goOn call (checkTarget call targetChannelId)

def UploadInput.accepted (state : UploadState) : UploadInput → UploadState × List UploadTask
  | tick elapsed => ({ state with now := state.now + elapsed }, [])
  | storage up => ({ state with storageUp := up }, [])
  | permissions canUpload => ({ state with canUpload := canUpload }, [])
  | createSession uploaderId channelId sizeBytes mimeType path ttl =>
    match state.sessions.insert? {
        id := ⟨state.nextSessionId⟩
        uploaderId := uploaderId
        channelId := channelId
        sizeBytes := sizeBytes
        mimeType := mimeType
        storageKey := ⟨⟨state.nextSessionId⟩, path⟩
        expiresAt := state.now + ttl
        ownKey := rfl } with
    | none => (state, [])
    | some sessions =>
      ({ state with sessions := sessions, nextSessionId := state.nextSessionId + 1 }, [])
  | upload object => ({ state with objects := state.objects.upsert object }, [])
  | deleteMessage messageId =>
    ({ state with
      messages := state.messages.rewrite
        (fun message => if message.id = messageId then
          { message with deletedAt := some state.now } else message)
        fun message => by split <;> rfl }, [])
  | complete uploaderId routeChannelId body =>
    { state with nextCallId := state.nextCallId + 1 }.beginComplete
      { id := ⟨state.nextCallId⟩
        uploaderId := uploaderId
        routeChannelId := routeChannelId
        body := body
        now := state.now }
  | send request =>
    (state, [if request.args.attachmentIds = [] then .createMessage request
      else .findAttachments request])
  | sweep => (state, [.findOrphans { now := state.now }])

def uploadLoop : EventLoop UploadState UploadTask UploadInput where
  resume state task := task.resume toLowerCase state
  Accepts state input next spawned := input.accepted state = (next, spawned)

end Resume

end Bongtalk.Attachments
