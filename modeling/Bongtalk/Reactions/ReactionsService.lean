import Bongtalk.Common.DomainError
import Bongtalk.Library.System
import Bongtalk.Library.Unicode
import Bongtalk.Prisma.Schema
import Bongtalk.Shared.Text

/-!
# Reactions to a message

The calls on one message run in transactions, one statement at a time. A statement sees
the committed rows and what its own transaction has changed; a delete takes the rows it has found
one by one and waits for those that another transaction is deleting. Only a new reaction locks the
message.
-/

namespace Bongtalk.Reactions

open Library Common Prisma Shared

structure ReactionId where
  value : Nat
deriving DecidableEq, Repr

structure CustomEmojiId where
  value : Nat
deriving DecidableEq, Repr

structure CallId where
  value : Nat
deriving DecidableEq, Repr

abbrev Emoji := List Char

/-- A row of a reaction to the message. -/
structure Reaction where
  id : ReactionId
  userId : UserId
  emoji : Emoji
  customEmojiId : Option CustomEmojiId
deriving DecidableEq, Repr

/-- The unique key `(messageId, userId, emoji)`, for the one message. -/
def Reaction.key (row : Reaction) : UserId × Emoji :=
  (row.userId, row.emoji)

/-- `MAX_REACTION_KINDS` -/
def maxReactionKinds : Nat := 20

/-- `MAX_EMOJI_CODEPOINTS` -/
def maxEmojiCodepoints : Nat := 4

/-- `MAX_EMOJI_BYTES` -/
def maxEmojiBytes : Nat := 64

/-- The class `[a-z0-9_]`. -/
def isSlugChar (char : Char) : Bool :=
  char.isLower || char.isDigit || char == '_'

/-- The name in a token `:name:` of 2 to 32 characters. -/
def customEmojiName : Emoji → Option (List Char)
  | ':' :: rest =>
    match rest.reverse with
    | ':' :: name =>
      if 2 ≤ name.length ∧ name.length ≤ 32 ∧ name.all isSlugChar then some name.reverse
      else none
    | _ => none
  | _ => none

def validateEmoji (raw : List Char) : Except Failure Emoji :=
  let trimmed := trim raw
  if trimmed = [] then failWith .validationFailed "emoji cannot be empty"
  else if maxEmojiBytes < (Utf8.encode trimmed).length then
    failWith .validationFailed ("emoji exceeds " ++ toString maxEmojiBytes ++ " bytes")
  else if (customEmojiName trimmed).isSome then .ok trimmed
  else if maxEmojiCodepoints < trimmed.length then
    failWith .validationFailed ("emoji exceeds " ++ toString maxEmojiCodepoints ++ " codepoints")
  else .ok trimmed

/-- The arguments of a toggle, with the gates that the caller has computed. -/
structure AddCall where
  workspaceId : Option WorkspaceId
  userId : UserId
  rawEmoji : List Char
  canAddReaction : Bool
  isTimedOut : Bool := false
  isRulesBlocked : Bool := false
deriving DecidableEq, Repr

inductive Call where
  | add (call : AddCall)
  | remove (userId : UserId) (rawEmoji : List Char)
  | removeByActor (workspaceId : Option WorkspaceId) (actorId targetUserId : UserId)
      (rawEmoji : List Char)
  | clearAll

/-- What a delete statement is for. -/
inductive Purpose where
  | toggle (call : AddCall) (emoji : Emoji)
  | remove (userId : UserId) (emoji : Emoji)
  | clear
deriving DecidableEq, Repr

/-- What an insert has come to: a row of its own, or the row that has been there. -/
inductive Entry where
  | own (row : Reaction)
  | found (row : Reaction)
deriving DecidableEq, Repr

/-- What a toggle has changed: a row has been added or taken. -/
inductive Changes where
  | added (entry : Entry)
  | taken (deleted : List Reaction)
deriving DecidableEq, Repr

structure ReactionSummary where
  emoji : Emoji
  count : Nat
  byMe : Bool
deriving DecidableEq, Repr

/-- A call, named by its next statement, with what it has read and changed. -/
inductive Phase where
  | absent
  | authorizing (workspaceId : WorkspaceId) (actorId targetUserId : UserId) (emoji : Emoji)
  | finding (call : AddCall) (emoji : Emoji)
  | toggling (call : AddCall) (emoji : Emoji)
  | resolving (call : AddCall) (emoji : Emoji) (workspaceId : WorkspaceId) (name : List Char)
  | locking (call : AddCall) (emoji : Emoji) (customEmojiId : Option CustomEmojiId)
  | inserting (call : AddCall) (emoji : Emoji) (customEmojiId : Option CustomEmojiId)
  | counting (call : AddCall) (emoji : Emoji) (entry : Entry)
  | answering (call : AddCall) (emoji : Emoji) (changes : Changes)
  | committing (call : AddCall) (changes : Changes) (summary : ReactionSummary)
  | deleting (purpose : Purpose)
  | removing (purpose : Purpose) (remaining deleted : List Reaction)
  | toggled (call : AddCall) (summary : ReactionSummary)
  | removed
  | failed (failure : Failure)
deriving DecidableEq, Repr

/-- The committed rows of the message, the locks on the message and on its reactions, and the calls.
The last fields are what else the calls read. -/
structure Board where
  rows : Table Reaction Reaction.key
  lock : Option CallId := none
  rowLocks : Reaction → Option CallId := fun _ => none
  calls : CallId → Phase := fun _ => .absent
  nextReactionId : Nat := 0
  /-- Whether the message is there, in the channel and not deleted. -/
  live : Bool
  customEmojis : WorkspaceId → List Char → Option CustomEmojiId
  memberRole : WorkspaceId → UserId → Option WorkspaceRole

/-- The gates of the insert branch; the name is that of a custom emoji to look up. -/
def AddCall.admit (call : AddCall) (emoji : Emoji) :
    Except Failure (Option (WorkspaceId × List Char)) :=
  if call.isTimedOut then failWith .memberTimedOut "타임아웃 중에는 반응을 추가할 수 없습니다"
  else if call.isRulesBlocked then
    failWith .rulesNotAccepted "규칙에 동의한 후 반응을 추가할 수 있습니다"
  else if !call.canAddReaction then failWith .forbidden "reaction add is denied on this channel"
  else
    match customEmojiName emoji, call.workspaceId with
    | none, _ => .ok none
    | some _, none =>
      failWith .customEmojiNotFound "custom emoji reactions are not available in this channel"
    | some name, some workspaceId => .ok (some (workspaceId, name))

/-- The rows that a delete statement finds. -/
def Purpose.targets (rows : List Reaction) : Purpose → List Reaction
  | .toggle call emoji => rows.filter fun row => row.key = (call.userId, emoji)
  | .remove userId emoji => rows.filter fun row => row.key = (userId, emoji)
  | .clear => rows

/-- The rows as a toggle sees them after its change. -/
def Changes.view (rows : List Reaction) : Changes → List Reaction
  | .added (.own row) => row :: rows
  | .added (.found _) => rows
  | .taken deleted => rows.filter fun row => row ∉ deleted

/-- `COUNT(DISTINCT emoji)` -/
def kinds (rows : List Reaction) : Nat :=
  (rows.map Reaction.emoji).toFinset.card

def Changes.byMe : Changes → Bool
  | .added _ => true
  | .taken _ => false

/-- The committed rows with a change. An insert that has run into a taken key does not get here. -/
def Changes.apply (rows : Table Reaction Reaction.key) :
    Changes → Table Reaction Reaction.key
  | .added (.own row) => (rows.insert? row).getD rows
  | .added (.found _) => rows
  | .taken deleted => rows.deleteMany fun row => decide (row ∈ deleted)

namespace Board

section Statements

variable (board : Board) (id : CallId)

def setPhase (phase : Phase) : Board :=
  { board with calls := Function.update board.calls id phase }

/-- A transaction ends: its locks go. -/
def finish (phase : Phase) : Board :=
  { board.setPhase id phase with
    lock := if board.lock = some id then none else board.lock
    rowLocks := fun row => if board.rowLocks row = some id then none else board.rowLocks row }

/-- A transaction commits. -/
def commit (changes : Changes) (phase : Phase) : Board :=
  { board.finish id phase with rows := changes.apply board.rows }

/-- A lock that another transaction holds. -/
def heldByOther (holder : Option CallId) : Bool :=
  holder.any (· != id)

def fail (failure : Failure) : Board :=
  board.finish id (.failed failure)

/-- The answer of `findUnique` decides between the two branches of a toggle. -/
def toggle (call : AddCall) (emoji : Emoji) : Board :=
  match board.rows.findUnique (call.userId, emoji) with
  | some _ => board.setPhase id (.deleting (.toggle call emoji))
  | none =>
    match call.admit emoji with
    | .error failure => board.fail id failure
    | .ok none => board.setPhase id (.locking call emoji none)
    | .ok (some (workspaceId, name)) =>
      board.setPhase id (.resolving call emoji workspaceId name)

/-- `SELECT … FOR NO KEY UPDATE`, when the lock is free. -/
def lockMessage (call : AddCall) (emoji : Emoji) (customEmojiId : Option CustomEmojiId) :
    Option Board :=
  if heldByOther id board.lock then none
  else
    some { board.setPhase id (.inserting call emoji customEmojiId) with lock := some id }

/-- `INSERT … ON CONFLICT DO NOTHING`. It waits for a delete of the row that is in its way; only
holders of the lock insert, so that no uncommitted row can be. -/
def insert (call : AddCall) (emoji : Emoji) (customEmojiId : Option CustomEmojiId) :
    Option Board :=
  match board.rows.findUnique (call.userId, emoji) with
  | some row =>
    if heldByOther id (board.rowLocks row) then none
    else some (board.setPhase id (.counting call emoji (.found row)))
  | none =>
    let row : Reaction := ⟨⟨board.nextReactionId⟩, call.userId, emoji, customEmojiId⟩
    some { board.setPhase id (.counting call emoji (.own row)) with
      nextReactionId := board.nextReactionId + 1 }

/-- Too many kinds undo the insert, and the transaction with it. -/
def checkKinds (call : AddCall) (emoji : Emoji) (entry : Entry) : Board :=
  if maxReactionKinds < kinds ((Changes.added entry).view board.rows.rows) then
    board.finish id (.failed (.domain ⟨.reactionLimitReached,
      "message already has the maximum of " ++ toString maxReactionKinds ++ " reaction kinds"⟩))
  else board.setPhase id (.answering call emoji (.added entry))

def answer (call : AddCall) (emoji : Emoji) (changes : Changes) : Board :=
  let count := (changes.view board.rows.rows).countP (·.emoji = emoji)
  board.setPhase id (.committing call changes ⟨emoji, count, changes.byMe⟩)

/-- A delete statement goes on with its next row, or is done. -/
def removeNext (purpose : Purpose) (remaining deleted : List Reaction) : Option Board :=
  match remaining with
  | row :: rest =>
    if row ∈ board.rows.rows then
      if heldByOther id (board.rowLocks row) then none
      else
        some { board.setPhase id (.removing purpose rest (row :: deleted)) with
          rowLocks := Function.update board.rowLocks row (some id) }
    else some (board.setPhase id (.removing purpose rest deleted))
  | [] =>
    match purpose with
    | .toggle call emoji =>
      if deleted = [] then some (board.fail id .recordNotFound)
      else some (board.setPhase id (.answering call emoji (.taken deleted)))
    | .remove _ _ | .clear => some (board.commit id (.taken deleted) .removed)

/-- The next statement of a call, unless it waits for a lock or the call is over. -/
def advance : Option Board :=
  match board.calls id with
  | .absent | .toggled _ _ | .removed | .failed _ => none
  | .authorizing workspaceId actorId targetUserId emoji =>
    match board.memberRole workspaceId actorId with
    | some .owner | some .admin => some (board.setPhase id (.deleting (.remove targetUserId emoji)))
    | _ => some (board.setPhase id (.failed (.domain ⟨.forbidden,
        "only workspace owners/admins may remove others’ reactions"⟩)))
  | .finding call emoji =>
    if board.live then some (board.setPhase id (.toggling call emoji))
    else some (board.fail id (.domain ⟨.messageNotFound, "message not found in channel"⟩))
  | .toggling call emoji => some (board.toggle id call emoji)
  | .resolving call emoji workspaceId name =>
    match board.customEmojis workspaceId name with
    | none => some (board.fail id (.domain ⟨.customEmojiNotFound,
        ":" ++ String.ofList name ++ ": is not a custom emoji in this workspace"⟩))
    | some customEmojiId => some (board.setPhase id (.locking call emoji (some customEmojiId)))
  | .locking call emoji customEmojiId => board.lockMessage id call emoji customEmojiId
  | .inserting call emoji customEmojiId => board.insert id call emoji customEmojiId
  | .counting call emoji entry => some (board.checkKinds id call emoji entry)
  | .answering call emoji changes => some (board.answer id call emoji changes)
  | .committing call changes summary => some (board.commit id changes (.toggled call summary))
  | .deleting purpose =>
    some (board.setPhase id (.removing purpose (purpose.targets board.rows.rows) []))
  | .removing purpose remaining deleted => board.removeNext id purpose remaining deleted

end Statements

end Board

/-- The first statement of a call, after the checks of its arguments. -/
def Call.starts : Call → Except Failure Phase
  | .add call => do
    let emoji ← validateEmoji call.rawEmoji
    .ok (.finding call emoji)
  | .remove userId rawEmoji => do
    let emoji ← validateEmoji rawEmoji
    .ok (.deleting (.remove userId emoji))
  | .removeByActor workspaceId actorId targetUserId rawEmoji => do
    let emoji ← validateEmoji rawEmoji
    if actorId = targetUserId then .ok (.deleting (.remove targetUserId emoji))
    else
      match workspaceId with
      | none => failWith .forbidden "only workspace owners/admins may remove others’ reactions"
      | some workspaceId => .ok (.authorizing workspaceId actorId targetUserId emoji)
  | .clearAll => .ok (.deleting .clear)

/-- A transaction that may still fail. -/
def Phase.isOpen : Phase → Bool
  | .absent | .toggled _ _ | .removed | .failed _ => false
  | _ => true

inductive Event where
  | start (id : CallId) (call : Call)
  | advance (id : CallId)
  | abort (id : CallId) (failure : Failure)
  | outside

/-- The statements of the calls, in any order; a transaction may be aborted by the database, and the
message, the emojis and the members change from outside. -/
inductive Happens : Board → Event → Board → Prop where
  | start {board : Board} {id} (new : board.calls id = .absent) (call : Call) {phase}
      (starts : call.starts = .ok phase) :
      Happens board (.start id call) (board.setPhase id phase)
  | refuse {board : Board} {id} (new : board.calls id = .absent) (call : Call) {failure}
      (refused : call.starts = .error failure) :
      Happens board (.start id call) (board.setPhase id (.failed failure))
  | advance {board next : Board} {id} (advanced : board.advance id = some next) :
      Happens board (.advance id) next
  | abort {board : Board} {id} (isOpen : (board.calls id).isOpen = true) {failure : Failure}
      (internal : ∀ error, failure ≠ .domain error) :
      Happens board (.abort id failure) (board.finish id (.failed failure))
  | outside {board : Board} (live : Bool)
      (customEmojis : WorkspaceId → List Char → Option CustomEmojiId)
      (memberRole : WorkspaceId → UserId → Option WorkspaceRole) :
      Happens board .outside
        { board with live := live, customEmojis := customEmojis, memberRole := memberRole }

/-- A message that nobody has reacted to. -/
def initialBoard (live : Bool) (customEmojis : WorkspaceId → List Char → Option CustomEmojiId)
    (memberRole : WorkspaceId → UserId → Option WorkspaceRole) : Board where
  rows := .empty
  live := live
  customEmojis := customEmojis
  memberRole := memberRole

end Bongtalk.Reactions
