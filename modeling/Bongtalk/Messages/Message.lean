import Bongtalk.Common.DomainError
import Bongtalk.Prisma.Schema

/-!
# Message rows

The message table with its unique keys, its self reference and the writes that the
services make.
-/

namespace Bongtalk.Messages

open Library Common Prisma Table

/-- A key a client generates to mark repeats of one request. -/
structure IdempotencyKey where
  value : Nat
deriving DecidableEq, Repr

inductive AuthorType where
  | user
  | bot
  | system
deriving DecidableEq, Repr

inductive MessageType where
  | default
  | systemMemberJoined
  | systemMemberLeft
  | systemMemberBanned
  | systemPin
  | systemChannelRename
  | systemChannelTopicChanged
  | systemChannelArchived
  | systemThreadBroadcast
deriving DecidableEq, Repr

/-- Whom a message mentions, after extraction and gating. -/
structure Mentions where
  users : List UserId := []
  channels : List ChannelId := []
  everyone : Bool := false
  here : Bool := false
  channel : Bool := false
  roles : List RoleId := []
deriving DecidableEq, Repr

structure Message where
  id : MessageId
  channelId : ChannelId
  authorId : UserId
  authorType : AuthorType := .user
  type : MessageType := .default
  content : String
  /-- The plain text the parser makes of the content. -/
  contentPlain : String := ""
  mentions : Mentions := {}
  idempotencyKey : Option IdempotencyKey := none
  parentMessageId : Option MessageId := none
  isBroadcast : Bool := false
  replyCount : Int := 0
  latestReplyAt : Option DateTime := none
  pinnedAt : Option DateTime := none
  version : Nat := 0
  editedAt : Option DateTime := none
  deletedAt : Option DateTime := none
  createdAt : DateTime
deriving DecidableEq, Repr

/-- The columns that no update writes. -/
def Message.identity (message : Message) :
    MessageId × UserId × Option IdempotencyKey × Option MessageId × Bool :=
  (message.id, message.authorId, message.idempotencyKey, message.parentMessageId,
    message.isBroadcast)

/-- The message rows. -/
structure MessageTable where
  table : Table Message Message.id
  /-- The partial unique index on `(authorId, idempotencyKey)`. -/
  keysUnique : ∀ first ∈ table, ∀ second ∈ table, first.authorId = second.authorId →
    first.idempotencyKey = second.idempotencyKey → first.idempotencyKey ≠ none → first = second
  /-- Foreign key `Message.parentMessageId`. -/
  parents : ∀ message ∈ table, ∀ parentId, message.parentMessageId = some parentId →
    ∃ parent ∈ table, parent.id = parentId

namespace MessageTable

instance : Membership Message MessageTable where
  mem messages message := message ∈ messages.table

variable {messages : MessageTable}

variable {message : Message}

theorem mem_def :
    message ∈ messages ↔ message ∈ messages.table :=
  Iff.rfl

/-- No messages. -/
def empty : MessageTable where
  table := .empty
  keysUnique := by simp [Table.empty, Table.mem_def]
  parents := by simp [Table.empty, Table.mem_def]

/-- The table of one message, which is no reply. -/
def single (message : Message) (isRoot : message.parentMessageId = none) : MessageTable where
  table := .single message
  keysUnique := by
    intro first firstMem second secondMem _ _ _
    rw [mem_single.mp firstMem, mem_single.mp secondMem]
  parents := by
    intro other otherMem parentId parentEq
    rw [mem_single.mp otherMem, isRoot] at parentEq
    cases parentEq

/-- `message.findUnique`. -/
def findUnique (messages : MessageTable) (id : MessageId) : Option Message :=
  messages.table.findUnique id

/-- `message.findFirst` by author and key. -/
def findByKey (messages : MessageTable) (authorId : UserId) (key : IdempotencyKey) :
    Option Message :=
  messages.table.rows.find? fun message =>
    message.authorId == authorId && message.idempotencyKey == some key

theorem findUnique_eq_some_iff {id : MessageId} :
    messages.findUnique id = some message ↔ message ∈ messages ∧ message.id = id :=
  Table.findUnique_eq_some_iff

/-- A key of an author finds its one message. -/
theorem findByKey_eq_some_iff {authorId : UserId} {key : IdempotencyKey} :
    messages.findByKey authorId key = some message ↔
      message ∈ messages ∧ message.authorId = authorId ∧ message.idempotencyKey = some key := by
  constructor
  · intro found
    have keyed := List.find?_some found
    simp only [Bool.and_eq_true, beq_iff_eq] at keyed
    exact ⟨List.mem_of_find?_eq_some found, keyed⟩
  · rintro ⟨present, authorEq, keyEq⟩
    have isSome : (messages.findByKey authorId key).isSome = true := by
      rw [findByKey, List.find?_isSome]
      exact ⟨message, present, by simp [authorEq, keyEq]⟩
    obtain ⟨found, foundEq⟩ := Option.isSome_iff_exists.mp isSome
    have keyed := List.find?_some foundEq
    simp only [Bool.and_eq_true, beq_iff_eq] at keyed
    have same := messages.keysUnique found (List.mem_of_find?_eq_some foundEq) message present
      (keyed.1.trans authorEq.symm) (keyed.2.trans keyEq.symm) (by simp [keyed.2])
    rw [foundEq, same]

/-- Whether a message of the author carries the key of a row. -/
def keyTaken (messages : MessageTable) (row : Message) : Bool :=
  messages.table.rows.any fun message =>
    message.authorId == row.authorId && message.idempotencyKey == row.idempotencyKey &&
      row.idempotencyKey.isSome

/-- Whether the parent of a row is there. -/
def parentPresent (messages : MessageTable) (row : Message) : Bool :=
  row.parentMessageId.all fun parentId => messages.table.rows.any (·.id == parentId)

variable {row : Message}

theorem parentPresent_iff :
    messages.parentPresent row = true ↔
      ∀ parentId, row.parentMessageId = some parentId → ∃ parent ∈ messages.table,
        parent.id = parentId := by
  cases parentEq : row.parentMessageId with
  | none => simp [parentPresent, parentEq]
  | some parentId => simp [parentPresent, parentEq, Table.mem_def]

theorem keyTaken_eq_false_iff :
    messages.keyTaken row = false ↔
      ∀ message ∈ messages, message.authorId = row.authorId →
        message.idempotencyKey = row.idempotencyKey → row.idempotencyKey = none := by
  simp only [keyTaken, List.any_eq_false, Bool.and_eq_true, beq_iff_eq, not_and,
    Bool.not_eq_true, Option.isSome_eq_false_iff, Option.isNone_iff_eq_none, mem_def,
    Table.mem_def]
  constructor
  · intro free message present authorEq keyEq
    exact free message present ⟨authorEq, keyEq⟩
  · intro free message present keyed
    exact free message present keyed.1 keyed.2

/-- `message.create`. -/
def create (messages : MessageTable) (row : Message) : Except Failure MessageTable :=
  match inserted : messages.table.insert? row with
  | none => .error .uniqueViolation
  | some table =>
    if free : messages.keyTaken row = false then
      if present : messages.parentPresent row = true then
        .ok {
          table := table
          keysUnique := by
            have fresh := keyTaken_eq_false_iff.mp free
            intro first firstMem second secondMem authorEq keyEq keyed
            rcases (mem_insert? inserted).mp firstMem with rfl | firstOld
            · rcases (mem_insert? inserted).mp secondMem with rfl | secondOld
              · rfl
              · exact absurd (fresh second secondOld authorEq.symm keyEq.symm) keyed
            · rcases (mem_insert? inserted).mp secondMem with rfl | secondOld
              · exact absurd (keyEq.trans (fresh first firstOld authorEq keyEq)) keyed
              · exact messages.keysUnique first firstOld second secondOld authorEq keyEq keyed
          parents := by
            intro message messageMem parentId parentEq
            have parentOld : ∃ parent ∈ messages.table, parent.id = parentId := by
              rcases (mem_insert? inserted).mp messageMem with rfl | messageOld
              · exact parentPresent_iff.mp present parentId parentEq
              · exact messages.parents message messageOld parentId parentEq
            obtain ⟨parent, parentMem, idEq⟩ := parentOld
            exact ⟨parent, (mem_insert? inserted).mpr (.inr parentMem), idEq⟩ }
      else .error .foreignKeyViolation
    else .error .uniqueViolation

/-- A created row is new in its id and its key, has its parent, and is put in front. -/
theorem create_eq_ok_iff {messages next : MessageTable} :
    messages.create row = .ok next ↔
      (∀ message ∈ messages, message.id ≠ row.id) ∧ messages.keyTaken row = false ∧
        messages.parentPresent row = true ∧ next.table.rows = row :: messages.table.rows := by
  rcases next with ⟨⟨nextRows, nextNodup⟩, nextUnique, nextParents⟩
  unfold create
  split
  next refused =>
    obtain ⟨old, present, same⟩ := Table.insert?_eq_none_iff.mp refused
    simp only [reduceCtorEq, false_iff, not_and]
    intro fresh
    exact absurd same (fresh old present)
  next table inserted =>
    obtain ⟨fresh, rowsEq⟩ := Table.insert?_eq_some_iff.mp inserted
    split
    next free =>
      split
      next present =>
        rcases table with ⟨tableRows, tableNodup⟩
        dsimp only at rowsEq
        subst rowsEq
        simp only [Except.ok.injEq, mk.injEq, Table.mk.injEq]
        exact ⟨fun same => ⟨fresh, free, present, same.symm⟩, fun made => made.2.2.2.symm⟩
      next absent => simp [absent]
    next taken => simp [taken]

/-- Nothing else stands in the way of a row. -/
theorem exists_create (fresh : ∀ message ∈ messages, message.id ≠ row.id)
    (free : messages.keyTaken row = false) (present : messages.parentPresent row = true) :
    ∃ next, messages.create row = .ok next := by
  unfold create
  split
  next refused =>
    obtain ⟨old, oldMem, same⟩ := Table.insert?_eq_none_iff.mp refused
    exact absurd same (fresh old oldMem)
  next table inserted =>
    rw [dif_pos free, dif_pos present]
    exact ⟨_, rfl⟩

/-- A taken key is refused by one of the two unique indexes. -/
theorem create_of_keyTaken (taken : messages.keyTaken row = true) :
    messages.create row = .error .uniqueViolation := by
  unfold create
  split
  · rfl
  · rw [dif_neg (by simp [taken])]

/-- Rewrite rows without touching their identity. -/
def rewrite (messages : MessageTable) (change : Message → Message)
    (keeps : ∀ message, (change message).identity = message.identity) : MessageTable where
  table := messages.table.rewrite change fun message => congrArg Prod.fst (keeps message)
  keysUnique := by
    intro first firstMem second secondMem authorEq keyEq keyed
    obtain ⟨firstOld, firstPresent, rfl⟩ := mem_rewrite.mp firstMem
    obtain ⟨secondOld, secondPresent, rfl⟩ := mem_rewrite.mp secondMem
    have firstKeeps := keeps firstOld
    have secondKeeps := keeps secondOld
    simp only [Message.identity, Prod.mk.injEq] at firstKeeps secondKeeps
    rw [firstKeeps.2.1, secondKeeps.2.1] at authorEq
    rw [firstKeeps.2.2.1] at keyed
    rw [firstKeeps.2.2.1, secondKeeps.2.2.1] at keyEq
    rw [messages.keysUnique firstOld firstPresent secondOld secondPresent authorEq keyEq keyed]
  parents := by
    intro message messageMem parentId parentEq
    obtain ⟨old, present, rfl⟩ := mem_rewrite.mp messageMem
    have oldKeeps := keeps old
    simp only [Message.identity, Prod.mk.injEq] at oldKeeps
    obtain ⟨parent, parentMem, idEq⟩ := messages.parents old present parentId
      (oldKeeps.2.2.2.1.symm.trans parentEq)
    refine ⟨change parent, mem_rewrite.mpr ⟨parent, parentMem, rfl⟩, ?_⟩
    exact (congrArg Prod.fst (keeps parent)).trans idEq

theorem mem_rewrite {change : Message → Message}
    {keeps : ∀ message, (change message).identity = message.identity} :
    message ∈ messages.rewrite change keeps ↔ ∃ old ∈ messages, change old = message :=
  List.mem_map

end MessageTable

end Bongtalk.Messages
