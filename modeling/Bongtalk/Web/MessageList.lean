import Bongtalk.Prisma.Schema
import Mathlib.Data.List.Flatten

/-!
# The message list of the web client

The query cache of a channel holds pages of rows, the newest first. Socket events go through one
reducer each. Most reducers map over all pages; the one for new messages looks at the first only.
-/

namespace Bongtalk.Web

open Prisma List

/-- The UUID that a client makes for each send. -/
structure ClientNonce where
  value : Nat
deriving DecidableEq, Repr

/-- The id of a row: one of the server, or `tmp-` in front of a nonce. -/
inductive RowId where
  | message (messageId : MessageId)
  | optimistic (clientNonce : ClientNonce)
deriving DecidableEq, Repr

/-- The rows of the server, by their place in its list. -/
def RowId.position : RowId → Nat
  | .message messageId => messageId.value
  | .optimistic _ => 0

/-- The author of an optimistic row is `optimistic` while the client has no user. -/
inductive RowAuthor where
  | user (userId : UserId)
  | optimistic
deriving DecidableEq, Repr

inductive SendState where
  | pending
  | failed
deriving DecidableEq, Repr

structure Row where
  id : RowId
  authorId : RowAuthor
  content : Option String
  createdAt : DateTime := 0
  parentMessageId : Option MessageId := none
  /-- `thread.replyCount`, where there is a thread. -/
  replyCount : Option Nat := none
  isBroadcast : Bool := false
  /-- The payload of a new message has no version. -/
  version : Option Nat := none
  deleted : Bool := false
  sendState : Option SendState := none
deriving DecidableEq, Repr

namespace Row

/-- Whether an optimistic row gives way to a message by its content. -/
def collapsesInto (row message : Row) : Bool :=
  match row.id with
  | .optimistic _ => decide (row.authorId = .optimistic ∧ row.content = message.content)
  | .message _ => false

def isThreadRootWithReplies (row : Row) : Bool :=
  row.parentMessageId.isNone && row.replyCount.any (0 < ·)

/-- Patch the row of one message. -/
def patchAt (messageId : MessageId) (change : Row → Row) (row : Row) : Row :=
  if row.id = .message messageId then change row else row

/-- What `message.updated` merges into a row. -/
def merge (row : Row) (content : String) (version : Nat) : Row :=
  { row with content := some content, version := some version }

/-- The placeholder of a deleted row. -/
def markDeleted (row : Row) (version : Option Nat) : Row :=
  { row with deleted := true, content := none, version := version <|> row.version }

end Row

/-- `limit` of a page. -/
def messagePageLimit : Nat :=
  50

structure Page where
  items : List Row
  prevCursor : Option (DateTime × MessageId) := none
deriving DecidableEq, Repr

namespace Page

variable (page : Page)

def holds (id : RowId) : Bool :=
  page.items.any fun row => row.id = id

def mapItems (change : Row → Row) : Page :=
  { page with items := page.items.map change }

/-- The reducer of `message.deleted` on a page. -/
def deleted (messageId : MessageId) (version : Option Nat) : Page :=
  let marked := page.mapItems (Row.patchAt messageId fun row => row.markDeleted version)
  match page.items.find? fun row => row.id = .message messageId with
  | none => marked
  | some target =>
    if target.isThreadRootWithReplies then marked
    else { page with items := page.items.filter fun row => row.id ≠ .message messageId }

end Page

/-- The pages of a list that has been loaded, of which there is at least one. -/
structure MessageListCache where
  first : Page
  rest : List Page := []
deriving DecidableEq, Repr

open MessageListCache

namespace MessageListCache

variable (cache : MessageListCache)

/-- The rows of the pages behind the first. -/
def laterRows : List Row :=
  cache.rest.flatMap Page.items

/-- All rows, as the list renders them. -/
def rows : List Row :=
  cache.first.items ++ cache.laterRows

def mapPages (change : Page → Page) : MessageListCache :=
  ⟨change cache.first, cache.rest.map change⟩

def mapItems (change : Row → Row) : MessageListCache :=
  cache.mapPages fun page => page.mapItems change

def withFirst (items : List Row) : MessageListCache :=
  { cache with first := { cache.first with items := items } }

/-- The reducer of `message.created`, for a message that is no reply. -/
def created (message : Row) (nonce : Option ClientNonce) : MessageListCache :=
  if cache.first.holds message.id then cache
  else match nonce.filter fun nonce => cache.first.holds (.optimistic nonce) with
    | some nonce =>
      cache.withFirst (cache.first.items.map fun row =>
        if row.id = .optimistic nonce then message else row)
    | none =>
      cache.withFirst (message :: cache.first.items.filter fun row => !row.collapsesInto message)

/-- The reducer of `message.thread.broadcast`. -/
def broadcast (message : Row) : MessageListCache :=
  if cache.first.holds message.id then cache
  else cache.withFirst ({ message with isBroadcast := true } :: cache.first.items)

/-- The reducer of `message.updated`. -/
def updated (messageId : MessageId) (content : String) (version : Nat) : MessageListCache :=
  cache.mapItems (Row.patchAt messageId fun row => row.merge content version)

/-- The reducer of `message.deleted`. -/
def deleted (messageId : MessageId) (version : Option Nat) : MessageListCache :=
  cache.mapPages fun page => page.deleted messageId version

/-- The reducer of `message.thread.replied`. -/
def replied (messageId : MessageId) (replyCount : Nat) : MessageListCache :=
  cache.mapItems (Row.patchAt messageId fun row => { row with replyCount := some replyCount })

end MessageListCache

section Rows

variable {cache : MessageListCache} {page : Page} {row message : Row} {id : RowId}
  {nonce : Option ClientNonce} {messageId : MessageId} {version : Option Nat}

@[simp]
theorem Page.holds_iff : page.holds id = true ↔ id ∈ page.items.map Row.id := by
  rw [Page.holds, any_eq_true, mem_map]
  simp

@[simp]
theorem rows_withFirst {items : List Row} :
    (cache.withFirst items).rows = items ++ cache.laterRows :=
  rfl

/-- The rows after a change of each page. -/
theorem rows_mapPages {change : Page → Page} : (cache.mapPages change).rows =
    (cache.first :: cache.rest).flatMap fun page => (change page).items := by
  rw [flatMap_cons, rows, laterRows, mapPages, flatMap_map]

theorem rows_eq_flatMap : cache.rows = (cache.first :: cache.rest).flatMap Page.items :=
  rfl

@[simp]
theorem rows_mapItems {change : Row → Row} :
    (cache.mapItems change).rows = cache.rows.map change := by
  rw [mapItems, rows_mapPages, rows_eq_flatMap, map_flatMap]
  rfl

theorem mem_rows : row ∈ cache.rows ↔ row ∈ cache.first.items ∨ row ∈ cache.laterRows :=
  mem_append

/-- What the reducer of a new message does. -/
inductive CreatedEffect (cache : MessageListCache) (message : Row) (nonce : Option ClientNonce) :
    MessageListCache → Prop where
  | same (held : message.id ∈ cache.first.items.map Row.id) :
      CreatedEffect cache message nonce cache
  | swapped {clientNonce : ClientNonce} (fresh : message.id ∉ cache.first.items.map Row.id)
      (echoed : nonce = some clientNonce)
      (held : .optimistic clientNonce ∈ cache.first.items.map Row.id) :
      CreatedEffect cache message nonce (cache.withFirst (cache.first.items.map fun row =>
        if row.id = .optimistic clientNonce then message else row))
  | prepended (fresh : message.id ∉ cache.first.items.map Row.id)
      (unmatched : ∀ clientNonce, nonce = some clientNonce →
        .optimistic clientNonce ∉ cache.first.items.map Row.id) :
      CreatedEffect cache message nonce (cache.withFirst
        (message :: cache.first.items.filter fun row => !row.collapsesInto message))

theorem createdEffect_created : CreatedEffect cache message nonce (cache.created message nonce) := by
  rw [created]
  split
  next held => exact .same (Page.holds_iff.mp held)
  next notHeld =>
    have fresh : message.id ∉ cache.first.items.map Row.id := mt Page.holds_iff.mpr notHeld
    split
    next clientNonce found =>
      obtain ⟨echoed, held⟩ := Option.filter_eq_some_iff.mp found
      exact .swapped fresh echoed (Page.holds_iff.mp held)
    next none_ =>
      refine .prepended fresh fun clientNonce echoed held => ?_
      rw [echoed, Option.filter_some, if_pos (Page.holds_iff.mpr held)] at none_
      cases none_

section Patches

variable {change : Row → Row}

theorem patchAt_of_ne (other : row.id ≠ .message messageId) : row.patchAt messageId change = row :=
  if_neg other

theorem patchAt_of_eq (same : row.id = .message messageId) :
    row.patchAt messageId change = change row :=
  if_pos same

variable (keepsId : ∀ row, (change row).id = row.id)

include keepsId

/-- A patch that keeps the id. -/
theorem id_patchAt : (row.patchAt messageId change).id = row.id := by
  rw [Row.patchAt]
  split
  · exact keepsId row
  · rfl

theorem map_id_patchAt (rows : List Row) :
    (rows.map (Row.patchAt messageId change)).map Row.id = rows.map Row.id := by
  rw [map_map]
  exact map_congr_left fun row _ => id_patchAt keepsId

/-- A patch leaves the rows of other messages alone. -/
theorem filter_map_patchAt (rows : List Row) :
    (rows.map (Row.patchAt messageId change)).filter (fun row => row.id ≠ .message messageId) =
      rows.filter fun row => row.id ≠ .message messageId := by
  induction rows with
  | nil => rfl
  | cons row rest ih =>
    rw [map_cons, filter_cons, filter_cons, id_patchAt keepsId, ih]
    by_cases same : row.id = .message messageId
    · simp [same]
    · simp [same, patchAt_of_ne same]

end Patches

theorem id_merge (content : String) (version : Nat) (row : Row) :
    (row.merge content version).id = row.id :=
  rfl

theorem id_markDeleted (version : Option Nat) (row : Row) : (row.markDeleted version).id = row.id :=
  rfl

theorem items_deleted (page : Page) (messageId : MessageId) (version : Option Nat) :
    (page.deleted messageId version).items =
        page.items.filter (fun row => row.id ≠ .message messageId) ∨
      (page.deleted messageId version).items =
        page.items.map (Row.patchAt messageId fun row => row.markDeleted version) := by
  rw [Page.deleted]
  split
  · exact .inr rfl
  split
  · exact .inr rfl
  · exact .inl rfl

/-- A deletion leaves the rows of other messages alone. -/
theorem filter_rows_deleted : (cache.deleted messageId version).rows.filter
      (fun row => row.id ≠ .message messageId) =
    cache.rows.filter fun row => row.id ≠ .message messageId := by
  rw [deleted, rows_mapPages, rows_eq_flatMap, filter_flatMap, filter_flatMap]
  congr 1
  funext page
  rcases items_deleted page messageId version with removed | marked
  · rw [removed, filter_filter]
    simp
  · rw [marked]
    exact filter_map_patchAt (id_markDeleted version) page.items

/-- A row of the message that is left is the placeholder. -/
theorem deleted_of_mem_deleted (present : row ∈ (cache.deleted messageId version).rows)
    (same : row.id = .message messageId) : row.deleted = true ∧ row.content = none := by
  rw [deleted, rows_mapPages] at present
  obtain ⟨page, -, isItem⟩ := mem_flatMap.mp present
  rcases items_deleted page messageId version with removed | marked
  · rw [removed, mem_filter, decide_eq_true_eq] at isItem
    exact absurd same isItem.2
  · rw [marked, mem_map] at isItem
    obtain ⟨before, -, rfl⟩ := isItem
    rw [id_patchAt (id_markDeleted version)] at same
    rw [patchAt_of_eq same]
    exact ⟨rfl, rfl⟩

/-- A deletion keeps the order of the rows. -/
theorem sublist_rows_deleted :
    ((cache.deleted messageId version).rows.map Row.id).Sublist (cache.rows.map Row.id) := by
  rw [deleted, rows_mapPages, rows_eq_flatMap, map_flatMap, map_flatMap]
  refine Sublist.flatMap_right _ fun page _ => ?_
  rcases items_deleted page messageId version with removed | marked
  · rw [removed]
    exact filter_sublist.map _
  · rw [marked, map_id_patchAt (id_markDeleted version)]

end Rows

section Insertion

variable {cache next : MessageListCache} {first items : List Row} {message : Row}
  {nonce : Option ClientNonce}

/-- A message comes into a page, and what else is there was there before. -/
structure Inserts (first items : List Row) (message : Row) : Prop where
  present : message ∈ items
  others : ∀ row ∈ items, row = message ∨ row ∈ first
  once : (first.map Row.id).Nodup → (items.map Row.id).Nodup

theorem inserts_cons {kept : List Row} (isKept : kept.Sublist first)
    (fresh : message.id ∉ first.map Row.id) : Inserts first (message :: kept) message where
  present := mem_cons_self
  others := fun row present => (mem_cons.mp present).imp_right fun inKept => isKept.subset inKept
  once := by
    intro once
    rw [map_cons, nodup_cons]
    have sublist := isKept.map Row.id
    exact ⟨fun held => fresh (sublist.subset held), sublist.nodup once⟩

theorem inserts_swap {clientNonce : ClientNonce} (fresh : message.id ∉ first.map Row.id)
    (held : .optimistic clientNonce ∈ first.map Row.id) :
    Inserts first (first.map fun row =>
      if row.id = .optimistic clientNonce then message else row) message where
  present := by
    obtain ⟨row, present, same⟩ := mem_map.mp held
    exact mem_map.mpr ⟨row, present, if_pos same⟩
  others := by
    intro row present
    obtain ⟨before, beforeMem, rfl⟩ := mem_map.mp present
    split
    · exact .inl rfl
    · exact .inr beforeMem
  once := by
    intro once
    have inFirst {row : Row} (present : row ∈ first) : row.id ∈ first.map Row.id :=
      mem_map_of_mem present
    rw [map_map]
    refine Nodup.map_on (fun left leftMem right rightMem same => ?_) (once.of_map _)
    apply inj_on_of_nodup_map once leftMem rightMem
    rw [Function.comp_apply, Function.comp_apply] at same
    split at same
    next leftSame =>
      split at same
      next rightSame => rw [leftSame, rightSame]
      next => exact absurd (same ▸ inFirst rightMem) fresh
    next =>
      split at same
      next => exact absurd (same ▸ inFirst leftMem) fresh
      next => exact same

/-- A new message is known to the first page, or comes into it. -/
theorem CreatedEffect.inserts (effect : CreatedEffect cache message nonce next) :
    message.id ∈ cache.first.items.map Row.id ∧ next = cache ∨
      message.id ∉ cache.first.items.map Row.id ∧ ∃ items, next = cache.withFirst items ∧
        Inserts cache.first.items items message := by
  cases effect with
  | same held => exact .inl ⟨held, rfl⟩
  | swapped fresh echoed held => exact .inr ⟨fresh, _, rfl, inserts_swap fresh held⟩
  | prepended fresh unmatched => exact .inr ⟨fresh, _, rfl, inserts_cons filter_sublist fresh⟩

theorem broadcast_inserts (cache : MessageListCache) (message : Row) :
    message.id ∈ cache.first.items.map Row.id ∧ cache.broadcast message = cache ∨
      message.id ∉ cache.first.items.map Row.id ∧ ∃ items,
        cache.broadcast message = cache.withFirst items ∧
          Inserts cache.first.items items { message with isBroadcast := true } := by
  rw [broadcast]
  split
  next held => exact .inl ⟨Page.holds_iff.mp held, rfl⟩
  next notHeld =>
    have fresh : message.id ∉ cache.first.items.map Row.id := mt Page.holds_iff.mpr notHeld
    exact .inr ⟨fresh, _, rfl, inserts_cons (Sublist.refl _) fresh⟩

end Insertion

end Bongtalk.Web
