import Bongtalk.Messages.Cursor

/-!
# The rows of a channel

A channel shows its roots and the broadcast copies of replies, the newest first. A deleted
root that has replies stays as a placeholder.
-/

namespace Bongtalk.Messages

open Library Common Prisma

inductive Direction where
  | before
  | after
deriving DecidableEq, Repr

structure RawListArgs where
  channelId : ChannelId
  direction : Direction := .before
  cursor : Option CursorPayload := none
  inclusive : Bool := false
  limit : Nat
  includeDeleted : Bool := false
  /-- The time before which a member of a conversation sees nothing. -/
  visibleFrom : Option DateTime := none

/-- The comparison of a row with the cursor. -/
def comparison (direction : Direction) (inclusive : Bool) (row cursor : Position) : Bool :=
  match direction, inclusive with
  | .before, true => row ≤ cursor
  | .before, false => row < cursor
  | .after, true => cursor ≤ row
  | .after, false => cursor < row

/-- The casts of the cursor by the database, which reads the time by `timestamp`. -/
def CursorPayload.position (timestamp : List Char → Option Int) (cursor : CursorPayload) :
    Except Failure Position :=
  match timestamp cursor.createdAt, uuid cursor.id with
  | some createdAt, some id => .ok (toLex (createdAt, id))
  | _, _ => .error .rawQueryFailed

/-- The condition of the query apart from the cursor: a root or a broadcast copy, live or with
replies. -/
def RawListArgs.shows (args : RawListArgs) (message : Message) : Bool :=
  message.channelId == args.channelId && (message.parentMessageId == none || message.isBroadcast) &&
    (args.includeDeleted || message.deletedAt == none || decide (0 < message.replyCount)) &&
    args.visibleFrom.all fun visibleFrom => visibleFrom ≤ message.createdAt

/-- The comparison with the cursor, when there is one. -/
def RawListArgs.cursorSql (timestamp : List Char → Option Int) (args : RawListArgs) :
    Except Failure (Message → Bool) :=
  match args.cursor with
  | none => .ok fun _ => true
  | some payload => do
    let cursor ← payload.position timestamp
    .ok fun message => comparison args.direction args.inclusive message.position cursor

/-- The order of the query; without a cursor it is newest first. -/
def RawListArgs.orderSql (args : RawListArgs) : Direction :=
  match args.cursor with
  | none => .before
  | some _ => args.direction

/-- `ORDER BY "createdAt" DESC, id DESC`. -/
def newestFirst (rows : List Message) : List Message :=
  rows.insertionSort fun first second => second.position ≤ first.position

/-- `ORDER BY "createdAt" ASC, id ASC`. -/
def oldestFirst (rows : List Message) : List Message :=
  rows.insertionSort fun first second => first.position ≤ second.position

def orderBy : Direction → List Message → List Message
  | .before => newestFirst
  | .after => oldestFirst

/-- The query; rows that come oldest first are turned around. -/
def rawList (timestamp : List Char → Option Int) (messages : MessageTable) (args : RawListArgs) :
    Except Failure (List Message) := do
  let cursorSql ← args.cursorSql timestamp
  let shown := messages.table.findMany fun message => args.shows message && cursorSql message
  let rows := (orderBy args.orderSql shown).take args.limit
  match args.direction with
  | .before => .ok rows
  | .after => .ok rows.reverse

section Rows

variable {timestamp : List Char → Option Int} {messages : MessageTable}

theorem mem_orderBy {direction : Direction} {rows : List Message} {row : Message} :
    row ∈ orderBy direction rows ↔ row ∈ rows := by
  cases direction with
  | before | after => exact List.mem_insertionSort _

/-- A page has rows of the query only. -/
theorem mem_of_rawList {args : RawListArgs} {rows : List Message}
    (listed : rawList timestamp messages args = .ok rows) {row : Message} (present : row ∈ rows) :
    row ∈ messages ∧ args.shows row = true := by
  obtain ⟨cursorSql, -, listed⟩ := bind_eq_ok.mp listed
  have taken : row ∈ (orderBy args.orderSql (messages.table.findMany fun message =>
      args.shows message && cursorSql message)).take args.limit := by
    split at listed
    · cases listed
      exact present
    · cases listed
      exact List.mem_reverse.mp present
  have selected := Table.mem_findMany.mp (mem_orderBy.mp (List.mem_of_mem_take taken))
  exact ⟨selected.1, (Bool.and_eq_true_iff.mp selected.2).1⟩

end Rows

end Bongtalk.Messages
