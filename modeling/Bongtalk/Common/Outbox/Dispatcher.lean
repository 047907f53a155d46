import Bongtalk.Library.Json
import Bongtalk.Library.System
import Bongtalk.Prisma.Schema

/-!
# The outbox and its dispatchers

Every process polls the table of events. A claim, the emits and the marks behind them are
statements of their own, so between any two of them other processes go on.
-/

namespace Bongtalk.Common.Outbox

open Library Prisma

structure EventId where
  value : Nat
deriving DecidableEq, Repr

structure ProcessId where
  value : Nat
deriving DecidableEq, Repr

/-- A row of `OutboxEvent`. -/
structure OutboxEvent where
  id : EventId
  aggregateType : String
  aggregateId : Nat
  eventType : String
  payload : Json
  occurredAt : DateTime
  dispatchedAt : Option DateTime := none
  attempts : Nat := 0
  lastError : Option String := none

abbrev OutboxTable := Table OutboxEvent OutboxEvent.id

structure OutboxRecordInput where
  aggregateType : String
  aggregateId : Nat
  eventType : String
  payload : List (List Char × Json)

/-- The row that `record` creates, with the trace context in its payload. -/
def OutboxRecordInput.row (input : OutboxRecordInput) (id : EventId) (carrier : Json)
    (occurredAt : DateTime) : OutboxEvent :=
  { id := id
    aggregateType := input.aggregateType
    aggregateId := input.aggregateId
    eventType := input.eventType
    payload := .object (input.payload ++ [("__trace".toList, carrier)])
    occurredAt := occurredAt }

/-- What the listeners of an event get. -/
structure Envelope where
  payloadClean : List (List Char × Json)
  id : EventId
  type : String
  occurredAt : DateTime
  aggregateType : String
  aggregateId : Nat

/-- The members of a payload, which need not be an object. -/
def rawPayload : Json → List (List Char × Json)
  | .object members => members
  | .array items => items.zipIdx.map fun (item, index) => ((toString index).toList, item)
  | payload => [("payload".toList, payload)]

def OutboxEvent.envelope (row : OutboxEvent) : Envelope where
  payloadClean := (rawPayload row.payload).filter (·.1 ≠ "__trace".toList)
  id := row.id
  type := row.eventType
  occurredAt := row.occurredAt
  aggregateType := row.aggregateType
  aggregateId := row.aggregateId

structure DispatcherConfig where
  maxAttempts : Nat := 10
  batchSize : Nat := 50

/-- The condition of a claim; other statements hold locks on some rows. -/
def claimable (config : DispatcherConfig) (locked : List EventId) (row : OutboxEvent) : Bool :=
  row.dispatchedAt == none && row.attempts < config.maxAttempts && !locked.contains row.id

/-- `ORDER BY "occurredAt" LIMIT … FOR UPDATE SKIP LOCKED`. Rows of one time come in any order. -/
structure Chosen (config : DispatcherConfig) (locked : List EventId) (events : OutboxTable)
    (chosen : List OutboxEvent) : Prop where
  distinct : (chosen.map OutboxEvent.id).Nodup
  within : ∀ row ∈ chosen, row ∈ events ∧ claimable config locked row = true
  limit : chosen.length ≤ config.batchSize
  oldest : ∀ row ∈ events, claimable config locked row = true → row ∈ chosen ∨
    (chosen.length = config.batchSize ∧ ∀ taken ∈ chosen, taken.occurredAt ≤ row.occurredAt)

/-- The row after its claim. -/
def OutboxEvent.claimed (row : OutboxEvent) : OutboxEvent :=
  { row with attempts := row.attempts + 1 }

/-- The row after its mark. -/
def OutboxEvent.dispatched (now : DateTime) (row : OutboxEvent) : OutboxEvent :=
  { row with dispatchedAt := some now, lastError := none }

/-- The row after an emit or a mark that threw. -/
def OutboxEvent.failed (message : String) (row : OutboxEvent) : OutboxEvent :=
  { row with lastError := some message }

/-- An update of the rows with some ids. -/
def updateEvents (events : OutboxTable) (ids : List EventId) (change : OutboxEvent → OutboxEvent)
    (keeps : ∀ row, (change row).id = row.id) : OutboxTable :=
  events.rewrite (fun row => if row.id ∈ ids then change row else row) fun row => by
    split
    · exact keeps row
    · rfl

/-- What an `await` throws: an `Error` with its message, or another value. -/
inductive Thrown where
  | error (message : String)
  | other (text : String)

/-- `lastError`, at most 500 characters of a message. -/
def Thrown.message : Thrown → String
  | .error message => String.ofList (message.toList.take 500)
  | .other text => text

/-- An emit that has ended, and what it threw. -/
structure Emit where
  process : ProcessId
  envelope : Envelope
  thrown : Option Thrown

/-- The next statement of a tick. -/
inductive Phase where
  | claim
  | emit (row : OutboxEvent) (rest : List OutboxEvent)
  | mark (row : OutboxEvent) (rest : List OutboxEvent)
  | note (row : OutboxEvent) (error : Thrown) (rest : List OutboxEvent)

/-- The loop over the claimed rows. -/
def proceed : List OutboxEvent → Option Phase
  | [] => none
  | row :: rest => some (.emit row rest)

structure Dispatch where
  now : DateTime
  events : OutboxTable := .empty
  /-- The tick of each process, if one is running. -/
  running : ProcessId → Option Phase := fun _ => none
  emits : List Emit := []

inductive Label where
  | record (input : OutboxRecordInput) (id : EventId) (carrier : Json)
  | elapse (duration : Nat)
  | tick (process : ProcessId)
  | claim (process : ProcessId) (locked : List EventId) (chosen : List OutboxEvent)
  | emitted (process : ProcessId) (thrown : Option Thrown)
  | marked (process : ProcessId) (thrown : Option Thrown)
  | noted (process : ProcessId) (committed : Bool)
  | crash (process : ProcessId)

section Steps

variable (config : DispatcherConfig)

/-- A process goes on to a phase. -/
def Dispatch.goesTo (state : Dispatch) (process : ProcessId) (phase : Option Phase) : Dispatch :=
  { state with running := Function.update state.running process phase }

/-- One statement of a process, a record of an event, or time that passes. A process can stop at
any point, and a statement can be refused. -/
inductive Step : Dispatch → Label → Dispatch → Prop where
  | record {state : Dispatch} {input id carrier events}
      (created : state.events.insert? (input.row id carrier state.now) = some events) :
      Step state (.record input id carrier) { state with events := events }
  | elapse {state : Dispatch} (duration : Nat) :
      Step state (.elapse duration) { state with now := state.now + duration }
  | tick {state : Dispatch} {process} (idle : state.running process = none) :
      Step state (.tick process) (state.goesTo process (some .claim))
  | claim {state : Dispatch} {process locked chosen} (polls : state.running process = some .claim)
      (selects : Chosen config locked state.events chosen) :
      Step state (.claim process locked chosen)
        { state.goesTo process (proceed (chosen.map OutboxEvent.claimed)) with
          events := updateEvents state.events (chosen.map OutboxEvent.id) OutboxEvent.claimed
            fun _ => rfl }
  | emitted {state : Dispatch} {process row rest} (thrown : Option Thrown)
      (emits : state.running process = some (.emit row rest)) :
      Step state (.emitted process thrown)
        { state.goesTo process (match thrown with
            | none => some (.mark row rest)
            | some error => some (.note row error rest)) with
          emits := ⟨process, row.envelope, thrown⟩ :: state.emits }
  | marked {state : Dispatch} {process row rest}
      (marks : state.running process = some (.mark row rest)) :
      Step state (.marked process none)
        { state.goesTo process (proceed rest) with
          events := updateEvents state.events [row.id] (OutboxEvent.dispatched state.now)
            fun _ => rfl }
  | markRefused {state : Dispatch} {process row rest} (error : Thrown)
      (marks : state.running process = some (.mark row rest)) :
      Step state (.marked process (some error)) (state.goesTo process (some (.note row error rest)))
  | noted {state : Dispatch} {process row error rest}
      (notes : state.running process = some (.note row error rest)) :
      Step state (.noted process true)
        { state.goesTo process (proceed rest) with
          events := updateEvents state.events [row.id] (OutboxEvent.failed error.message)
            fun _ => rfl }
  /-- The tick throws, and the rest of the batch is left. -/
  | noteRefused {state : Dispatch} {process row error rest}
      (notes : state.running process = some (.note row error rest)) :
      Step state (.noted process false) (state.goesTo process none)
  | crash {state : Dispatch} (process : ProcessId) :
      Step state (.crash process) (state.goesTo process none)

end Steps

end Bongtalk.Common.Outbox
