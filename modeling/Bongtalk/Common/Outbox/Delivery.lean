import Mathlib.Algebra.Order.BigOperators.Group.List
import Mathlib.Algebra.Order.Ring.Nat
import Bongtalk.Common.Outbox.Dispatcher

/-!
# What the dispatchers deliver

A mark follows an emit that went well, and an event that is neither marked nor out of attempts
waits for full batches of older events only. The claim of an event holds no lock beyond its own
statement, so another process can claim the event while its emit runs.
-/

namespace Bongtalk.Common.Outbox

open Library Prisma List Table Label OutboxEvent

variable {config : DispatcherConfig} {state next : Dispatch} {label : Label}

theorem mem_updateEvents {events : OutboxTable} {ids : List EventId}
    {change : OutboxEvent → OutboxEvent} {keeps : ∀ row, (change row).id = row.id}
    {row : OutboxEvent} :
    row ∈ updateEvents events ids change keeps ↔
      ∃ old ∈ events, row = if old.id ∈ ids then change old else old := by
  rw [updateEvents, mem_rewrite]
  simp only [eq_comm]

/-- The events that a process has claimed and not yet dealt with. -/
def Phase.rows : Phase → List OutboxEvent
  | .claim => []
  | .emit row rest | .mark row rest | .note row _ rest => row :: rest

def Dispatch.held (state : Dispatch) (process : ProcessId) : List EventId :=
  ((state.running process).elim [] Phase.rows).map OutboxEvent.id

theorem held_eq {process : ProcessId} {phase : Phase} (runs : state.running process = some phase) :
    state.held process = phase.rows.map OutboxEvent.id := by
  rw [Dispatch.held, runs]
  rfl

theorem running_goesTo (process other : ProcessId) (phase : Option Phase) :
    (state.goesTo process phase).running other =
      if other = process then phase else state.running other :=
  Function.update_apply ..

theorem rows_proceed (rows : List OutboxEvent) : (proceed rows).elim [] Phase.rows = rows := by
  cases rows <;> rfl

/-- A process whose tick goes on holds what the next phase has. -/
theorem held_of_goesTo {process other : ProcessId} {phase : Option Phase} {id : EventId}
    (same : next.running = (state.goesTo process phase).running) :
    id ∈ next.held other ↔ if other = process then id ∈ (phase.elim [] Phase.rows).map OutboxEvent.id
      else id ∈ state.held other := by
  rw [Dispatch.held, same, running_goesTo]
  split <;> rfl

/-- The events a claim takes, with its process. -/
def Label.claims : Label → List (ProcessId × OutboxEvent)
  | .claim process _ chosen => chosen.map (process, ·)
  | _ => []

/-- A process holds an event only from its claim on. -/
theorem held_of_step (step : Step config state label next) {process : ProcessId} {id : EventId}
    (held : id ∈ next.held process) :
    id ∈ state.held process ∨ ∃ row, (process, row) ∈ label.claims ∧ row.id = id := by
  have keeps : ∀ {worker : ProcessId} {phase : Option Phase},
      next.running = (state.goesTo worker phase).running →
      (∀ row ∈ phase.elim [] Phase.rows, row.id ∈ state.held worker) →
      id ∈ state.held process := by
    intro worker phase same kept
    have nowHeld := (held_of_goesTo same).mp held
    split at nowHeld
    next sameProcess =>
      obtain ⟨row, rowMem, rfl⟩ := mem_map.mp nowHeld
      rw [sameProcess]
      exact kept row rowMem
    next => exact nowHeld
  have listed : ∀ {worker : ProcessId} {phase : Phase}, state.running worker = some phase →
      ∀ row ∈ phase.rows, row.id ∈ state.held worker := by
    intro worker phase runs row rowMem
    rw [held_eq runs]
    exact mem_map_of_mem rowMem
  cases step with
  | record created | elapse duration => exact .inl held
  | tick idle | noteRefused notes | crash process => exact .inl (keeps rfl nofun)
  | @claim worker locked chosen polls selects =>
    have nowHeld := (held_of_goesTo rfl).mp held
    split at nowHeld
    next sameProcess =>
      rw [rows_proceed, map_map] at nowHeld
      obtain ⟨row, rowMem, rfl⟩ := mem_map.mp nowHeld
      subst sameProcess
      exact .inr ⟨row, mem_map_of_mem rowMem, rfl⟩
    next => exact .inl nowHeld
  | emitted thrown emits =>
    refine .inl (keeps rfl fun row rowMem => listed emits row ?_)
    cases thrown <;> exact rowMem
  | marked marks =>
    refine .inl (keeps rfl fun row rowMem => listed marks row ?_)
    rw [rows_proceed] at rowMem
    exact mem_cons_of_mem _ rowMem
  | markRefused error marks => exact .inl (keeps rfl fun row rowMem => listed marks row rowMem)
  | noted notes =>
    refine .inl (keeps rfl fun row rowMem => listed notes row ?_)
    rw [rows_proceed] at rowMem
    exact mem_cons_of_mem _ rowMem

/-- A process emits what it holds. -/
theorem emits_of_step (step : Step config state label next) :
    next.emits = state.emits ∨
      ∃ emit, next.emits = emit :: state.emits ∧ emit.envelope.id ∈ state.held emit.process := by
  cases step with
  | emitted thrown emits =>
    refine .inr ⟨_, rfl, ?_⟩
    rw [held_eq emits]
    exact mem_cons_self
  | _ => exact .inl rfl

/-- An emit of the event has completed without error. -/
def Dispatch.Completed (state : Dispatch) (id : EventId) : Prop :=
  ∃ emit ∈ state.emits, emit.envelope.id = id ∧ emit.thrown = none

/-- The events that are marked, or are about to be, were emitted. -/
structure Marked (state : Dispatch) : Prop where
  dispatched : ∀ row ∈ state.events, row.dispatchedAt ≠ none → state.Completed row.id
  marking : ∀ process row rest, state.running process = some (.mark row rest) →
    state.Completed row.id

/-- An update that marks emitted events only. -/
theorem Marked.of_update (marked : Marked state) {ids : List EventId}
    (change : OutboxEvent → OutboxEvent) (keeps : ∀ row, (change row).id = row.id)
    (emitted : ∀ row ∈ state.events, row.id ∈ ids → (change row).dispatchedAt ≠ none →
      state.Completed row.id) :
    ∀ row ∈ updateEvents state.events ids change keeps, row.dispatchedAt ≠ none →
      state.Completed row.id := by
  intro row present isMarked
  obtain ⟨old, oldMem, rfl⟩ := mem_updateEvents.mp present
  split at isMarked
  next chosen =>
    rw [if_pos chosen, keeps]
    exact emitted old oldMem chosen isMarked
  next other =>
    rw [if_neg other]
    exact marked.dispatched old oldMem isMarked

theorem Marked.of_step (step : Step config state label next) (marked : Marked state) :
    Marked next := by
  have marking : ∀ {worker : ProcessId} {phase : Option Phase},
      (∀ row rest, phase = some (.mark row rest) → state.Completed row.id) →
      ∀ process row rest, (state.goesTo worker phase).running process = some (.mark row rest) →
        state.Completed row.id := by
    intro worker phase ofPhase process row rest runs
    rw [running_goesTo] at runs
    split at runs
    · exact ofPhase row rest runs
    · exact marked.marking process row rest runs
  have proceeds : ∀ {rows : List OutboxEvent} row rest, proceed rows = some (.mark row rest) →
      state.Completed row.id := by
    rintro (_ | ⟨_, _⟩) row rest same <;> cases same
  cases step with
  | record created =>
    refine ⟨fun row present isMarked => ?_, marked.marking⟩
    rcases (mem_insert? created).mp present with rfl | old
    · exact absurd rfl isMarked
    · exact marked.dispatched row old isMarked
  | elapse duration => exact ⟨marked.dispatched, marked.marking⟩
  | tick idle | markRefused error marks | noteRefused notes | crash process =>
    exact ⟨marked.dispatched, marking nofun⟩
  | claim polls selects =>
    refine ⟨marked.of_update claimed (fun _ => rfl) ?_, marking proceeds⟩
    exact fun row present _ isMarked => marked.dispatched row present isMarked
  | @emitted worker row rest thrown emits =>
    have more : ∀ {id}, state.Completed id → Dispatch.Completed
        { state with emits := ⟨worker, row.envelope, thrown⟩ :: state.emits } id := by
      rintro id ⟨emit, emitMem, completed⟩
      exact ⟨emit, mem_cons_of_mem _ emitMem, completed⟩
    refine ⟨fun row present isMarked => more (marked.dispatched row present isMarked), ?_⟩
    intro process other otherRest runs
    rw [show _ = _ from running_goesTo worker process _] at runs
    split at runs
    · cases thrown with
      | none =>
        cases runs
        exact ⟨_, mem_cons_self, rfl, rfl⟩
      | some error => cases runs
    · exact more (marked.marking process other otherRest runs)
  | marked marks =>
    refine ⟨marked.of_update (.dispatched _) (fun _ => rfl) fun row _ isRow _ => ?_,
      marking proceeds⟩
    rw [mem_singleton.mp isRow]
    exact marked.marking _ _ _ marks
  | noted notes =>
    refine ⟨marked.of_update (.failed _) (fun _ => rfl) ?_, marking proceeds⟩
    exact fun row present _ isMarked => marked.dispatched row present isMarked

section Waiting

/-- The attempts a row has left, if it is not younger than a time. -/
def OutboxEvent.attemptsLeft (config : DispatcherConfig) (time : DateTime) (row : OutboxEvent) :
    Nat :=
  if row.occurredAt ≤ time then config.maxAttempts - row.attempts else 0

/-- The attempts that the rows up to a time have left, those that are marked included. -/
def Dispatch.attemptsLeft (config : DispatcherConfig) (state : Dispatch) (time : DateTime) : Nat :=
  (state.events.rows.map (OutboxEvent.attemptsLeft config time)).sum

/-- A claim that does not find the row of an event locked and leaves it out. -/
def Label.passesOver (id : EventId) : Label → Bool
  | .claim _ locked chosen => !locked.contains id && !(chosen.map OutboxEvent.id).contains id
  | _ => false

def Label.isRecord : Label → Bool
  | .record .. => true
  | _ => false

/-- An event is there, is not marked and has been claimed so many times. -/
def Dispatch.Waits (state : Dispatch) (id : EventId) (occurredAt : DateTime) (attempts : Nat) :
    Prop :=
  ∃ row ∈ state.events, row.id = id ∧ row.occurredAt = occurredAt ∧ row.attempts = attempts ∧
    row.dispatchedAt = none

variable {id : EventId} {attempts : Nat} {row : OutboxEvent} {locked : List EventId}
  {chosen : List OutboxEvent} {time : DateTime}

/-- Rows stay; they lose no attempt and no mark. -/
theorem row_of_step (step : Step config state label next) (present : row ∈ state.events) :
    ∃ later ∈ next.events, later.id = row.id ∧ later.occurredAt = row.occurredAt ∧
      row.attempts ≤ later.attempts ∧ (later.dispatchedAt = none → row.dispatchedAt = none) := by
  have updated : ∀ {ids : List EventId} (change : OutboxEvent → OutboxEvent)
      (keeps : ∀ row, (change row).id = row.id),
      ((change row).occurredAt = row.occurredAt ∧ row.attempts ≤ (change row).attempts ∧
        ((change row).dispatchedAt = none → row.dispatchedAt = none)) →
      ∃ later ∈ updateEvents state.events ids change keeps, later.id = row.id ∧
        later.occurredAt = row.occurredAt ∧ row.attempts ≤ later.attempts ∧
        (later.dispatchedAt = none → row.dispatchedAt = none) := by
    intro ids change keeps same
    refine ⟨_, mem_updateEvents.mpr ⟨row, present, rfl⟩, ?_⟩
    split
    · exact ⟨keeps row, same⟩
    · exact ⟨rfl, rfl, le_refl _, id⟩
  have stays : ∃ later ∈ state.events, later.id = row.id ∧ later.occurredAt = row.occurredAt ∧
      row.attempts ≤ later.attempts ∧ (later.dispatchedAt = none → row.dispatchedAt = none) :=
    ⟨row, present, rfl, rfl, le_refl _, id⟩
  cases step with
  | record created =>
    exact ⟨row, (mem_insert? created).mpr (.inr present), rfl, rfl, le_refl _, id⟩
  | claim polls selects => exact updated claimed (fun _ => rfl) ⟨rfl, Nat.le_succ _, id⟩
  | marked marks => exact updated (.dispatched _) (fun _ => rfl) ⟨rfl, le_refl _, nofun⟩
  | noted notes => exact updated (.failed _) (fun _ => rfl) ⟨rfl, le_refl _, id⟩
  | _ => exact stays

/-- A claim that passes an event over is full of events that are not younger. -/
theorem full_of_passesOver {events : OutboxTable} (selects : Chosen config locked events chosen)
    (present : row ∈ events) (undispatched : row.dispatchedAt = none)
    (attempts : row.attempts < config.maxAttempts) (unlocked : row.id ∉ locked) :
    row ∈ chosen ∨
      (chosen.length = config.batchSize ∧ ∀ taken ∈ chosen, taken.occurredAt ≤ row.occurredAt) := by
  apply selects.oldest row present
  simp [claimable, undispatched, attempts, unlocked]

theorem sum_map_add_countP {α : Type} {less more : α → Nat} {counted : α → Bool} {entries : List α}
    (step : ∀ entry ∈ entries, less entry + (if counted entry then 1 else 0) = more entry) :
    (entries.map less).sum + entries.countP counted = (entries.map more).sum := by
  induction entries with
  | nil => rfl
  | cons entry entries ih =>
    have first := step entry mem_cons_self
    have rest := ih fun other otherMem =>
      step other (mem_cons_of_mem _ otherMem)
    simp only [map_cons, sum_cons, countP_cons]
    omega

/-- The attempts left shrink by one for each old row of a batch. -/
theorem attemptsLeft_claim {locked : List EventId} {chosen : List OutboxEvent} {time : DateTime}
    (selects : Chosen config locked state.events chosen)
    (old : ∀ row ∈ chosen, row.occurredAt ≤ time)
    (events : next.events = updateEvents state.events (chosen.map OutboxEvent.id)
      OutboxEvent.claimed fun _ => rfl) :
    next.attemptsLeft config time + chosen.length = state.attemptsLeft config time := by
  have counted : chosen.length =
      state.events.rows.countP fun row => row.id ∈ chosen.map OutboxEvent.id := by
    have sameIds : (chosen.map OutboxEvent.id).Perm
        ((state.events.rows.filter fun row => row.id ∈ chosen.map OutboxEvent.id).map
          OutboxEvent.id) := by
      refine (perm_ext_iff_of_nodup selects.distinct
        (state.events.keysNodup.sublist (filter_sublist.map _))).mpr fun id => ?_
      simp only [mem_map, mem_filter, decide_eq_true_eq]
      constructor
      · rintro ⟨row, rowMem, rfl⟩
        exact ⟨row, ⟨(selects.within row rowMem).1, row, rowMem, rfl⟩, rfl⟩
      · rintro ⟨row, ⟨-, taken, takenMem, same⟩, rfl⟩
        exact ⟨taken, takenMem, same⟩
    rw [countP_eq_length_filter, ← length_map OutboxEvent.id, sameIds.length_eq, length_map]
  have eachRow : ∀ row ∈ state.events.rows, row.id ∈ chosen.map OutboxEvent.id →
      row.occurredAt ≤ time ∧ row.attempts < config.maxAttempts := by
    intro row rowMem chosenId
    obtain ⟨taken, takenMem, same⟩ := mem_map.mp chosenId
    obtain ⟨takenPresent, isClaimable⟩ := selects.within taken takenMem
    obtain rfl := eq_of_key_eq takenPresent rowMem same
    simp only [claimable, Bool.and_eq_true, decide_eq_true_eq] at isClaimable
    exact ⟨old taken takenMem, isClaimable.1.2⟩
  rw [counted, Dispatch.attemptsLeft, Dispatch.attemptsLeft, events]
  change ((state.events.rows.map _).map _).sum + _ = _
  rw [map_map]
  apply sum_map_add_countP
  intro row rowMem
  simp only [Function.comp_apply, decide_eq_true_eq]
  split
  next isChosen =>
    obtain ⟨inTime, attempts⟩ := eachRow row rowMem isChosen
    rw [OutboxEvent.attemptsLeft, OutboxEvent.attemptsLeft, if_pos inTime, OutboxEvent.claimed,
      if_pos inTime]
    dsimp only
    omega
  next => exact Nat.add_zero _

/-- No update gives attempts back. -/
theorem attemptsLeft_update {ids : List EventId} (change : OutboxEvent → OutboxEvent)
    (keeps : ∀ row, (change row).id = row.id)
    (uses : ∀ row, (change row).attemptsLeft config time ≤ row.attemptsLeft config time)
    (events : next.events = updateEvents state.events ids change keeps) :
    next.attemptsLeft config time ≤ state.attemptsLeft config time := by
  rw [Dispatch.attemptsLeft, Dispatch.attemptsLeft, events]
  change ((state.events.rows.map _).map _).sum ≤ _
  rw [map_map]
  apply sum_le_sum
  intro row _
  rw [Function.comp_apply]
  split
  · exact uses row
  · exact le_refl _

theorem attemptsLeft_claimed_le (row : OutboxEvent) (time : DateTime) :
    row.claimed.attemptsLeft config time ≤ row.attemptsLeft config time := by
  rw [attemptsLeft, attemptsLeft]
  by_cases inTime : row.occurredAt ≤ time
  · rw [if_pos inTime, if_pos (show row.claimed.occurredAt ≤ time from inTime)]
    exact Nat.sub_le_sub_left (Nat.le_succ _) _
  · rw [if_neg inTime, if_neg (show ¬row.claimed.occurredAt ≤ time from inTime)]

variable {occurredAt : DateTime}

/-- What a step costs the rows up to the time of an event that goes on waiting. -/
theorem attemptsLeft_of_step (step : Step config state label next)
    (fewer : attempts < config.maxAttempts) (waits : state.Waits id occurredAt attempts) :
    (if label.passesOver id then config.batchSize else 0) + next.attemptsLeft config occurredAt ≤
      state.attemptsLeft config occurredAt +
        config.maxAttempts * (if label.isRecord then 1 else 0) := by
  cases step with
  | @record input newId carrier events created =>
    have rows := (Table.insert?_eq_some_iff.mp created).2
    have atMost : (input.row newId carrier state.now).attemptsLeft config occurredAt ≤
        config.maxAttempts := by
      rw [OutboxEvent.attemptsLeft]
      split <;> omega
    simp only [passesOver, isRecord, Dispatch.attemptsLeft, rows, map_cons,
      sum_cons, Bool.false_eq_true, if_false, if_true]
    omega
  | @claim process locked chosen polls selects =>
    simp only [isRecord, Bool.false_eq_true, if_false, Nat.mul_zero, Nat.add_zero]
    split
    next passed =>
      obtain ⟨row, present, rfl, rfl, rfl, undispatched⟩ := waits
      simp only [passesOver, Bool.and_eq_true, Bool.not_eq_true', contains_eq_mem,
        decide_eq_false_iff_not] at passed
      have leftOut : row ∉ chosen := fun isChosen => passed.2 (mem_map_of_mem isChosen)
      obtain ⟨full, old⟩ := (full_of_passesOver selects present undispatched fewer
        passed.1).resolve_left leftOut
      rw [← full, Nat.add_comm]
      exact (attemptsLeft_claim selects old rfl).le
    next =>
      rw [Nat.zero_add]
      exact attemptsLeft_update OutboxEvent.claimed (fun _ => rfl)
        (attemptsLeft_claimed_le · occurredAt) rfl
  | marked marks =>
    simp only [passesOver, isRecord, Bool.false_eq_true, if_false, Nat.zero_add,
      Nat.mul_zero, Nat.add_zero]
    exact attemptsLeft_update (.dispatched _) (fun _ => rfl) (fun _ => le_refl _) rfl
  | noted notes =>
    simp only [passesOver, isRecord, Bool.false_eq_true, if_false, Nat.zero_add,
      Nat.mul_zero, Nat.add_zero]
    exact attemptsLeft_update (.failed _) (fun _ => rfl) (fun _ => le_refl _) rfl
  | _ =>
    simp only [passesOver, isRecord, Bool.false_eq_true, if_false, Nat.zero_add,
      Nat.mul_zero, Nat.add_zero]
    exact le_refl _

/-- An event that waits after a step waited before it, if it was there. -/
theorem waits_before (step : Step config state label next) {id : EventId} {attempts : Nat}
    (present : ∃ row ∈ state.events, row.id = id ∧ row.occurredAt = occurredAt ∧ attempts ≤
      row.attempts) (waits : next.Waits id occurredAt attempts) :
    state.Waits id occurredAt attempts := by
  obtain ⟨row, rowMem, rfl, rfl, atLeast⟩ := present
  obtain ⟨later, laterMem, sameId, -, attemptsLe, undispatched⟩ := row_of_step step rowMem
  obtain ⟨waiting, waitingMem, waitingId, -, rfl, notMarked⟩ := waits
  obtain rfl := eq_of_key_eq laterMem waitingMem (sameId.trans waitingId.symm)
  exact ⟨row, rowMem, rfl, rfl, by omega, undispatched notMarked⟩

/-- Over a run at whose end an event still waits, the claims that passed it over were paid for by
the attempts of events that are not younger. -/
theorem passes_bounded {start finish : Dispatch} {labels : List Label}
    (steps : Steps (Step config) start labels finish) (fewer : attempts < config.maxAttempts)
    (waits : start.Waits id occurredAt attempts) (still : finish.Waits id occurredAt attempts) :
    labels.countP (passesOver id) * config.batchSize + finish.attemptsLeft config occurredAt ≤
      start.attemptsLeft config occurredAt + config.maxAttempts * labels.countP isRecord := by
  induction steps with
  | refl => simp
  | @step labels current label next prior transition ih =>
    have present : ∃ row ∈ current.events, row.id = id ∧ row.occurredAt = occurredAt ∧
        attempts ≤ row.attempts := by
      refine prior.preserves (fun state => ∃ row ∈ state.events, row.id = id ∧
        row.occurredAt = occurredAt ∧ attempts ≤ row.attempts) ?_ ?_
      · rintro state label next step ⟨row, rowMem, rfl, rfl, atLeast⟩
        obtain ⟨later, laterMem, sameId, sameTime, attemptsLe, -⟩ := row_of_step step rowMem
        exact ⟨later, laterMem, sameId, sameTime, atLeast.trans attemptsLe⟩
      · obtain ⟨row, rowMem, sameId, sameTime, rfl, -⟩ := waits
        exact ⟨row, rowMem, sameId, sameTime, le_refl _⟩
    have before := waits_before transition present still
    have earlier := ih before
    have cost := attemptsLeft_of_step transition fewer before
    have passed : (if label.passesOver id then 1 else 0) * config.batchSize =
        if label.passesOver id then config.batchSize else 0 := by
      split
      · exact Nat.one_mul _
      · exact Nat.zero_mul _
    rw [countP_append, countP_append, countP_singleton, countP_singleton,
      Nat.add_mul, Nat.mul_add, passed]
    omega

end Waiting

/-- A claim takes no event that another process has in hand or has emitted already. -/
def Unshared (state : Dispatch) : Label → Prop
  | .claim process _ chosen => ∀ row ∈ chosen,
      (∀ other, row.id ∈ state.held other → other = process) ∧
        ∀ emit ∈ state.emits, emit.envelope.id = row.id → emit.thrown = none →
          emit.process = process
  | _ => True

/-- No two processes have emitted the same event without error. -/
def EmittedByOne (state : Dispatch) : Prop :=
  ∀ first ∈ state.emits, ∀ second ∈ state.emits, first.thrown = none → second.thrown = none →
    first.envelope.id = second.envelope.id → first.process = second.process

/-- An event in hand is the business of one process, which alone may have emitted it. -/
structure Owned (state : Dispatch) : Prop where
  exclusive : ∀ first second id, id ∈ state.held first → id ∈ state.held second → first = second
  emitted : ∀ process id, id ∈ state.held process → ∀ emit ∈ state.emits, emit.envelope.id = id →
    emit.thrown = none → emit.process = process
  byOne : EmittedByOne state

theorem Owned.of_step (step : Step config state label next) (unshared : Unshared state label)
    (owned : Owned state) : Owned next := by
  -- Whoever holds an event after the step held it before, or claims it now from nobody.
  have owner : ∀ {process id}, id ∈ next.held process →
      (∀ other, id ∈ state.held other → other = process) ∧
        ∀ emit ∈ state.emits, emit.envelope.id = id → emit.thrown = none →
          emit.process = process := by
    intro process id held
    rcases held_of_step step held with before | ⟨row, claimed, rfl⟩
    · exact ⟨fun other otherHeld => owned.exclusive other process id otherHeld before,
        owned.emitted process id before⟩
    · cases label with
      | claim worker locked chosen =>
        obtain ⟨taken, takenMem, same⟩ := mem_map.mp claimed
        obtain ⟨rfl, rfl⟩ := Prod.mk.inj same
        exact unshared taken takenMem
      | _ => cases claimed
  have exclusive : ∀ first second id, id ∈ next.held first → id ∈ next.held second →
      first = second := by
    intro first second id firstHeld secondHeld
    rcases held_of_step step firstHeld with before | ⟨row, claimed, rfl⟩
    · exact (owner secondHeld).1 first before
    rcases held_of_step step secondHeld with before | ⟨other, otherClaimed, sameId⟩
    · exact ((owner firstHeld).1 second before).symm
    cases label with
    | claim worker locked chosen =>
      obtain ⟨_, _, firstIs⟩ := mem_map.mp claimed
      obtain ⟨_, _, secondIs⟩ := mem_map.mp otherClaimed
      exact (congrArg Prod.fst firstIs).symm.trans (congrArg Prod.fst secondIs)
    | _ => cases claimed
  rcases emits_of_step step with same | ⟨emit, more, emitHeld⟩
  · refine ⟨exclusive, fun process id held => ?_, ?_⟩
    · rw [same]
      exact (owner held).2
    · rw [EmittedByOne, same]
      exact owned.byOne
  · refine ⟨exclusive, fun process id held => ?_, ?_⟩
    · rw [more]
      refine forall_mem_cons.mpr ⟨fun sameId _ => ?_, (owner held).2⟩
      subst sameId
      exact (owner held).1 emit.process emitHeld
    · rw [EmittedByOne, more]
      have fresh : ∀ other ∈ state.emits, other.thrown = none →
          other.envelope.id = emit.envelope.id → other.process = emit.process := by
        intro other otherMem completed sameId
        exact owned.emitted _ _ emitHeld other otherMem sameId completed
      intro first firstMem second secondMem firstOk secondOk sameId
      rcases mem_cons.mp firstMem with rfl | firstOld
      · rcases mem_cons.mp secondMem with rfl | secondOld
        · rfl
        · exact (fresh second secondOld secondOk sameId.symm).symm
      · rcases mem_cons.mp secondMem with rfl | secondOld
        · exact fresh first firstOld firstOk sameId
        · exact owned.byOne first firstOld second secondOld firstOk secondOk sameId

/-- No event has been recorded. -/
def Dispatch.start (now : DateTime) : Dispatch where
  now := now

/-- An event that waits is taken by each claim that finds its row free, or the batch of the claim is
full of events that are not younger, which lose the attempts that they need for it. -/
def NeverExcluded (config : DispatcherConfig) (state : Dispatch) : Prop :=
  ∀ row ∈ state.events, row.dispatchedAt = none → row.attempts < config.maxAttempts →
    (∀ process locked chosen next, Step config state (.claim process locked chosen) next →
      row.id ∉ locked → row ∈ chosen ∨
        (chosen.length = config.batchSize ∧ ∀ taken ∈ chosen, taken.occurredAt ≤ row.occurredAt)) ∧
    ∀ labels later, Steps (Step config) state labels later →
      later.Waits row.id row.occurredAt row.attempts →
      labels.countP (passesOver row.id) * config.batchSize ≤
        state.attemptsLeft config row.occurredAt + config.maxAttempts * labels.countP isRecord

theorem neverExcluded (state : Dispatch) : NeverExcluded config state := by
  intro row present undispatched attempts
  constructor
  · intro process locked chosen next step unlocked
    cases step with
    | claim polls selects => exact full_of_passesOver selects present undispatched attempts unlocked
  · intro labels later steps still
    have waits : state.Waits row.id row.occurredAt row.attempts :=
      ⟨row, present, rfl, rfl, rfl, undispatched⟩
    have bounded := passes_bounded steps attempts waits still
    omega

/-- An event is marked after an emit that went well, an event with attempts left is never excluded,
and in a run whose claims take only what no other process has in hand or has emitted, one process
at most emits an event without error. -/
theorem outbox_delivers (config : DispatcherConfig) (now : DateTime) (labels : List Label)
    (finish : Dispatch) :
    (Steps (Step config) (.start now) labels finish →
      (∀ row ∈ finish.events, row.dispatchedAt ≠ none → finish.Completed row.id) ∧
        NeverExcluded config finish) ∧
      (Steps (Guarded (Step config) Unshared) (.start now) labels finish → EmittedByOne finish) := by
  constructor
  · intro steps
    have marked : Marked finish := by
      refine steps.preserves Marked (fun step marked => marked.of_step step) ⟨?_, ?_⟩
      · exact nofun
      · exact nofun
    exact ⟨marked.dispatched, neverExcluded finish⟩
  · intro steps
    have owned : Owned finish := by
      refine steps.preserves Owned (fun step owned => owned.of_step step.1 step.2) ⟨?_, ?_, ?_⟩
      · exact nofun
      · exact nofun
      · exact nofun
    exact owned.byOne

/-- One event, and a process that has claimed it. -/
def hello : OutboxRecordInput where
  aggregateType := "Message"
  aggregateId := 1
  eventType := "message.created"
  payload := []

def helloRow : OutboxEvent :=
  hello.row ⟨1⟩ .null 5

def helloRecorded : Dispatch :=
  { now := 5, events := ⟨[helloRow], nodup_singleton _⟩ }

def claimedBy (state : Dispatch) (process : ProcessId) (row : OutboxEvent) : Dispatch :=
  { (state.goesTo process (some .claim)).goesTo process (proceed [row.claimed]) with
    events := updateEvents state.events [row.id] claimed fun _ => rfl }

def emittedBy (state : Dispatch) (process : ProcessId) (row : OutboxEvent) : Dispatch :=
  { state.goesTo process (some (.mark row [])) with
    emits := ⟨process, row.envelope, none⟩ :: state.emits }

/-- A process claims the one event of the table. -/
theorem step_claimedBy {state : Dispatch} {process : ProcessId} {row : OutboxEvent}
    (only : state.events.rows = [row]) (waits : claimable {} [] row = true) :
    Step {} (state.goesTo process (some .claim)) (.claim process [] [row])
      (claimedBy state process row) := by
  have selects : Chosen {} [] state.events [row] := by
    refine ⟨nodup_singleton _, ?_, Nat.le_of_ble_eq_true rfl, ?_⟩
    · intro taken takenMem
      obtain rfl := mem_singleton.mp takenMem
      exact ⟨by rw [mem_def, only]; exact takenMem, waits⟩
    · intro other otherMem _
      rw [mem_def, only] at otherMem
      exact .inl otherMem
  have polls : (state.goesTo process (some .claim)).running process = some .claim := by
    rw [running_goesTo, if_pos rfl]
  exact .claim polls selects

/-- Process 1 claims the event and is still at it when process 2 claims it too. -/
def helloShared : Dispatch :=
  claimedBy (claimedBy helloRecorded ⟨1⟩ helloRow) ⟨2⟩ helloRow.claimed

/-- Both emit the event, and no listener throws. -/
theorem event_emitted_twice : ∃ labels finish,
    Steps (Step {}) (.start 5) labels finish ∧
      finish.emits.map (fun emit => (emit.process, emit.envelope.id)) = [(⟨2⟩, ⟨1⟩), (⟨1⟩, ⟨1⟩)] ∧
      ¬EmittedByOne finish := by
  have recorded : Step {} (.start 5) (.record hello ⟨1⟩ .null) helloRecorded := .record rfl
  have firstTick : Step {} helloRecorded (.tick ⟨1⟩) _ := .tick rfl
  have first := ((Steps.refl.step recorded).step firstTick).step (step_claimedBy rfl rfl)
  have secondTick : Step {} (claimedBy helloRecorded ⟨1⟩ helloRow) (.tick ⟨2⟩) _ := .tick rfl
  have shared : Steps (Step {}) (.start 5) _ helloShared :=
    (first.step secondTick).step (step_claimedBy rfl rfl)
  have firstEmits : helloShared.running ⟨1⟩ = some (.emit helloRow.claimed []) := by
    rfl
  have firstEmitted : Step {} helloShared (.emitted ⟨1⟩ none)
      (emittedBy helloShared ⟨1⟩ helloRow.claimed) := .emitted none firstEmits
  have secondEmits : (emittedBy helloShared ⟨1⟩ helloRow.claimed).running ⟨2⟩ =
      some (.emit helloRow.claimed.claimed []) := by
    rfl
  have secondEmitted : Step {} (emittedBy helloShared ⟨1⟩ helloRow.claimed) (.emitted ⟨2⟩ none)
      (emittedBy (emittedBy helloShared ⟨1⟩ helloRow.claimed) ⟨2⟩ helloRow.claimed.claimed) :=
    .emitted none secondEmits
  refine ⟨_, _, (shared.step firstEmitted).step secondEmitted, rfl, fun byOne => ?_⟩
  have same := byOne _ mem_cons_self _ (mem_cons_of_mem _ mem_cons_self) rfl rfl rfl
  exact absurd same (by decide)

/-- Process 1 alone emits the event once, and marks it. -/
theorem event_emitted_once : ∃ labels finish,
    Steps (Guarded (Step {}) Unshared) (.start 5) labels finish ∧
      finish.events.rows.map (·.dispatchedAt) = [some 5] ∧ EmittedByOne finish ∧
      ∀ row ∈ finish.events, row.dispatchedAt ≠ none → finish.Completed row.id := by
  have recorded : Guarded (Step {}) Unshared (.start 5) (.record hello ⟨1⟩ .null) helloRecorded :=
    ⟨.record rfl, trivial⟩
  have free : Unshared (helloRecorded.goesTo ⟨1⟩ (some .claim)) (.claim ⟨1⟩ [] [helloRow]) := by
    intro row chosen
    refine ⟨fun other held => ?_, nofun⟩
    have inHand := (held_of_goesTo rfl).mp held
    split at inHand
    · cases inHand
    · cases inHand
  have ticked : Guarded (Step {}) Unshared helloRecorded (.tick ⟨1⟩) _ := ⟨.tick rfl, trivial⟩
  have claimed := ((Steps.refl.step recorded).step ticked).step ⟨step_claimedBy rfl rfl, free⟩
  have emits : (claimedBy helloRecorded ⟨1⟩ helloRow).running ⟨1⟩ =
      some (.emit helloRow.claimed []) := by
    rfl
  have emitted := claimed.step ⟨.emitted none emits, trivial⟩
  have marks : (emittedBy (claimedBy helloRecorded ⟨1⟩ helloRow) ⟨1⟩ helloRow.claimed).running ⟨1⟩ =
      some (.mark helloRow.claimed []) := by
    rfl
  have marked := emitted.step ⟨.marked marks, trivial⟩
  exact ⟨_, _, marked, rfl, (outbox_delivers {} 5 _ _).2 marked,
    ((outbox_delivers {} 5 _ _).1 (marked.mono And.left)).1⟩

end Bongtalk.Common.Outbox
