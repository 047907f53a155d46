import Bongtalk.Library.System

/-!
# An event loop

Pending tasks run one at a time, each up to its next await: a task changes the shared state and
leaves its continuations behind. Which task runs next is open, and between any two of
them the outside world may change the shared state and add tasks.
-/

namespace Library

open List

universe u v w

/-- What a task does up to its next await, and what the outside world may do. -/
structure EventLoop (Shared : Type u) (Task : Type v) (Input : Type w) where
  resume : Shared → Task → Shared × List Task
  Accepts : Shared → Input → Shared → List Task → Prop

namespace EventLoop

variable {Shared : Type u} {Task : Type v} {Input : Type w}

structure State (Shared : Type u) (Task : Type v) where
  shared : Shared
  tasks : List Task

/-- A task that only reads: it goes on, or its call has failed. -/
def proceed {ε : Type*} (shared : Shared) (next : Except ε Task) : Shared × List Task :=
  (shared, next.toOption.toList)

/-- A task that writes at the end of its call. A write that fails changes nothing. -/
def conclude {ε : Type*} (shared : Shared) (written : Except ε Shared) : Shared × List Task :=
  (written.toOption.getD shared, [])

/-- A law holds after a write at the end of a call if each write that goes through keeps it. -/
theorem law_conclude {ε : Type*} {Law : Shared → Prop} {shared : Shared} (law : Law shared)
    {written : Except ε Shared} (keeps : ∀ next, written = .ok next → Law next) :
    Law (conclude shared written : Shared × List Task).1 := by
  cases written with
  | error failure => exact law
  | ok next => exact keeps next rfl

theorem law_conclude_iff {ε : Type*} {Law : Shared → Prop} {shared : Shared} (law : Law shared)
    {written : Except ε Shared} {Guard : Prop}
    (exact : ∀ next, written = .ok next → (Law next ↔ Guard)) :
    Law (conclude shared written : Shared × List Task).1 ↔ (written.isOk = true → Guard) := by
  cases written with
  | error failure => exact iff_of_true law fun impossible => by cases impossible
  | ok next => exact (exact next rfl).trans ⟨fun guard _ => guard, fun guard => guard rfl⟩

@[simp]
theorem mem_proceed {ε : Type*} {shared : Shared} {next : Except ε Task} {new : Task} :
    new ∈ (proceed shared next).2 ↔ next = .ok new := by
  cases next with
  | error failure => simp [proceed, Except.toOption]
  | ok task => simp [proceed, Except.toOption, eq_comm]

/-- A step runs one of the pending tasks or takes an input. -/
inductive Label (Task : Type v) (Input : Type w) where
  | resume (before : List Task) (task : Task) (after : List Task)
  | accept (input : Input)

inductive Step (loop : EventLoop Shared Task Input) :
    State Shared Task → Label Task Input → State Shared Task → Prop where
  | resume {shared} (before : List Task) (task : Task) (after : List Task) :
      Step loop ⟨shared, before ++ task :: after⟩ (.resume before task after)
        ⟨(loop.resume shared task).1, before ++ (loop.resume shared task).2 ++ after⟩
  | accept {shared tasks input next spawned} (accepted : loop.Accepts shared input next spawned) :
      Step loop ⟨shared, tasks⟩ (.accept input) ⟨next, tasks ++ spawned⟩

/-- A guard on the tasks that run. The outside world is free. -/
def OnResume (Guard : Shared → Task → Prop) (state : State Shared Task) :
    Label Task Input → Prop
  | .resume _ task _ => Guard state.shared task
  | .accept _ => True

/-- Run the first pending task, a number of times. -/
def runFirst (loop : EventLoop Shared Task Input) :
    Nat → State Shared Task → State Shared Task
  | 0, state => state
  | _ + 1, ⟨shared, []⟩ => ⟨shared, []⟩
  | count + 1, ⟨shared, task :: rest⟩ =>
    runFirst loop count ⟨(loop.resume shared task).1, (loop.resume shared task).2 ++ rest⟩

variable {loop : EventLoop Shared Task Input}

/-- Nothing is left to run. -/
theorem runFirst_nil (count : Nat) (shared : Shared) :
    loop.runFirst count ⟨shared, []⟩ = ⟨shared, []⟩ := by
  cases count <;> rfl

theorem runFirst_add (first second : Nat) (state : State Shared Task) :
    loop.runFirst (first + second) state = loop.runFirst second (loop.runFirst first state) := by
  induction first generalizing state with
  | zero => rw [Nat.zero_add, runFirst]
  | succ first ih =>
    rcases state with ⟨shared, tasks⟩
    cases tasks with
    | nil => rw [runFirst_nil, runFirst_nil, runFirst_nil]
    | cons task rest =>
      rw [Nat.succ_add, runFirst, runFirst, ih]

/-- Running the first task continues a run. -/
theorem exists_steps_runFirst (count : Nat) {start state : State Shared Task}
    {labels : List (Label Task Input)} (steps : Steps (Step loop) start labels state) :
    ∃ more, Steps (Step loop) start more (loop.runFirst count state) := by
  induction count generalizing state labels with
  | zero => exact ⟨labels, steps⟩
  | succ count ih =>
    rcases state with ⟨shared, tasks⟩
    cases tasks with
    | nil => exact ⟨labels, steps⟩
    | cons task rest => exact ih (steps.step (.resume [] task rest))

/-- The first tasks run under a guard. -/
def FirstGuarded (loop : EventLoop Shared Task Input)
    (Guard : State Shared Task → Label Task Input → Prop) : Nat → State Shared Task → Prop
  | 0, _ => True
  | _ + 1, ⟨_, []⟩ => True
  | count + 1, ⟨shared, task :: rest⟩ =>
    Guard ⟨shared, task :: rest⟩ (.resume [] task rest) ∧
      FirstGuarded loop Guard count
        ⟨(loop.resume shared task).1, (loop.resume shared task).2 ++ rest⟩

theorem exists_guarded_runFirst {Guard : State Shared Task → Label Task Input → Prop} (count : Nat)
    {start state : State Shared Task} {labels : List (Label Task Input)}
    (steps : Steps (Guarded (Step loop) Guard) start labels state)
    (guarded : loop.FirstGuarded Guard count state) :
    ∃ more, Steps (Guarded (Step loop) Guard) start more (loop.runFirst count state) := by
  induction count generalizing state labels with
  | zero => exact ⟨labels, steps⟩
  | succ count ih =>
    rcases state with ⟨shared, tasks⟩
    cases tasks with
    | nil => exact ⟨labels, steps⟩
    | cons task rest =>
      have resumed := steps.step ⟨Step.resume [] task rest, guarded.1⟩
      exact ih resumed guarded.2

/-! Scripts: runs that are given by their inputs and by the places of the tasks that run. -/

inductive Move (Input : Type w) where
  | run (place : Nat)
  | accept (input : Input)

section Scripts

variable (loop : EventLoop Shared Task Input) (accept : Shared → Input → Shared × List Task)
  (check : State Shared Task → Label Task Input → Bool)

/-- One move, if it passes the check. -/
def move (state : State Shared Task) : Move Input → Option (State Shared Task)
  | .accept input =>
    if check state (.accept input) then
      some ⟨(accept state.shared input).1, state.tasks ++ (accept state.shared input).2⟩
    else none
  | .run place =>
    match state.tasks.drop place with
    | [] => none
    | task :: after =>
      if check state (.resume (state.tasks.take place) task after) then
        some ⟨(loop.resume state.shared task).1,
          state.tasks.take place ++ (loop.resume state.shared task).2 ++ after⟩
      else none

def play (state : State Shared Task) : List (Move Input) → Option (State Shared Task)
  | [] => some state
  | next :: moves => (loop.move accept check state next).bind fun state => play state moves

variable {loop accept check} {Guard : State Shared Task → Label Task Input → Prop}
  {state finish : State Shared Task}

theorem step_of_move (accepts : ∀ state input, check state (.accept input) = true →
      loop.Accepts state.shared input (accept state.shared input).1 (accept state.shared input).2)
    (guarded : ∀ state label, check state label = true → Guard state label) {next : Move Input}
    (moved : loop.move accept check state next = some finish) :
    ∃ label, Guarded (Step loop) Guard state label finish := by
  cases next with
  | accept input =>
    rw [move] at moved
    split at moved
    next passed =>
      cases moved
      exact ⟨.accept input, .accept (accepts state input passed), guarded state _ passed⟩
    · cases moved
  | run place =>
    rw [move] at moved
    split at moved
    · cases moved
    next task after isLast =>
      split at moved
      next passed =>
        cases moved
        have tasks : state.tasks = state.tasks.take place ++ task :: after := by
          rw [← isLast, take_append_drop]
        refine ⟨.resume (state.tasks.take place) task after, ?_, guarded state _ passed⟩
        have resumed : Step loop ⟨state.shared, state.tasks.take place ++ task :: after⟩ _ _ :=
          .resume (state.tasks.take place) task after
        rwa [← tasks] at resumed
      · cases moved

variable {start : State Shared Task}

/-- A script that passes its checks is a run. -/
theorem exists_guarded_of_play
    (accepts : ∀ state input, check state (.accept input) = true → loop.Accepts state.shared input
      (accept state.shared input).1 (accept state.shared input).2)
    (guarded : ∀ state label, check state label = true → Guard state label)
    {moves : List (Move Input)} {labels : List (Label Task Input)}
    (steps : Steps (Guarded (Step loop) Guard) start labels state)
    (played : loop.play accept check state moves = some finish) :
    ∃ more, Steps (Guarded (Step loop) Guard) start more finish := by
  induction moves generalizing state labels with
  | nil =>
    cases played
    exact ⟨labels, steps⟩
  | cons next moves ih =>
    rw [play, Option.bind_eq_some_iff] at played
    obtain ⟨middle, moved, rest⟩ := played
    obtain ⟨label, step⟩ := step_of_move accepts guarded moved
    exact ih (steps.step step) rest

variable {P : State Shared Task → Prop} {Run : List (Label Task Input) → State Shared Task → Prop}

/-- A script that passes its checks is a run into a state with the given property. -/
theorem exists_run_of_play
    (accepts : ∀ state input, check state (.accept input) = true → loop.Accepts state.shared input
      (accept state.shared input).1 (accept state.shared input).2)
    (guarded : ∀ state label, check state label = true → Guard state label)
    (runs : ∀ {labels finish}, Steps (Guarded (Step loop) Guard) start labels finish →
      Run labels finish)
    (moves : List (Move Input)) (played : ∃ finish ∈ loop.play accept check start moves, P finish) :
    ∃ labels finish, Run labels finish ∧ P finish := by
  obtain ⟨finish, isFinish, holds⟩ := played
  obtain ⟨labels, steps⟩ := exists_guarded_of_play accepts guarded .refl isFinish
  exact ⟨labels, finish, runs steps, holds⟩

/-- Check the tasks that run. -/
def checkTasks (allows : Shared → Task → Bool) (state : State Shared Task) :
    Label Task Input → Bool
  | .resume _ task _ => allows state.shared task
  | .accept _ => true

variable (accepts : ∀ shared input, loop.Accepts shared input (accept shared input).1 (accept shared
  input).2)

include accepts

variable (start)

/-- A script whose tasks pass a check is a run under the guard that the check decides. -/
theorem exists_onResume_of_play {allows : Shared → Task → Bool} {Allowed : Shared → Task → Prop}
    (sound : ∀ shared task, allows shared task = true → Allowed shared task)
    (runs : ∀ {labels finish}, Steps (Guarded (Step loop) (OnResume Allowed)) start labels finish →
      Run labels finish) (moves : List (Move Input))
    (played : ∃ finish ∈ loop.play accept (checkTasks allows) start moves, P finish) :
    ∃ labels finish, Run labels finish ∧ P finish := by
  refine exists_run_of_play (fun state input _ => accepts state.shared input)
    (fun state label passed => ?_) runs moves played
  cases label with
  | resume before task after => exact sound state.shared task passed
  | accept input => trivial

/-- A script without checks is a run. -/
theorem exists_steps_of_play (moves : List (Move Input))
    (played : ∃ finish ∈ loop.play accept (fun _ _ => true) start moves, P finish) :
    ∃ labels finish, Steps (Step loop) start labels finish ∧ P finish :=
  exists_run_of_play (fun state input _ => accepts state.shared input) (fun _ _ _ => trivial)
    (fun steps : Steps (Guarded (Step loop) fun _ _ => True) start _ _ => steps.mono And.left)
    moves played

omit accepts

variable (loop accept check state) {start} in
/-- A run goes on with a script into the state that the script computes. -/
theorem exists_steps_played (accepts : ∀ state input, check state (.accept input) = true →
      loop.Accepts state.shared input (accept state.shared input).1 (accept state.shared input).2)
    {labels : List (Label Task Input)} (steps : Steps (Step loop) start labels state)
    (moves : List (Move Input)) (played : loop.play accept check state moves = some finish) :
    ∃ more, Steps (Step loop) start more finish := by
  have free : Steps (Guarded (Step loop) fun _ _ => True) start labels state :=
    steps.mono fun step => ⟨step, trivial⟩
  obtain ⟨more, guarded⟩ := exists_guarded_of_play accepts (fun _ _ _ => trivial) free played
  exact ⟨more, guarded.mono And.left⟩

end Scripts

section Tasks

variable {before after spawned : List Task} {task other : Task}

/-- The tasks after a step are those that waited and those the step left. -/
theorem mem_resumed : other ∈ before ++ spawned ++ after ↔
    other ∈ before ++ after ∨ other ∈ spawned := by
  simp only [mem_append]
  tauto

theorem mem_left : task ∈ before ++ [task] ++ after :=
  mem_resumed.mpr (.inr (mem_singleton_self _))

theorem mem_pending : other ∈ before ++ task :: after ↔ other = task ∨ other ∈ before ++ after := by
  simp only [mem_append, mem_cons]
  tauto

/-- Tasks that keep apart stay apart when the new ones do. -/
theorem pairwise_resumed {Apart : Task → Task → Prop}
    (symmetric : ∀ {first second}, Apart first second → Apart second first)
    (apart : (before ++ task :: after).Pairwise Apart) (among : spawned.Pairwise Apart)
    (fromOthers : ∀ waiting ∈ before ++ after, ∀ new ∈ spawned, Apart waiting new) :
    (before ++ spawned ++ after).Pairwise Apart := by
  obtain ⟨beforeApart, restApart, across⟩ := pairwise_append.mp apart
  have afterApart := (pairwise_cons.mp restApart).2
  refine pairwise_append.mpr ⟨pairwise_append.mpr ⟨beforeApart, among, ?_⟩, afterApart, ?_⟩
  · exact fun waiting waitingMem new newMem =>
      fromOthers waiting (mem_append_left _ waitingMem) new newMem
  · intro first firstMem second secondMem
    rcases mem_append.mp firstMem with firstBefore | firstNew
    · exact across first firstBefore second (mem_cons_of_mem _ secondMem)
    · exact symmetric (fromOthers second (mem_append_right _ secondMem) first firstNew)

/-- A task that waits keeps apart from the one that runs. -/
theorem apart_of_pending {Apart : Task → Task → Prop}
    (symmetric : ∀ {first second}, Apart first second → Apart second first)
    (apart : (before ++ task :: after).Pairwise Apart) {waiting : Task}
    (waits : waiting ∈ before ++ after) : Apart waiting task := by
  obtain ⟨-, restApart, across⟩ := pairwise_append.mp apart
  rcases mem_append.mp waits with waitsBefore | waitsAfter
  · exact across waiting waitsBefore task mem_cons_self
  · exact symmetric ((pairwise_cons.mp restApart).1 waiting waitsAfter)

end Tasks

/-! Invariants of the shared state that rest on facts about the pending tasks. -/

section Invariants

variable {loop : EventLoop Shared Task Input} {Invariant : Shared → Prop}
  {Fact : Shared → Task → Prop}

/-- The invariant holds next, the facts about waiting tasks stay, and new tasks come with theirs. -/
structure Keeps (Invariant : Shared → Prop) (Fact : Shared → Task → Prop) (shared next : Shared)
    (spawned : List Task) : Prop where
  invariant : Invariant next
  stable : ∀ waiting, Fact shared waiting → Fact next waiting
  fresh : ∀ new ∈ spawned, Fact next new

theorem Keeps.of_same {shared : Shared} {spawned : List Task} (invariant : Invariant shared)
    (fresh : ∀ new ∈ spawned, Fact shared new) : Keeps Invariant Fact shared shared spawned :=
  ⟨invariant, fun _ fact => fact, fresh⟩

section Facts

variable {shared next : Shared} {spawned : List Task}

/-- The facts after a step. -/
theorem Keeps.resumed {before after : List Task} {task : Task}
    (kept : Keeps Invariant Fact shared next spawned)
    (facts : ∀ waiting ∈ before ++ task :: after, Fact shared waiting) :
    ∀ waiting ∈ before ++ spawned ++ after, Fact next waiting := by
  intro waiting pending
  rcases mem_resumed.mp pending with waits | isNew
  · exact kept.stable waiting (facts waiting (mem_pending.mpr (.inr waits)))
  · exact kept.fresh waiting isNew

/-- The facts after an input. -/
theorem Keeps.accepted {tasks : List Task} (kept : Keeps Invariant Fact shared next spawned)
    (facts : ∀ waiting ∈ tasks, Fact shared waiting) :
    ∀ waiting ∈ tasks ++ spawned, Fact next waiting := by
  intro waiting pending
  rcases mem_append.mp pending with waits | isNew
  · exact kept.stable waiting (facts waiting waits)
  · exact kept.fresh waiting isNew

end Facts

/-- An invariant and the facts that every step keeps hold along every run. -/
theorem invariant_of_steps {Guard : Shared → Task → Prop}
    (resume : ∀ {shared task}, Invariant shared → Fact shared task → Guard shared task →
      Keeps Invariant Fact shared (loop.resume shared task).1 (loop.resume shared task).2)
    (accept : ∀ {shared input next spawned}, loop.Accepts shared input next spawned →
      Invariant shared → Keeps Invariant Fact shared next spawned)
    {start : Shared} (initially : Invariant start) {labels : List (Label Task Input)}
    {finish : State Shared Task}
    (steps : Steps (Guarded (Step loop) (OnResume Guard)) ⟨start, []⟩ labels finish) :
    Invariant finish.shared ∧ ∀ task ∈ finish.tasks, Fact finish.shared task := by
  refine steps.preserves
    (fun state => Invariant state.shared ∧ ∀ task ∈ state.tasks, Fact state.shared task) ?_
    ⟨initially, forall_mem_nil _⟩
  rintro state label next ⟨transition, guarded⟩ ⟨invariant, facts⟩
  cases transition with
  | resume before task after =>
    have kept := resume invariant (facts task (mem_pending.mpr (.inl rfl))) guarded
    exact ⟨kept.invariant, kept.resumed facts⟩
  | accept accepted =>
    have kept := accept accepted invariant
    exact ⟨kept.invariant, kept.accepted facts⟩

/-- When the facts about the pending tasks tell which of them keep a law, and inputs keep it, the
runs within the law are those in which each task that runs meets the guard. -/
theorem lawful_iff_guarded {Law : Shared → Prop} {Guard : Shared → Task → Prop}
    (resume : ∀ {shared task}, Invariant shared → Fact shared task →
      Keeps Invariant Fact shared (loop.resume shared task).1 (loop.resume shared task).2)
    (accept : ∀ {shared input next spawned}, loop.Accepts shared input next spawned →
      Invariant shared → Keeps Invariant Fact shared next spawned)
    (exact : ∀ {shared task}, Invariant shared → Fact shared task → Law shared →
      (Law (loop.resume shared task).1 ↔ Guard shared task))
    (stays : ∀ {shared input next spawned}, loop.Accepts shared input next spawned →
      Law shared → Law next)
    {start : Shared} (initially : Invariant start) (lawful : Law start)
    {labels : List (Label Task Input)} {finish : State Shared Task} :
    Steps (Lawful (Step loop) fun state => Law state.shared) ⟨start, []⟩ labels finish ↔
      Steps (Guarded (Step loop) (OnResume Guard)) ⟨start, []⟩ labels finish := by
  refine Steps.lawful_iff_guarded
    (fun state => Invariant state.shared ∧ ∀ task ∈ state.tasks, Fact state.shared task)
    ?_ ?_ ⟨initially, forall_mem_nil _⟩ lawful
  · rintro state label next transition ⟨invariant, facts⟩
    cases transition with
    | resume before task after =>
      have kept := resume invariant (facts task (mem_pending.mpr (.inl rfl)))
      exact ⟨kept.invariant, kept.resumed facts⟩
    | accept accepted =>
      have kept := accept accepted invariant
      exact ⟨kept.invariant, kept.accepted facts⟩
  · rintro state label next transition ⟨invariant, facts⟩ law
    cases transition with
    | resume before task after =>
      exact exact invariant (facts task (mem_pending.mpr (.inl rfl))) law
    | accept accepted => exact iff_of_true (stays accepted law) trivial

end Invariants

/-! Locks: some tasks hold a key, no two the same one, and what they hold is locked. -/

section Locks

variable {Key : Type w} {holds : Task → Option Key} {locked : List Key} {tasks : List Task}
  {before after spawned : List Task} {task : Task}

structure Exclusive (holds : Task → Option Key) (locked : List Key) (tasks : List Task) :
    Prop where
  apart : tasks.Pairwise fun first second =>
    ∀ key, holds first = some key → holds second ≠ some key
  locked : ∀ task ∈ tasks, ∀ key, holds task = some key → key ∈ locked

namespace Exclusive

theorem symmetric {first second : Task}
    (apart : ∀ key, holds first = some key → holds second ≠ some key) :
    ∀ key, holds second = some key → holds first ≠ some key :=
  fun key heldSecond heldFirst => apart key heldFirst heldSecond

section

variable (exclusive : Exclusive holds locked (before ++ task :: after))

include exclusive

/-- Another task does not hold the key of the task that runs. -/
theorem ne_of_waits {key : Key} (held : holds task = some key) {waiting : Task}
    (waits : waiting ∈ before ++ after) :
    holds waiting ≠ some key := by
  intro waitingHeld
  exact apart_of_pending symmetric exclusive.apart waits key waitingHeld held

/-- The task goes on without the lock it may have had, and leaves tasks that hold nothing. -/
theorem resume_free (free : ∀ new ∈ spawned, holds new = none) :
    Exclusive holds locked (before ++ spawned ++ after) where
  apart := by
    apply pairwise_resumed symmetric exclusive.apart
    · refine pairwise_of_forall_mem_list fun first firstMem second _ key held => ?_
      rw [free first firstMem] at held
      cases held
    · intro waiting _ new newMem key _ held
      rw [free new newMem] at held
      cases held
  locked := by
    intro other otherMem key held
    rcases mem_resumed.mp otherMem with waits | isNew
    · exact exclusive.locked other (mem_pending.mpr (.inr waits)) key held
    rw [free other isNew] at held
    cases held

/-- The task keeps its lock. -/
theorem resume_held {new : Task} (same : holds new = holds task) :
    Exclusive holds locked (before ++ [new] ++ after) where
  apart := by
    apply pairwise_resumed symmetric exclusive.apart (pairwise_singleton _ _)
    intro waiting waits other otherMem key held
    obtain rfl := mem_singleton.mp otherMem
    rw [same]
    exact apart_of_pending symmetric exclusive.apart waits key held
  locked := by
    intro other otherMem key held
    rcases mem_resumed.mp otherMem with waits | isNew
    · exact exclusive.locked other (mem_pending.mpr (.inr waits)) key held
    obtain rfl := mem_singleton.mp isNew
    exact exclusive.locked task (mem_pending.mpr (.inl rfl)) key (same ▸ held)

/-- The task takes a lock that is free. -/
theorem acquire {new : Task} {key : Key} (free : key ∉ locked) (held : holds new = some key) :
    Exclusive holds (key :: locked) (before ++ [new] ++ after) where
  apart := by
    apply pairwise_resumed symmetric exclusive.apart (pairwise_singleton _ _)
    intro waiting waits other otherMem other waitingHeld newHeld
    obtain rfl := mem_singleton.mp otherMem
    cases held.symm.trans newHeld
    exact free (exclusive.locked waiting (mem_pending.mpr (.inr waits)) key waitingHeld)
  locked := by
    intro other otherMem otherKey otherHeld
    rcases mem_resumed.mp otherMem with waits | isNew
    · exact mem_cons_of_mem _
        (exclusive.locked other (mem_pending.mpr (.inr waits)) otherKey otherHeld)
    · obtain rfl := mem_singleton.mp isNew
      cases held.symm.trans otherHeld
      exact mem_cons_self

/-- The task gives its lock back, and leaves tasks that hold nothing. -/
theorem release_free [DecidableEq Key] {key : Key} (held : holds task = some key)
    (free : ∀ new ∈ spawned, holds new = none) :
    Exclusive holds (locked.erase key) (before ++ spawned ++ after) where
  apart := (exclusive.resume_free free).apart
  locked := by
    intro other otherMem otherKey otherHeld
    rcases mem_resumed.mp otherMem with waits | isNew
    · have otherLocked := exclusive.locked other (mem_pending.mpr (.inr waits)) otherKey otherHeld
      have different : otherKey ≠ key := by
        rintro rfl
        exact exclusive.ne_of_waits held waits otherHeld
      exact (mem_erase_of_ne different).mpr otherLocked
    · rw [free other isNew] at otherHeld
      cases otherHeld

/-- The task ends and gives its lock back. -/
theorem release [DecidableEq Key] {key : Key} (held : holds task = some key) :
    Exclusive holds (locked.erase key) (before ++ [] ++ after) :=
  exclusive.release_free held (forall_mem_nil _)

end

section

variable (exclusive : Exclusive holds locked tasks)

include exclusive

/-- New tasks come without locks. -/
theorem accept (free : ∀ new ∈ spawned, holds new = none) :
    Exclusive holds locked (tasks ++ spawned) where
  apart := by
    refine pairwise_append.mpr ⟨exclusive.apart, ?_, ?_⟩
    · refine pairwise_of_forall_mem_list fun first firstMem second _ key held => ?_
      rw [free first firstMem] at held
      cases held
    · intro waiting _ new newMem key _ held
      rw [free new newMem] at held
      cases held
  locked := by
    intro other otherMem key held
    rcases mem_append.mp otherMem with waits | isNew
    · exact exclusive.locked other waits key held
    rw [free other isNew] at held
    cases held

/-- A new task comes with a lock that is free. -/
theorem accept_held {new : Task} {key : Key} (free : key ∉ locked) (held : holds new = some key) :
    Exclusive holds (key :: locked) (tasks ++ [new]) where
  apart := by
    refine pairwise_append.mpr ⟨exclusive.apart, pairwise_singleton _ _, ?_⟩
    intro waiting waits other otherMem otherKey waitingHeld newHeld
    obtain rfl := mem_singleton.mp otherMem
    cases held.symm.trans newHeld
    exact free (exclusive.locked waiting waits key waitingHeld)
  locked := by
    intro other otherMem otherKey otherHeld
    rcases mem_append.mp otherMem with waits | isNew
    · exact mem_cons_of_mem _ (exclusive.locked other waits otherKey otherHeld)
    obtain rfl := mem_singleton.mp isNew
    cases held.symm.trans otherHeld
    exact mem_cons_self

/-- New tasks come with locks that are free. -/
theorem grant {nextLocked : List Key} (kept : locked ⊆ nextLocked)
    (fresh : ∀ new ∈ spawned, ∀ key, holds new = some key → key ∉ locked ∧ key ∈ nextLocked)
    (apart : spawned.Pairwise fun first second => ∀ key, holds first = some key → holds second ≠
      some key) :
    Exclusive holds nextLocked (tasks ++ spawned) where
  apart := by
    refine pairwise_append.mpr ⟨exclusive.apart, apart, ?_⟩
    intro waiting waits new isNew key waitingHeld newHeld
    exact (fresh new isNew key newHeld).1 (exclusive.locked waiting waits key waitingHeld)
  locked := by
    intro other otherMem key held
    rcases mem_append.mp otherMem with waits | isNew
    · exact kept (exclusive.locked other waits key held)
    · exact (fresh other isNew key held).2

end

end Exclusive

/-- What a step does to the locks, by the tasks that it leaves. -/
inductive LockMove [DecidableEq Key] (holds : Task → Option Key) (task : Task)
    (locked : List Key) : List Task → List Key → Prop where
  | free {spawned : List Task} (free : ∀ new ∈ spawned, holds new = none) :
      LockMove holds task locked spawned locked
  | keep {new : Task} (same : holds new = holds task) : LockMove holds task locked [new] locked
  | acquire {new : Task} {key : Key} (free : key ∉ locked) (held : holds new = some key) :
      LockMove holds task locked [new] (key :: locked)
  | release {spawned : List Task} {key : Key} (held : holds task = some key)
      (free : ∀ new ∈ spawned, holds new = none) :
      LockMove holds task locked spawned (locked.erase key)

theorem LockMove.exclusive [DecidableEq Key] {nextLocked : List Key}
    (move : LockMove holds task locked spawned nextLocked)
    (exclusive : Exclusive holds locked (before ++ task :: after)) :
    Exclusive holds nextLocked (before ++ spawned ++ after) := by
  cases move with
  | free free => exact exclusive.resume_free free
  | keep same => exact exclusive.resume_held same
  | acquire free held => exact exclusive.acquire free held
  | release held free => exact exclusive.release_free held free

end Locks

/-! Invariants under locks: a task only has to leave alone what others hold. -/

section LockedInvariants

variable {Key : Type w} [DecidableEq Key] {loop : EventLoop Shared Task Input}

/-- A step keeps the invariant, moves the locks, and keeps the facts about tasks that hold none of
what it works on. -/
structure KeepsLocked (Invariant : Shared → Prop) (Fact : Shared → Task → Prop)
    (holds : Task → Option Key) (locked : Shared → List Key) (shared : Shared) (task : Task)
    (next : Shared) (spawned : List Task) : Prop where
  invariant : Invariant next
  move : LockMove holds task (locked shared) spawned (locked next)
  stable : ∀ waiting,
    (∀ key, holds waiting = some key → key ∈ locked shared ∧ holds task ≠ some key) →
      Fact shared waiting → Fact next waiting
  fresh : ∀ new ∈ spawned, Fact next new

theorem invariant_of_locked_steps {Invariant : Shared → Prop} {Fact : Shared → Task → Prop}
    {holds : Task → Option Key} {locked : Shared → List Key} {Guard : Shared → Task → Prop}
    (resume : ∀ {shared task}, Invariant shared → Fact shared task → Guard shared task →
      KeepsLocked Invariant Fact holds locked shared task (loop.resume shared task).1
        (loop.resume shared task).2)
    (accept : ∀ {shared input next spawned}, loop.Accepts shared input next spawned →
      Invariant shared → Keeps Invariant Fact shared next spawned ∧ locked next = locked shared ∧
        ∀ new ∈ spawned, holds new = none)
    {start : Shared} (initially : Invariant start) {labels : List (Label Task Input)}
    {finish : State Shared Task}
    (steps : Steps (Guarded (Step loop) (OnResume Guard)) ⟨start, []⟩ labels finish) :
    Invariant finish.shared ∧ ∀ task ∈ finish.tasks, Fact finish.shared task := by
  suffices run : Exclusive holds (locked finish.shared) finish.tasks ∧ Invariant finish.shared ∧
      ∀ task ∈ finish.tasks, Fact finish.shared task from run.2
  refine steps.preserves
    (fun state => Exclusive holds (locked state.shared) state.tasks ∧ Invariant state.shared ∧
      ∀ task ∈ state.tasks, Fact state.shared task) ?_
    ⟨⟨.nil, forall_mem_nil _⟩, initially, forall_mem_nil _⟩
  rintro state label next ⟨transition, guarded⟩ ⟨exclusive, invariant, facts⟩
  cases transition with
  | resume before task after =>
    have kept := resume invariant (facts task (mem_pending.mpr (.inl rfl))) guarded
    refine ⟨kept.move.exclusive exclusive, kept.invariant, fun other pending => ?_⟩
    rcases mem_resumed.mp pending with waits | isNew
    · refine kept.stable other (fun key held => ⟨?_, ?_⟩) (facts other (mem_pending.mpr (.inr waits)))
      · exact exclusive.locked other (mem_pending.mpr (.inr waits)) key held
      · exact fun heldByTask => exclusive.ne_of_waits heldByTask waits held
    · exact kept.fresh other isNew
  | accept accepted =>
    obtain ⟨kept, sameLocks, free⟩ := accept accepted invariant
    refine ⟨?_, kept.invariant, fun other pending => ?_⟩
    · rw [sameLocks]
      exact exclusive.accept free
    · rcases mem_append.mp pending with waits | isNew
      · exact kept.stable other (facts other waits)
      · exact kept.fresh other isNew

/-- An input keeps the invariant and the facts, and its tasks come with locks that are free. -/
structure AcceptsLocked (Invariant : Shared → Prop) (Fact : Shared → Task → Prop)
    (holds : Task → Option Key) (locked : Shared → List Key) (shared next : Shared)
    (spawned : List Task) : Prop where
  invariant : Invariant next
  stable : ∀ waiting, (∀ key, holds waiting = some key → key ∈ locked shared) →
    Fact shared waiting → Fact next waiting
  fresh : ∀ new ∈ spawned, Fact next new
  kept : locked shared ⊆ locked next
  granted : ∀ new ∈ spawned, ∀ key, holds new = some key → key ∉ locked shared ∧ key ∈ locked next
  apart : spawned.Pairwise fun first second =>
    ∀ key, holds first = some key → holds second ≠ some key

/-- The same as `lawful_iff_guarded`, for facts that are stable against those who hold other keys. -/
theorem lawful_iff_guarded_of_locked {Invariant : Shared → Prop} {Fact : Shared → Task → Prop}
    {holds : Task → Option Key} {locked : Shared → List Key} {Law : Shared → Prop}
    {Guard : Shared → Task → Prop}
    (resume : ∀ {shared task}, Invariant shared → Fact shared task →
      KeepsLocked Invariant Fact holds locked shared task (loop.resume shared task).1
        (loop.resume shared task).2)
    (accept : ∀ {shared input next spawned}, loop.Accepts shared input next spawned →
      Invariant shared → AcceptsLocked Invariant Fact holds locked shared next spawned)
    (exact : ∀ {shared task}, Invariant shared → Fact shared task → Law shared →
      (Law (loop.resume shared task).1 ↔ Guard shared task))
    (stays : ∀ {shared input next spawned}, loop.Accepts shared input next spawned →
      Invariant shared → Law shared → Law next)
    {start : Shared} (initially : Invariant start) (lawful : Law start)
    {labels : List (Label Task Input)} {finish : State Shared Task} :
    Steps (Lawful (Step loop) fun state => Law state.shared) ⟨start, []⟩ labels finish ↔
      Steps (Guarded (Step loop) (OnResume Guard)) ⟨start, []⟩ labels finish := by
  refine Steps.lawful_iff_guarded
    (fun state => Exclusive holds (locked state.shared) state.tasks ∧ Invariant state.shared ∧
      ∀ task ∈ state.tasks, Fact state.shared task)
    ?_ ?_ ⟨⟨.nil, forall_mem_nil _⟩, initially, forall_mem_nil _⟩ lawful
  · rintro state label next transition ⟨exclusive, invariant, facts⟩
    cases transition with
    | resume before task after =>
      have kept := resume invariant (facts task (mem_pending.mpr (.inl rfl)))
      refine ⟨kept.move.exclusive exclusive, kept.invariant, fun other pending => ?_⟩
      rcases mem_resumed.mp pending with waits | isNew
      · have waiting : other ∈ before ++ task :: after := mem_pending.mpr (.inr waits)
        refine kept.stable other (fun key held => ⟨exclusive.locked other waiting key held, ?_⟩)
          (facts other waiting)
        exact fun heldByTask => exclusive.ne_of_waits heldByTask waits held
      · exact kept.fresh other isNew
    | accept accepted =>
      have kept := accept accepted invariant
      refine ⟨exclusive.grant kept.kept kept.granted kept.apart, kept.invariant,
        fun other pending => ?_⟩
      rcases mem_append.mp pending with waits | isNew
      · exact kept.stable other (exclusive.locked other waits) (facts other waits)
      · exact kept.fresh other isNew
  · rintro state label next transition ⟨-, invariant, facts⟩ law
    cases transition with
    | resume before task after =>
      exact exact invariant (facts task (mem_pending.mpr (.inl rfl))) law
    | accept accepted => exact iff_of_true (stays accepted invariant law) trivial

end LockedInvariants

/-! Duties: what the shared state owes must be met, or a pending task covers it. -/

section Duties

variable {Duty : Type w} (Owes Met : Shared → Duty → Prop) (Covers : Task → Duty → Prop)

def Covered (shared : Shared) (tasks : List Task) : Prop :=
  ∀ duty, Owes shared duty → Met shared duty ∨ ∃ task ∈ tasks, Covers task duty

variable {Owes Met Covers} {shared next : Shared} {before after spawned : List Task} {task : Task}

/-- When nothing is pending, every duty is met. -/
theorem Covered.met (covered : Covered Owes Met Covers shared []) {duty : Duty}
    (owed : Owes shared duty) : Met shared duty := by
  rcases covered duty owed with met | ⟨task, pending, -⟩
  · exact met
  · cases pending

/-- A step keeps duties covered if each later duty is met, or covered, or goes back to an earlier one:
one that stays met, that waiting tasks still cover, and that the task passes on or meets. -/
theorem Covered.resume (covered : Covered Owes Met Covers shared (before ++ task :: after))
    (step : ∀ duty, Owes next duty →
      (Met next duty ∨ ∃ pending ∈ before ++ spawned ++ after, Covers pending duty) ∨
        ∃ earlier, Owes shared earlier ∧ (Met shared earlier → Met next duty) ∧
          (∀ waiting ∈ before ++ after, Covers waiting earlier → Covers waiting duty) ∧
          (Covers task earlier → Met next duty ∨ ∃ new ∈ spawned, Covers new duty)) :
    Covered Owes Met Covers next (before ++ spawned ++ after) := by
  intro duty owed
  rcases step duty owed with settled | ⟨earlier, owedBefore, staysMet, waits, passesOn⟩
  · exact settled
  rcases covered earlier owedBefore with met | ⟨pending, pendingMem, covers⟩
  · exact .inl (staysMet met)
  rcases mem_pending.mp pendingMem with rfl | waiting
  · apply (passesOn covers).imp_right
    rintro ⟨new, newMem, newCovers⟩
    exact ⟨new, mem_resumed.mpr (.inr newMem), newCovers⟩
  · exact .inr ⟨pending, mem_resumed.mpr (.inl waiting), waits pending waiting covers⟩

/-- The same for an input, which adds tasks and runs none. -/
theorem Covered.accept {tasks : List Task} (covered : Covered Owes Met Covers shared tasks)
    (step : ∀ duty, Owes next duty →
      (Met next duty ∨ ∃ pending ∈ tasks ++ spawned, Covers pending duty) ∨
        ∃ earlier, Owes shared earlier ∧ (Met shared earlier → Met next duty) ∧
          ∀ waiting ∈ tasks, Covers waiting earlier → Covers waiting duty) :
    Covered Owes Met Covers next (tasks ++ spawned) := by
  intro duty owed
  rcases step duty owed with settled | ⟨earlier, owedBefore, staysMet, waits⟩
  · exact settled
  rcases covered earlier owedBefore with met | ⟨pending, pendingMem, covers⟩
  · exact .inl (staysMet met)
  · exact .inr ⟨pending, mem_append_left _ pendingMem, waits pending pendingMem covers⟩

end Duties

end EventLoop

end Library
