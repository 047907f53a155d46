import Mathlib.Tactic.TypeStar

/-!
# Programs over a store

A program reads and writes a store, and may fail on the way. What it has written before it fails
stays written, unless it runs in a transaction.
-/

namespace Library

universe u

/-- The answer of a program, and the store that it leaves. -/
def Program (σ ε α : Type u) : Type u :=
  σ → Except ε α × σ

namespace Program

variable {σ ε α β : Type u}

instance : Monad (Program σ ε) where
  pure value := fun store => (.ok value, store)
  bind program next := fun store =>
    match program store with
    | (.ok value, middle) => next value middle
    | (.error failure, middle) => (.error failure, middle)

def read (view : σ → α) : Program σ ε α := fun store =>
  (.ok (view store), store)

def write (change : σ → σ) : Program σ ε PUnit := fun store =>
  (.ok ⟨⟩, change store)

def fail (failure : ε) : Program σ ε α := fun store =>
  (.error failure, store)

/-- An answer that does not depend on the store. -/
def lift (answer : Except ε α) : Program σ ε α := fun store =>
  (answer, store)

/-- A program whose writes are undone when it fails. -/
def transaction (program : Program σ ε α) : Program σ ε α := fun store =>
  match program store with
  | (.ok value, finish) => (.ok value, finish)
  | (.error failure, _) => (.error failure, store)

/-- A program whose failures are thrown on as others. -/
def rethrow (change : ε → ε) (program : Program σ ε α) : Program σ ε α := fun store =>
  match program store with
  | (.ok value, finish) => (.ok value, finish)
  | (.error failure, finish) => (.error (change failure), finish)

def Returns (program : Program σ ε α) (start : σ) (value : α) (finish : σ) : Prop :=
  program start = (.ok value, finish)

def Fails (program : Program σ ε α) (start : σ) (failure : ε) (finish : σ) : Prop :=
  program start = (.error failure, finish)

section Rules

variable {start finish : σ} {value : α} {failure : ε}

@[simp]
theorem returns_pure_iff {given : α} :
    Returns (pure given : Program σ ε α) start value finish ↔ given = value ∧ start = finish := by
  simp [Returns, pure]

@[simp]
theorem not_fails_pure {given : α} : ¬Fails (pure given : Program σ ε α) start failure finish := by
  simp [Fails, pure]

/-- A sequence returns when both programs do. -/
theorem returns_bind_iff {program : Program σ ε β} {next : β → Program σ ε α} :
    Returns (program >>= next) start value finish ↔
      ∃ first middle, Returns program start first middle ∧
        Returns (next first) middle value finish := by
  cases outcome : program start with
  | mk answer middle =>
    cases answer with
    | ok first => simp [Returns, bind, outcome, and_assoc]
    | error thrown => simp [Returns, bind, outcome]

/-- A sequence fails with its first program, or with the second one behind it. -/
theorem fails_bind_iff {program : Program σ ε β} {next : β → Program σ ε α} :
    Fails (program >>= next) start failure finish ↔
      Fails program start failure finish ∨
        ∃ first middle, Returns program start first middle ∧
          Fails (next first) middle failure finish := by
  cases outcome : program start with
  | mk answer middle =>
    cases answer with
    | ok first => simp [Fails, Returns, bind, outcome, and_assoc]
    | error thrown => simp [Fails, Returns, bind, outcome]

@[simp]
theorem returns_read_iff {view : σ → α} :
    Returns (read view : Program σ ε α) start value finish ↔
      view start = value ∧ start = finish := by
  simp [Returns, read]

@[simp]
theorem not_fails_read {view : σ → α} :
    ¬Fails (read view : Program σ ε α) start failure finish := by
  simp [Fails, read]

@[simp]
theorem returns_write_iff {change : σ → σ} {value : PUnit} :
    Returns (write change : Program σ ε PUnit) start value finish ↔ change start = finish := by
  simp [Returns, write]

@[simp]
theorem not_fails_write {change : σ → σ} :
    ¬Fails (write change : Program σ ε PUnit) start failure finish := by
  simp [Fails, write]

@[simp]
theorem not_returns_fail {thrown : ε} :
    ¬Returns (fail thrown : Program σ ε α) start value finish := by
  simp [Returns, fail]

@[simp]
theorem fails_fail_iff {thrown : ε} :
    Fails (fail thrown : Program σ ε α) start failure finish ↔
      thrown = failure ∧ start = finish := by
  simp [Fails, fail]

@[simp]
theorem returns_lift_iff {answer : Except ε α} :
    Returns (lift answer : Program σ ε α) start value finish ↔
      answer = .ok value ∧ start = finish := by
  simp [Returns, lift]

@[simp]
theorem fails_lift_iff {answer : Except ε α} :
    Fails (lift answer : Program σ ε α) start failure finish ↔
      answer = .error failure ∧ start = finish := by
  simp [Fails, lift]

variable {program : Program σ ε α}

/-- A transaction that returns is what runs in it. -/
@[simp]
theorem returns_transaction_iff :
    Returns (transaction program) start value finish ↔ Returns program start value finish := by
  cases outcome : program start with
  | mk answer middle => cases answer <;> simp [Returns, transaction, outcome]

/-- A transaction that fails leaves the store as it was. -/
@[simp]
theorem fails_transaction_iff :
    Fails (transaction program) start failure finish ↔
      start = finish ∧ ∃ middle, Fails program start failure middle := by
  cases outcome : program start with
  | mk answer middle =>
    cases answer with
    | ok value => simp [Fails, transaction, outcome]
    | error thrown => simp [Fails, transaction, outcome, and_comm]

@[simp]
theorem returns_rethrow_iff {change : ε → ε} :
    Returns (rethrow change program) start value finish ↔ Returns program start value finish := by
  cases outcome : program start with
  | mk answer middle => cases answer <;> simp [Returns, rethrow, outcome]

@[simp]
theorem fails_rethrow_iff {change : ε → ε} :
    Fails (rethrow change program) start failure finish ↔
      ∃ thrown, change thrown = failure ∧ Fails program start thrown finish := by
  cases outcome : program start with
  | mk answer middle =>
    cases answer with
    | ok value => simp [Fails, rethrow, outcome]
    | error thrown =>
      simp only [Fails, rethrow, outcome, Prod.mk.injEq, Except.error.injEq]
      constructor
      · rintro ⟨changed, left⟩
        exact ⟨thrown, changed, rfl, left⟩
      · rintro ⟨_, changed, rfl, left⟩
        exact ⟨changed, left⟩

end Rules

section Simulation

variable {τ γ δ : Type u} (view : σ → τ) (agree : α → σ → γ → Prop)

/-- A program answers as a call does, up to a relation; a failure leaves what is viewed of the
store as it was. -/
def Simulates (program : Program σ ε α) (start : σ) : Except ε γ → Prop
  | .ok result => ∃ value finish, Returns program start value finish ∧ agree value finish result
  | .error failure => ∃ finish, Fails program start failure finish ∧ view finish = view start

/-- A program that answers with the value of a check. -/
abbrev Checks (program : Program σ ε α) (start : σ) (check : Except ε α) : Prop :=
  Simulates view (fun value finish result => value = result ∧ finish = start) program start check

variable {view agree} {start : σ} {answer : Except ε γ}

theorem checks_pure {value : α} : Checks view (pure value : Program σ ε α) start (.ok value) :=
  ⟨value, start, returns_pure_iff.mpr ⟨rfl, rfl⟩, rfl, rfl⟩

theorem checks_lift {check : Except ε α} :
    Checks view (lift check : Program σ ε α) start check := by
  cases check with
  | error failure => exact ⟨start, fails_lift_iff.mpr ⟨rfl, rfl⟩, rfl⟩
  | ok value => exact ⟨value, start, returns_lift_iff.mpr ⟨rfl, rfl⟩, rfl, rfl⟩

theorem simulates_fail {failure : ε} :
    Simulates view agree (fail failure) start (.error failure) :=
  ⟨start, fails_fail_iff.mpr ⟨rfl, rfl⟩, rfl⟩

/-- Only what the program does from the store matters. -/
theorem Simulates.congr {program other : Program σ ε α} (same : program start = other start) :
    Simulates view agree program start answer ↔ Simulates view agree other start answer := by
  cases answer with
  | error failure => simp only [Simulates, Fails, same]
  | ok result => simp only [Simulates, Returns, same]

/-- A check that fails ends the program, and one that passes goes on with the same store. -/
theorem Checks.bind {program : Program σ ε δ} {next : δ → Program σ ε α} {check : Except ε δ}
    {rest : δ → Except ε γ} (first : Checks view program start check)
    (second : ∀ value, check = .ok value → Simulates view agree (next value) start (rest value)) :
    Simulates view agree (program >>= next) start (check >>= rest) := by
  cases checked : check with
  | error failure =>
    rw [checked] at first
    obtain ⟨finish, failed, same⟩ := first
    exact ⟨finish, fails_bind_iff.mpr (.inl failed), same⟩
  | ok passed =>
    rw [checked] at first
    obtain ⟨value, finish, returned, rfl, rfl⟩ := first
    have goesOn : (program >>= next) finish = next value finish := by
      rw [Returns] at returned
      simp only [Bind.bind, returned]
    exact (Simulates.congr goesOn).mpr (second value checked)

/-- What a program reads first decides how it goes on. -/
theorem Simulates.read {look : σ → δ} {next : δ → Program σ ε α}
    (rest : Simulates view agree (next (look start)) start answer) :
    Simulates view agree (Program.read look >>= next) start answer :=
  (Simulates.congr rfl).mpr rest

theorem Simulates.transaction {program : Program σ ε α}
    (inside : Simulates view agree program start answer) :
    Simulates view agree (transaction program) start answer := by
  cases answer with
  | error failure =>
    obtain ⟨middle, failed, -⟩ := inside
    exact ⟨start, fails_transaction_iff.mpr ⟨rfl, middle, failed⟩, rfl⟩
  | ok result =>
    obtain ⟨value, finish, returned, agrees⟩ := inside
    exact ⟨value, finish, returns_transaction_iff.mpr returned, agrees⟩

theorem Simulates.rethrow {change : ε → ε} {program : Program σ ε α}
    (inside : Simulates view agree program start answer) :
    Simulates view agree (rethrow change program) start (answer.mapError change) := by
  cases answer with
  | error failure =>
    obtain ⟨finish, failed, same⟩ := inside
    exact ⟨finish, fails_rethrow_iff.mpr ⟨failure, rfl, failed⟩, same⟩
  | ok result =>
    obtain ⟨value, finish, returned, agrees⟩ := inside
    exact ⟨value, finish, returns_rethrow_iff.mpr returned, agrees⟩

end Simulation

end Program

end Library
