import Bongtalk.Auth.Sessions

/-!
# Account lockout

Each failed login counts up, and from the fifth on the account is locked for a while. The counter is
read and then written back one higher, with the lock that follows from it, whatever has been written
in between.
-/

namespace Bongtalk.Auth

open Library EventLoop Common Prisma List

def lockAfterFails : Nat := 5

/-- In milliseconds, as the clock is. -/
def lockForMs : Nat := 15 * 60 * 1000

/-- A write of the counter and the lock after a failed login. -/
structure LockWrite where
  time : DateTime
  before : Option DateTime
  after : Option DateTime
deriving DecidableEq, Repr

/-- The account that is logged in to. -/
structure LoginState where
  now : DateTime
  account : Account
  /-- The errors that attempts have ended with. -/
  refused : List DomainError := []
  /-- How often the counter and the lock were written. No code reads this or what follows. -/
  writes : Nat := 0
  /-- The times of the failed verifications that were counted since the last login or reset. -/
  failures : List DateTime := []
  lockWrites : List LockWrite := []
deriving DecidableEq, Repr

inductive LoginTask where
  | findByEmail (password : String)
  | checkLock (user : Account) (password : String)
  | verify (user : Account) (password : String)
  | updateLoginSuccess
  | registerFailedLogin (failedAt : DateTime)
  /-- Between the read and the write of `registerFailedLogin`. -/
  | countFailure (failedAt : DateTime) (failedLoginAttempts : Nat) (seen : Nat)
  | updateFailedLogin (failedAt : DateTime) (attempts : Nat) (lockedUntil : Option DateTime)
      (seen : Nat)
deriving DecidableEq, Repr

namespace LoginState

variable (state : LoginState)

def refuse (code : ErrorCode) (message : String) : LoginState :=
  { state with refused := state.refused ++ [⟨code, message⟩] }

/-- What a login and a reset write alike. -/
def clearFailures : LoginState :=
  { state with
    account := { state.account with failedLoginAttempts := 0, lockedUntil := none }
    writes := state.writes + 1
    failures := [] }

def setPassword (passwordHash : PasswordHash) : LoginState :=
  { state with account := { state.account with passwordHash := passwordHash } }

/-- The write of `registerFailedLogin`. -/
def updateFailedLogin (failedAt : DateTime) (attempts : Nat) (lockedUntil : Option DateTime) :
    LoginState :=
  { state with
    account := { state.account with failedLoginAttempts := attempts, lockedUntil := lockedUntil }
    writes := state.writes + 1
    failures := failedAt :: state.failures
    lockWrites := ⟨state.now, state.account.lockedUntil, lockedUntil⟩ :: state.lockWrites }

end LoginState

/-- One statement of `verifyCredentials`. -/
def LoginTask.resume (state : LoginState) : LoginTask → LoginState × List LoginTask
  | .findByEmail password => (state, [.checkLock state.account password])
  | .checkLock user password =>
    if user.lockedUntil.any fun lockedUntil => decide (state.now < lockedUntil) then
      (state.refuse .authAccountLocked "account temporarily locked due to repeated failed logins",
        [])
    else (state, [.verify user password])
  | .verify user password =>
    if !user.passwordHash.verify password then (state, [.registerFailedLogin state.now])
    else if user.isDeactivated then
      (state.refuse .accountDeactivated "account is deactivated", [])
    else (state, [.updateLoginSuccess])
  | .updateLoginSuccess => (state.clearFailures, [])
  | .registerFailedLogin failedAt =>
    (state, [.countFailure failedAt state.account.failedLoginAttempts state.writes])
  | .countFailure failedAt failedLoginAttempts seen =>
    let attempts := failedLoginAttempts + 1
    let lockedUntil := if lockAfterFails ≤ attempts then some (state.now + lockForMs) else none
    (state, [.updateFailedLogin failedAt attempts lockedUntil seen])
  | .updateFailedLogin failedAt attempts lockedUntil _ =>
    ((state.updateFailedLogin failedAt attempts lockedUntil).refuse .authInvalidCredentials
      "invalid credentials", [])

inductive LoginInput where
  | login (password : String)
  /-- A reset of the password lifts a lock and starts the count anew. -/
  | reset (passwordHash : PasswordHash)
  | changePassword (passwordHash : PasswordHash)
  | setDeactivated (isDeactivated : Bool)
  | tick (elapsed : Nat)
deriving DecidableEq, Repr

def LoginInput.starts : LoginInput → List LoginTask
  | .login password => [.findByEmail password]
  | .reset _ | .changePassword _ | .setDeactivated _ | .tick _ => []

def LoginInput.after (state : LoginState) : LoginInput → LoginState
  | .login _ => state
  | .reset passwordHash => state.clearFailures.setPassword passwordHash
  | .changePassword passwordHash => state.setPassword passwordHash
  | .setDeactivated isDeactivated =>
    { state with account := { state.account with isDeactivated := isDeactivated } }
  | .tick elapsed => { state with now := state.now + elapsed }

def loginLoop : EventLoop LoginState LoginTask LoginInput where
  resume := LoginTask.resume
  Accepts state input next spawned := next = input.after state ∧ spawned = input.starts

/-- A new account. -/
def LoginState.initial (now : DateTime) (passwordHash : PasswordHash) : LoginState :=
  { now := now, account := { passwordHash := passwordHash } }

/-! The law, and what it rests on. -/

/-- Once enough verifications have failed, the account is locked for its time after each of them.
A failed attempt neither clears nor shortens a lock that is active. -/
structure LockoutHolds (state : LoginState) : Prop where
  locked : lockAfterFails ≤ state.failures.length → ∃ lockedUntil,
    state.account.lockedUntil = some lockedUntil ∧
      ∀ failedAt ∈ state.failures, failedAt + lockForMs ≤ lockedUntil
  kept : ∀ write ∈ state.lockWrites, ∀ lockedUntil, write.before = some lockedUntil →
    write.time < lockedUntil → ∃ later, write.after = some later ∧ lockedUntil ≤ later

/-- Nothing has written the counter or the lock since the call has read them. -/
def NotOvertaken (state : LoginState) : LoginTask → Prop
  | .updateFailedLogin _ _ _ seen => state.writes = seen
  | _ => True

structure LockSound (state : LoginState) : Prop where
  counted : state.failures.length ≤ state.account.failedLoginAttempts
  past : ∀ failedAt ∈ state.failures, failedAt ≤ state.now
  lock : ∀ lockedUntil, state.account.lockedUntil = some lockedUntil →
    lockedUntil ≤ state.now + lockForMs ∧ lockAfterFails ≤ state.account.failedLoginAttempts
  holds : LockoutHolds state

/-- A lock that was worked out at a time is newer than whatever is stored, unless another write has
come in between. -/
structure UpToDate (state : LoginState) (attempts : Nat) (time : DateTime) (seen : Nat) : Prop where
  grown : seen ≤ state.writes
  attempts : state.writes = seen → attempts = state.account.failedLoginAttempts + 1
  failures : state.writes = seen → ∀ failedAt ∈ state.failures, failedAt ≤ time
  lock : state.writes = seen → ∀ lockedUntil, state.account.lockedUntil = some lockedUntil →
    lockedUntil ≤ time + lockForMs

/-- What a failed attempt goes on with. -/
def FailureRead (state : LoginState) : LoginTask → Prop
  | .registerFailedLogin failedAt => failedAt ≤ state.now
  | .countFailure failedAt failedLoginAttempts seen => failedAt ≤ state.now ∧
      ∀ time, state.now ≤ time → UpToDate state (failedLoginAttempts + 1) time seen
  | .updateFailedLogin failedAt attempts lockedUntil seen => ∃ time ≤ state.now,
      failedAt ≤ time ∧ UpToDate state attempts time seen ∧
      lockedUntil = if lockAfterFails ≤ attempts then some (time + lockForMs) else none
  | _ => True

section Steps

variable {state next : LoginState} {task waiting : LoginTask}

/-- Time goes on, and the counter and the lock stay, or they have been written. -/
structure Later (state next : LoginState) : Prop where
  now : state.now ≤ next.now
  grown : state.writes ≤ next.writes
  same : next.writes = state.writes →
    next.account.failedLoginAttempts = state.account.failedLoginAttempts ∧
      next.account.lockedUntil = state.account.lockedUntil ∧ next.failures = state.failures

theorem UpToDate.later (later : Later state next) {attempts seen : Nat} {time : DateTime}
    (upToDate : UpToDate state attempts time seen) : UpToDate next attempts time seen := by
  have unwritten (sameWrites : next.writes = seen) : next.writes = state.writes := by
    have grown := later.grown
    have before := upToDate.grown
    omega
  refine ⟨upToDate.grown.trans later.grown, fun sameWrites => ?_, fun sameWrites => ?_,
    fun sameWrites => ?_⟩
  · rw [(later.same (unwritten sameWrites)).1]
    exact upToDate.attempts ((unwritten sameWrites).symm.trans sameWrites)
  · rw [(later.same (unwritten sameWrites)).2.2]
    exact upToDate.failures ((unwritten sameWrites).symm.trans sameWrites)
  · rw [(later.same (unwritten sameWrites)).2.1]
    exact upToDate.lock ((unwritten sameWrites).symm.trans sameWrites)

theorem FailureRead.later (later : Later state next) (read : FailureRead state waiting) :
    FailureRead next waiting := by
  cases waiting with
  | registerFailedLogin failedAt => exact read.trans later.now
  | countFailure failedAt failedLoginAttempts seen =>
    exact ⟨read.1.trans later.now, fun time notBefore =>
      (read.2 time (later.now.trans notBefore)).later later⟩
  | updateFailedLogin failedAt attempts lockedUntil seen =>
    obtain ⟨time, past, failed, upToDate, isLock⟩ := read
    exact ⟨time, past.trans later.now, failed, upToDate.later later, isLock⟩
  | _ => trivial

theorem LockSound.later (sound : LockSound state) (later : Later state next)
    (sameWrites : next.writes = state.writes) (sameLocks : next.lockWrites = state.lockWrites) :
    LockSound next := by
  obtain ⟨sameAttempts, sameLock, sameFailures⟩ := later.same sameWrites
  refine ⟨?_, ?_, ?_, ?_, ?_⟩
  · rw [sameAttempts, sameFailures]
    exact sound.counted
  · rw [sameFailures]
    exact fun failedAt counted => (sound.past failedAt counted).trans later.now
  · rw [sameAttempts, sameLock]
    intro lockedUntil isLocked
    obtain ⟨notLonger, enough⟩ := sound.lock lockedUntil isLocked
    exact ⟨notLonger.trans (Nat.add_le_add_right later.now _), enough⟩
  · rw [sameLock, sameFailures]
    exact sound.holds.locked
  · rw [sameLocks]
    exact sound.holds.kept

theorem LockSound.clearFailures (sound : LockSound state) : LockSound state.clearFailures where
  counted := le_refl _
  past := forall_mem_nil _
  lock := nofun
  holds := ⟨fun enough => absurd enough (Nat.not_succ_le_zero _), sound.holds.kept⟩

theorem later_clearFailures (state : LoginState) : Later state state.clearFailures where
  now := le_refl _
  grown := Nat.le_succ _
  same sameWrites := absurd sameWrites (Nat.succ_ne_self _)

theorem later_updateFailedLogin (state : LoginState) (failedAt : DateTime) (attempts : Nat)
    (lockedUntil : Option DateTime) :
    Later state (state.updateFailedLogin failedAt attempts lockedUntil) where
  now := le_refl _
  grown := Nat.le_succ _
  same sameWrites := absurd sameWrites (Nat.succ_ne_self _)

/-- A write that nothing has overtaken counts one more and locks for longer. -/
theorem LockSound.updateFailedLogin (sound : LockSound state) {failedAt : DateTime}
    {attempts seen : Nat} {lockedUntil : Option DateTime}
    (read : FailureRead state (.updateFailedLogin failedAt attempts lockedUntil seen))
    (current : state.writes = seen) :
    LockSound (state.updateFailedLogin failedAt attempts lockedUntil) := by
  obtain ⟨time, past, failed, upToDate, rfl⟩ := read
  have oneMore := upToDate.attempts current
  have counted := sound.counted
  refine ⟨?_, forall_mem_cons.mpr ⟨failed.trans past, sound.past⟩, ?_, ?_, ?_⟩
  · change state.failures.length + 1 ≤ attempts
    omega
  · intro lockedUntil isLock
    change (if lockAfterFails ≤ attempts then some (time + lockForMs) else none) = some lockedUntil
      at isLock
    split at isLock
    next enough =>
      cases isLock
      exact ⟨Nat.add_le_add_right past _, enough⟩
    · cases isLock
  · intro enough
    have enoughAttempts : lockAfterFails ≤ attempts := by
      change lockAfterFails ≤ state.failures.length + 1 at enough
      omega
    refine ⟨time + lockForMs, if_pos enoughAttempts, ?_⟩
    refine forall_mem_cons.mpr ⟨Nat.add_le_add_right failed _, fun other counted => ?_⟩
    exact Nat.add_le_add_right (upToDate.failures current other counted) _
  · refine forall_mem_cons.mpr ⟨fun lockedUntil isLocked _ => ?_, sound.holds.kept⟩
    have enough := (sound.lock lockedUntil isLocked).2
    exact ⟨time + lockForMs, if_pos (by omega), upToDate.lock current lockedUntil isLocked⟩

theorem lock_keeps_resume (sound : LockSound state) (read : FailureRead state task)
    (current : NotOvertaken state task) :
    Keeps LockSound FailureRead state (task.resume state).1 (task.resume state).2 := by
  have refused (code : ErrorCode) (message : String) :
      Keeps LockSound FailureRead state (state.refuse code message) [] := by
    have later : Later state (state.refuse code message) :=
      ⟨le_refl _, le_refl _, fun _ => ⟨rfl, rfl, rfl⟩⟩
    exact ⟨sound.later later rfl rfl, fun _ waits => waits.later later, forall_mem_nil _⟩
  cases task with
  | findByEmail password => exact .of_same sound (forall_mem_singleton.mpr trivial)
  | checkLock user password =>
    rw [LoginTask.resume]
    split
    · exact refused _ _
    · exact .of_same sound (forall_mem_singleton.mpr trivial)
  | verify user password =>
    rw [LoginTask.resume]
    split
    · exact .of_same sound (forall_mem_singleton.mpr (le_refl _))
    split
    · exact refused _ _
    · exact .of_same sound (forall_mem_singleton.mpr trivial)
  | updateLoginSuccess =>
    exact ⟨sound.clearFailures, fun _ waits => waits.later (later_clearFailures state),
      forall_mem_nil _⟩
  | registerFailedLogin failedAt =>
    refine .of_same sound (forall_mem_singleton.mpr ⟨read, fun time notBefore => ?_⟩)
    refine ⟨le_refl _, fun _ => rfl, fun _ other counted => ?_, fun _ lockedUntil isLocked => ?_⟩
    · exact (sound.past other counted).trans notBefore
    · exact (sound.lock lockedUntil isLocked).1.trans (Nat.add_le_add_right notBefore _)
  | countFailure failedAt failedLoginAttempts seen =>
    exact .of_same sound (forall_mem_singleton.mpr
      ⟨state.now, le_refl _, read.1, read.2 state.now (le_refl _), rfl⟩)
  | updateFailedLogin failedAt attempts lockedUntil seen =>
    have written := sound.updateFailedLogin read current
    have later := later_updateFailedLogin state failedAt attempts lockedUntil
    have after : Later (state.updateFailedLogin failedAt attempts lockedUntil)
        (((LoginTask.updateFailedLogin failedAt attempts lockedUntil seen).resume state).1) :=
      ⟨le_refl _, le_refl _, fun _ => ⟨rfl, rfl, rfl⟩⟩
    exact ⟨written.later after rfl rfl, fun _ waits => (waits.later later).later after,
      forall_mem_nil _⟩

theorem lock_keeps_accept {input : LoginInput} {spawned : List LoginTask}
    (accepted : loginLoop.Accepts state input next spawned) (sound : LockSound state) :
    Keeps LockSound FailureRead state next spawned := by
  obtain ⟨rfl, rfl⟩ := accepted
  cases input with
  | login password => exact .of_same sound (forall_mem_singleton.mpr trivial)
  | reset passwordHash =>
    have cleared := later_clearFailures state
    have later : Later state.clearFailures (state.clearFailures.setPassword passwordHash) :=
      ⟨le_refl _, le_refl _, fun _ => ⟨rfl, rfl, rfl⟩⟩
    exact ⟨sound.clearFailures.later later rfl rfl, fun _ waits => (waits.later cleared).later later,
      forall_mem_nil _⟩
  | changePassword passwordHash =>
    have later : Later state (state.setPassword passwordHash) :=
      ⟨le_refl _, le_refl _, fun _ => ⟨rfl, rfl, rfl⟩⟩
    exact ⟨sound.later later rfl rfl, fun _ waits => waits.later later, forall_mem_nil _⟩
  | setDeactivated isDeactivated =>
    have later : Later state
        { state with account := { state.account with isDeactivated := isDeactivated } } :=
      ⟨le_refl _, le_refl _, fun _ => ⟨rfl, rfl, rfl⟩⟩
    exact ⟨sound.later later rfl rfl, fun _ waits => waits.later later, forall_mem_nil _⟩
  | tick elapsed =>
    have later : Later state { state with now := state.now + elapsed } :=
      ⟨Nat.le_add_right _ _, le_refl _, fun _ => ⟨rfl, rfl, rfl⟩⟩
    exact ⟨sound.later later rfl rfl, fun _ waits => waits.later later, forall_mem_nil _⟩

theorem lockSound_initial (now : DateTime) (passwordHash : PasswordHash) :
    LockSound (.initial now passwordHash) where
  counted := le_refl _
  past := forall_mem_nil _
  lock := nofun
  holds := ⟨fun enough => absurd enough (Nat.not_succ_le_zero _), forall_mem_nil _⟩

/-- The lockout holds in every run of logins whose failures are written while the counter and the
lock are still what the call has read. -/
theorem lockout_holds {now : DateTime} {passwordHash : PasswordHash}
    {labels : List (Label LoginTask LoginInput)} {finish : State LoginState LoginTask}
    (steps : Steps (Guarded (Step loginLoop) (OnResume NotOvertaken))
      ⟨.initial now passwordHash, []⟩ labels finish) :
    LockoutHolds finish.shared := by
  have run : LockSound finish.shared ∧ ∀ task ∈ finish.tasks, FailureRead finish.shared task :=
    invariant_of_steps lock_keeps_resume lock_keeps_accept (lockSound_initial now passwordHash) steps
  exact run.1.holds

end Steps

/-- Any number of logins may begin at once. -/
theorem logins_begin (Guard : LoginState → LoginTask → Prop) (state : LoginState)
    (password : String) (count : Nat) : ∃ labels,
    Steps (Guarded (Step loginLoop) (OnResume Guard)) ⟨state, []⟩ labels
      ⟨state, List.replicate count (.findByEmail password)⟩ := by
  induction count with
  | zero => exact ⟨[], .refl⟩
  | succ count ih =>
    obtain ⟨labels, steps⟩ := ih
    refine ⟨labels ++ [.accept (.login password)], ?_⟩
    rw [replicate_succ']
    exact steps.step ⟨.accept ⟨rfl, rfl⟩, trivial⟩

def newAccount : LoginState :=
  .initial 0 ⟨0, "right"⟩

/-- Five failed logins, one after the other. -/
theorem five_failures_lock : ∃ labels finish,
    Steps (Guarded (Step loginLoop) (OnResume NotOvertaken)) ⟨newAccount, []⟩ labels finish ∧
      finish.shared.failures.length = 5 ∧
      finish.shared.account.lockedUntil = some (15 * 60 * 1000) ∧
      LockoutHolds finish.shared := by
  obtain ⟨_, begun⟩ := logins_begin NotOvertaken newAccount "wrong" 5
  obtain ⟨labels, steps⟩ := exists_guarded_runFirst 30 begun
    ⟨trivial, trivial, trivial, trivial, trivial, rfl, trivial, trivial, trivial, trivial, trivial,
      rfl, trivial, trivial, trivial, trivial, trivial, rfl, trivial, trivial, trivial, trivial,
      trivial, rfl, trivial, trivial, trivial, trivial, trivial, rfl, trivial⟩
  exact ⟨labels, _, steps, by rfl, by rfl, lockout_holds steps⟩

/-- Five failed logins, of which the last has read the counter before the others write it. Its own
write sets the counter back to one. -/
theorem five_failures_unlocked : ∃ labels finish,
    Steps (Step loginLoop) ⟨newAccount, []⟩ labels finish ∧
      finish.shared.failures.length = 5 ∧ finish.shared.account.lockedUntil = none ∧
      ¬LockoutHolds finish.shared := by
  obtain ⟨labels, steps⟩ := loginLoop.exists_steps_played
    (fun state input => (input.after state, input.starts)) (fun _ _ => true) ⟨newAccount, []⟩
    (fun _ _ _ => ⟨rfl, rfl⟩) .refl
    (List.replicate 5 (.accept (.login "wrong")) ++ [.run 4, .run 4, .run 4, .run 4] ++
      List.replicate 26 (.run 0)) rfl
  refine ⟨labels, _, steps, by rfl, by rfl, fun holds => ?_⟩
  obtain ⟨lockedUntil, isLocked, -⟩ := holds.locked (le_refl 5)
  cases isLocked

end Bongtalk.Auth
