import Bongtalk.Common.DomainError
import Bongtalk.Library.EventLoop
import Bongtalk.Prisma.Schema

/-!
# Two-factor authentication

The calls that set up, verify and disable 2FA, the check of a code before a credential change, and
the anonymisation of an account. They run statement by statement. A transaction shows its writes
when it commits, and until then it holds the row of its user.
-/

namespace Bongtalk.Auth

open Library Common Prisma Function

abbrev TotpCode := String

structure TotpSecret where
  value : String
deriving DecidableEq, Repr

structure EncryptionKey where
  value : Nat
deriving DecidableEq, Repr

/-- A ciphertext. Only the key that it was made with gives the secret back. -/
structure EncryptedSecret where
  key : EncryptionKey
  secret : TotpSecret
deriving DecidableEq, Repr

def EncryptedSecret.decrypt (encrypted : EncryptedSecret) (key : Option EncryptionKey) :
    Option TotpSecret :=
  if key = some encrypted.key then some encrypted.secret else none

/-- A value of the cache, up to its expiry. -/
structure Expiring (α : Type) where
  value : α
  expiresAt : DateTime
deriving DecidableEq, Repr

def Expiring.get {α : Type} (now : DateTime) (entry : Expiring α) : Option α :=
  if now < entry.expiresAt then some entry.value else none

structure BackupCodeId where
  value : Nat
deriving DecidableEq, Repr

structure BackupCode where
  id : BackupCodeId
  userId : UserId
  codeHash : String
deriving DecidableEq, Repr

structure TwoFactorUser where
  totpEnabled : Bool := false
  totpSecretEnc : Option EncryptedSecret := none
deriving DecidableEq, Repr

/-- The secret of a user who has 2FA enabled. -/
def TwoFactorUser.enabledSecret (user : TwoFactorUser) : Option EncryptedSecret :=
  if user.totpEnabled then user.totpSecretEnc else none

def totpBackupCodeCount : Nat := 10

/-- In milliseconds, as the clock is. -/
def totpSetupTtl : Nat := 10 * 60 * 1000

def totpReplayTtl : Nat := 90 * 1000

def totpStep : Nat := 30 * 1000

/-- A call of `verify`, with the backup codes that it draws. -/
structure VerifyCall where
  userId : UserId
  code : TotpCode
  hashed : List (BackupCodeId × String)
  counted : hashed.length = totpBackupCodeCount
deriving DecidableEq, Repr

/-- The rows that the call creates. -/
def VerifyCall.backupCodes (call : VerifyCall) : List BackupCode :=
  call.hashed.map fun (id, codeHash) => { id := id, userId := call.userId, codeHash := codeHash }

inductive TotpCall where
  | setup (userId : UserId) (secret : TotpSecret)
  | verify (call : VerifyCall)
  | disable (userId : UserId) (totpCode : TotpCode)
  | assertCredentialChangeTotp (userId : UserId) (totpCode : Option TotpCode)
deriving DecidableEq, Repr

/-- What goes on once a code is accepted. -/
inductive AfterCheck where
  | verify (call : VerifyCall)
  | disable
  | credentialChange
deriving DecidableEq, Repr

/-- A call of `assertTotpCode`. -/
structure CodeCheck where
  userId : UserId
  code : TotpCode
  secret : TotpSecret
  next : AfterCheck
deriving DecidableEq, Repr

/-- A code that was accepted, and when it was checked. -/
structure Acceptance where
  userId : UserId
  secret : TotpSecret
  code : TotpCode
  time : DateTime
deriving DecidableEq, Repr

/-- Whether a check is about the same code. -/
def Acceptance.isOf (acceptance : Acceptance) (check : CodeCheck) : Bool :=
  acceptance.userId == check.userId && acceptance.secret == check.secret &&
    acceptance.code == check.code

structure TwoFactorState where
  now : DateTime
  /-- Without a key the encryption is not available. -/
  encryptionKey : Option EncryptionKey
  users : UserId → Option TwoFactorUser
  /-- The rows that a transaction has updated and not committed yet. -/
  lockedUsers : List UserId := []
  backupCodes : List BackupCode := []
  setups : UserId → Option (Expiring TotpSecret) := fun _ => none
  lastCodes : UserId → Option (Expiring TotpCode) := fun _ => none
  /-- The errors that calls have ended with. -/
  refused : List (UserId × DomainError) := []
  /-- The codes that were accepted, the last one first. No code reads this or what follows. -/
  accepted : List Acceptance := []
  /-- The call that has enabled 2FA for a user. -/
  enabledBy : UserId → Option VerifyCall := fun _ => none

inductive TwoFactorTask where
  | findUser (call : TotpCall)
  | delSetup (userId : UserId) (secret : TotpSecret)
  | setSetup (userId : UserId) (secret : TotpSecret)
  | getSetup (call : VerifyCall)
  | getLastCode (check : CodeCheck)
  /-- With the code that was read, and how often the code of the call had been accepted then. -/
  | checkCode (check : CodeCheck) (last : Option TotpCode) (seen : Nat)
  | setLastCode (check : CodeCheck) (checkedAt : DateTime) (seen : Nat)
  | encrypt (call : VerifyCall) (secret : TotpSecret)
  | enableUser (call : VerifyCall) (totpSecretEnc : EncryptedSecret)
  | deleteCodes (call : VerifyCall) (totpSecretEnc : EncryptedSecret)
  | createCodes (call : VerifyCall) (totpSecretEnc : EncryptedSecret) (deleted : List BackupCode)
  | forgetSetup (userId : UserId)
  | disableUser (userId : UserId)
  | deleteAllCodes (userId : UserId)
  /-- The transaction of `anonymizeOne`, which deletes the backup codes before it updates the user. -/
  | anonymizeCodes (userId : UserId)
  | anonymizeUser (userId : UserId) (deleted : List BackupCode)
deriving DecidableEq, Repr

open TwoFactorTask

namespace TwoFactorState

variable (state : TwoFactorState)

def refuse (userId : UserId) (code : ErrorCode) (message : String) : TwoFactorState :=
  { state with refused := state.refused ++ [(userId, ⟨code, message⟩)] }

def encryptionUnavailable (userId : UserId) : TwoFactorState :=
  state.refuse userId .encryptionUnavailable
    "2FA is temporarily unavailable (server encryption key not configured)"

/-- The backup codes of a user that are committed. -/
def codesOf (userId : UserId) : List BackupCode :=
  state.backupCodes.filter fun code => code.userId == userId

/-- How often the code of a check was accepted. -/
def acceptances (check : CodeCheck) : Nat :=
  state.accepted.countP fun acceptance => acceptance.isOf check

/-- Remember the code as the last one of the user. -/
def acceptCode (check : CodeCheck) (checkedAt : DateTime) : TwoFactorState :=
  { state with
    lastCodes := update state.lastCodes check.userId (some ⟨check.code, state.now + totpReplayTtl⟩)
    accepted := ⟨check.userId, check.secret, check.code, checkedAt⟩ :: state.accepted }

/-- The commit of `verify`. -/
def commitVerify (call : VerifyCall) (totpSecretEnc : EncryptedSecret)
    (deleted : List BackupCode) : TwoFactorState :=
  { state with
    users := update state.users call.userId (some ⟨true, some totpSecretEnc⟩)
    lockedUsers := state.lockedUsers.erase call.userId
    backupCodes :=
      (state.backupCodes.filter fun code => decide (code ∉ deleted)) ++ call.backupCodes
    enabledBy := update state.enabledBy call.userId (some call) }

/-- A commit that leaves a user without 2FA and deletes some backup codes. -/
def commitDisabled (userId : UserId) (deleted : List BackupCode) : TwoFactorState :=
  { state with
    users := update state.users userId (some ⟨false, none⟩)
    backupCodes := state.backupCodes.filter fun code => decide (code ∉ deleted) }

end TwoFactorState

/-- The check of the library, with the codes before and after the current one. -/
def authenticatorCheck (totp : TotpSecret → Nat → TotpCode) (now : DateTime) (code : TotpCode)
    (secret : TotpSecret) : Bool :=
  [now / totpStep - 1, now / totpStep, now / totpStep + 1].any fun counter =>
    totp secret counter == code

section Resume

variable (totp : TotpSecret → Nat → TotpCode) (state : TwoFactorState)

/-- The first statements of a call: find the user, and see whether the call may go on. -/
def TotpCall.start : TotpCall → TwoFactorState × List TwoFactorTask
  | .setup userId secret =>
    if state.encryptionKey.isNone then (state.encryptionUnavailable userId, [])
    else if (state.users userId).any (·.totpEnabled) then
      (state.refuse userId .totpAlreadyEnabled "2FA is already enabled", [])
    else (state, [.delSetup userId secret])
  | .verify call =>
    if state.encryptionKey.isNone then (state.encryptionUnavailable call.userId, [])
    else if (state.users call.userId).any (·.totpEnabled) then
      (state.refuse call.userId .totpAlreadyEnabled "2FA is already enabled", [])
    else (state, [.getSetup call])
  | .disable userId totpCode =>
    if state.encryptionKey.isNone then (state.encryptionUnavailable userId, [])
    else
      match (state.users userId).bind (·.enabledSecret) with
      | none => (state.refuse userId .totpNotEnabled "2FA is not enabled", [])
      | some encrypted =>
        match encrypted.decrypt state.encryptionKey with
        | none => (state.refuse userId .internal "failed to verify 2FA", [])
        | some secret => (state, [.getLastCode ⟨userId, totpCode, secret, .disable⟩])
  | .assertCredentialChangeTotp userId totpCode =>
    match (state.users userId).bind (·.enabledSecret) with
    | none => (state, [])
    | some encrypted =>
      if state.encryptionKey.isNone then (state.encryptionUnavailable userId, [])
      else
        match totpCode.filter (· ≠ "") with
        | none =>
          (state.refuse userId .totpCodeRequired
            "a valid TOTP code is required for this change while 2FA is enabled", [])
        | some code =>
          match encrypted.decrypt state.encryptionKey with
          | none => (state.refuse userId .internal "failed to verify 2FA", [])
          | some secret =>
            (state, [.getLastCode ⟨userId, code, secret, .credentialChange⟩])

/-- One statement of a call. A statement on a user row that another transaction holds is tried again
later. The last statement of a transaction commits it. -/
def TwoFactorTask.resume : TwoFactorTask → TwoFactorState × List TwoFactorTask
  | .findUser call => call.start state
  | .delSetup userId secret =>
    ({ state with setups := update state.setups userId none }, [.setSetup userId secret])
  | .setSetup userId secret =>
    ({ state with
        setups := update state.setups userId (some ⟨secret, state.now + totpSetupTtl⟩) }, [])
  | .getSetup call =>
    match (state.setups call.userId).bind (·.get state.now) with
    | none => (state.refuse call.userId .totpInvalid "invalid or expired TOTP setup", [])
    | some secret => (state, [.getLastCode ⟨call.userId, call.code, secret, .verify call⟩])
  | .getLastCode check =>
    let last := (state.lastCodes check.userId).bind (·.get state.now)
    (state, [.checkCode check last (state.acceptances check)])
  | .checkCode check last seen =>
    if last = some check.code then
      (state.refuse check.userId .totpInvalid "invalid TOTP code", [])
    else if !authenticatorCheck totp state.now check.code check.secret then
      (state.refuse check.userId .totpInvalid "invalid TOTP code", [])
    else (state, [.setLastCode check state.now seen])
  | .setLastCode check checkedAt _ =>
    (state.acceptCode check checkedAt,
      match check.next with
      | .verify call => [.encrypt call check.secret]
      | .disable => [.disableUser check.userId]
      | .credentialChange => [])
  | .encrypt call secret =>
    match state.encryptionKey with
    | none =>
      (state.refuse call.userId .encryptionUnavailable
        "encryption key is not configured (APP_ENCRYPTION_KEY)", [])
    | some key => (state, [.enableUser call ⟨key, secret⟩])
  | .enableUser call totpSecretEnc =>
    if call.userId ∈ state.lockedUsers then (state, [.enableUser call totpSecretEnc])
    else if (state.users call.userId).any (!·.totpEnabled) then
      ({ state with lockedUsers := call.userId :: state.lockedUsers },
        [.deleteCodes call totpSecretEnc])
    else (state.refuse call.userId .totpAlreadyEnabled "2FA is already enabled", [])
  | .deleteCodes call totpSecretEnc =>
    (state, [.createCodes call totpSecretEnc (state.codesOf call.userId)])
  | .createCodes call totpSecretEnc deleted =>
    (state.commitVerify call totpSecretEnc deleted, [.forgetSetup call.userId])
  | .forgetSetup userId => ({ state with setups := update state.setups userId none }, [])
  | .disableUser userId =>
    if userId ∈ state.lockedUsers then (state, [.disableUser userId])
    else if (state.users userId).isSome then
      ({ state with lockedUsers := userId :: state.lockedUsers }, [.deleteAllCodes userId])
    else (state, [])
  | .deleteAllCodes userId =>
    ({ state.commitDisabled userId (state.codesOf userId) with
        lockedUsers := state.lockedUsers.erase userId }, [])
  | .anonymizeCodes userId => (state, [.anonymizeUser userId (state.codesOf userId)])
  | .anonymizeUser userId deleted =>
    if userId ∈ state.lockedUsers then (state, [.anonymizeUser userId deleted])
    else if (state.users userId).isSome then (state.commitDisabled userId deleted, [])
    else (state, [])

end Resume

/-! What a statement can do. -/

/-- A statement that relies on nothing its call has read, and holds no row. -/
def TwoFactorTask.plain : TwoFactorTask → Bool
  | .checkCode _ _ _ | .setLastCode _ _ _ | .deleteCodes _ _ | .createCodes _ _ _
  | .deleteAllCodes _ | .anonymizeUser _ _ => false
  | _ => true

section Outcome

variable (totp : TotpSecret → Nat → TotpCode) (state : TwoFactorState)

inductive Outcome : TwoFactorTask → TwoFactorState × List TwoFactorTask → Prop where
  /-- Users, codes and locks stay, and the call goes on with a plain statement or ends. -/
  | quiet {task : TwoFactorTask} {setups : UserId → Option (Expiring TotpSecret)}
      {refused : List (UserId × DomainError)} {spawned : List TwoFactorTask}
      (plain : ∀ new ∈ spawned, new.plain = true) :
      Outcome task ({ state with setups := setups, refused := refused }, spawned)
  /-- Another transaction holds the row. -/
  | waits {task : TwoFactorTask} : Outcome task (state, [task])
  | lookedUp {check : CodeCheck} :
      Outcome (.getLastCode check)
        (state, [.checkCode check ((state.lastCodes check.userId).bind (·.get state.now))
          (state.acceptances check)])
  | checked {check : CodeCheck} {last : Option TotpCode} {seen : Nat}
      (other : last ≠ some check.code)
      (valid : authenticatorCheck totp state.now check.code check.secret = true) :
      Outcome (.checkCode check last seen) (state, [.setLastCode check state.now seen])
  | recorded {check : CodeCheck} {checkedAt : DateTime} {seen : Nat}
      {spawned : List TwoFactorTask} (plain : ∀ new ∈ spawned, new.plain = true) :
      Outcome (.setLastCode check checkedAt seen) (state.acceptCode check checkedAt, spawned)
  | enabling {call : VerifyCall} {totpSecretEnc : EncryptedSecret}
      (free : call.userId ∉ state.lockedUsers)
      (disabled : (state.users call.userId).any (!·.totpEnabled) = true) :
      Outcome (.enableUser call totpSecretEnc)
        ({ state with lockedUsers := call.userId :: state.lockedUsers },
          [.deleteCodes call totpSecretEnc])
  | cleared {call : VerifyCall} {totpSecretEnc : EncryptedSecret} :
      Outcome (.deleteCodes call totpSecretEnc)
        (state, [.createCodes call totpSecretEnc (state.codesOf call.userId)])
  | enabled {call : VerifyCall} {totpSecretEnc : EncryptedSecret} {deleted : List BackupCode} :
      Outcome (.createCodes call totpSecretEnc deleted)
        (state.commitVerify call totpSecretEnc deleted, [.forgetSetup call.userId])
  | disabling {userId : UserId} (free : userId ∉ state.lockedUsers) :
      Outcome (.disableUser userId)
        ({ state with lockedUsers := userId :: state.lockedUsers }, [.deleteAllCodes userId])
  | disabled {userId : UserId} :
      Outcome (.deleteAllCodes userId)
        ({ state.commitDisabled userId (state.codesOf userId) with
            lockedUsers := state.lockedUsers.erase userId }, [])
  | anonymizing {userId : UserId} :
      Outcome (.anonymizeCodes userId) (state, [.anonymizeUser userId (state.codesOf userId)])
  | anonymized {userId : UserId} {deleted : List BackupCode} (free : userId ∉ state.lockedUsers) :
      Outcome (.anonymizeUser userId deleted) (state.commitDisabled userId deleted, [])

variable {setups : UserId → Option (Expiring TotpSecret)}

/-- Nothing is left to do. -/
theorem Outcome.ends {task : TwoFactorTask} {refused : List (UserId × DomainError)} :
    Outcome totp state task ({ state with setups := setups, refused := refused }, []) :=
  .quiet (List.forall_mem_nil _)

theorem Outcome.continues {task new : TwoFactorTask} (plain : new.plain = true) :
    Outcome totp state task ({ state with setups := setups }, [new]) :=
  .quiet (List.forall_mem_singleton.mpr plain)

/-- A call begins by reading. -/
theorem outcome_start (call : TotpCall) :
    Outcome totp state (.findUser call) (call.start state) := by
  cases call with
  | setup userId secret | verify call =>
    rw [TotpCall.start]
    split
    · exact .ends totp state
    split
    · exact .ends totp state
    · exact .continues totp state rfl
  | disable userId totpCode =>
    rw [TotpCall.start]
    split
    · exact .ends totp state
    split
    · exact .ends totp state
    split
    · exact .ends totp state
    · exact .continues totp state rfl
  | assertCredentialChangeTotp userId totpCode =>
    rw [TotpCall.start]
    split
    · exact .ends totp state
    split
    · exact .ends totp state
    split
    · exact .ends totp state
    split
    · exact .ends totp state
    · exact .continues totp state rfl

theorem outcome_resume (task : TwoFactorTask) :
    Outcome totp state task (task.resume totp state) := by
  cases task with
  | findUser call => exact outcome_start totp state call
  | delSetup userId secret => exact .continues totp state rfl
  | setSetup userId secret | forgetSetup userId => exact .ends totp state
  | getSetup call | encrypt call secret =>
    rw [resume]
    split
    · exact .ends totp state
    · exact .continues totp state rfl
  | getLastCode check => exact .lookedUp
  | checkCode check last seen =>
    rw [resume]
    split
    · exact .ends totp state
    next other =>
      split
      · exact .ends totp state
      next valid => exact .checked other (by simpa using valid)
  | setLastCode check checkedAt seen =>
    refine .recorded ?_
    split
    · exact List.forall_mem_singleton.mpr rfl
    · exact List.forall_mem_singleton.mpr rfl
    · exact List.forall_mem_nil _
  | enableUser call totpSecretEnc =>
    rw [resume]
    split
    · exact .waits
    next free =>
      split
      next disabled => exact .enabling free disabled
      · exact .ends totp state
  | deleteCodes call totpSecretEnc => exact .cleared
  | createCodes call totpSecretEnc deleted => exact .enabled
  | disableUser userId =>
    rw [resume]
    split
    · exact .waits
    next free =>
      split
      · exact .disabling free
      · exact .ends totp state
  | deleteAllCodes userId => exact .disabled
  | anonymizeCodes userId => exact .anonymizing
  | anonymizeUser userId deleted =>
    rw [resume]
    split
    · exact .waits
    next free =>
      split
      · exact .anonymized free
      · exact .ends totp state

end Outcome

inductive TwoFactorInput where
  | request (call : TotpCall)
  | anonymizeOne (userId : UserId)
  | configure (key : Option EncryptionKey)
  | tick (elapsed : Nat)
deriving DecidableEq, Repr

def TwoFactorInput.starts : TwoFactorInput → List TwoFactorTask
  | .request call => [.findUser call]
  | .anonymizeOne userId => [.anonymizeCodes userId]
  | .configure _ | .tick _ => []

def TwoFactorInput.after (state : TwoFactorState) : TwoFactorInput → TwoFactorState
  | .request _ | .anonymizeOne _ => state
  | .configure key => { state with encryptionKey := key }
  | .tick elapsed => { state with now := state.now + elapsed }

/-- `totp` is the code of a secret in a time step, as the library computes it. -/
def twoFactorLoop (totp : TotpSecret → Nat → TotpCode) :
    EventLoop TwoFactorState TwoFactorTask TwoFactorInput where
  resume := TwoFactorTask.resume totp
  Accepts state input next spawned := next = input.after state ∧ spawned = input.starts

end Bongtalk.Auth
