import Bongtalk.Common.DomainError
import Bongtalk.Library.EventLoop
import Bongtalk.Prisma.Schema

/-!
# Refresh tokens and passwords

A session is a family of refresh tokens: each rotation revokes the token it is given and adds the
next one. The calls that rotate and revoke tokens and that write passwords run statement by
statement, with other calls between any two of them.
-/

namespace Bongtalk.Auth

open Library Prisma List

/-- A refresh token. Its row is found by the hash of the token, which stands for its id as well. -/
structure RefreshTokenId where
  value : Nat
deriving DecidableEq, Repr

structure FamilyId where
  value : Nat
deriving DecidableEq, Repr

structure RefreshToken where
  id : RefreshTokenId
  userId : UserId
  familyId : FamilyId
  parentId : Option RefreshTokenId := none
  expiresAt : DateTime
  revokedAt : Option DateTime := none
  replacedAt : Option DateTime := none
deriving DecidableEq, Repr

structure ResetTokenId where
  value : Nat
deriving DecidableEq, Repr

structure PasswordResetToken where
  id : ResetTokenId
  userId : UserId
  expiresAt : DateTime
  usedAt : Option DateTime := none
deriving DecidableEq, Repr

/-- A hash of the library: no two of them have the same salt. -/
structure PasswordHash where
  salt : Nat
  password : String
deriving DecidableEq, Repr

def PasswordHash.verify (hash : PasswordHash) (password : String) : Bool :=
  hash.password == password

structure Account where
  passwordHash : PasswordHash
  totpEnabled : Bool := false
  failedLoginAttempts : Nat := 0
  lockedUntil : Option DateTime := none
  isDeactivated : Bool := false
deriving DecidableEq, Repr

/-- What a call of `rotate` ends with. -/
inductive RotateAnswer where
  | rotated (next : RefreshTokenId)
  | reused
  | expired
  | unknown
deriving DecidableEq, Repr

/-- A write of `changePassword`: the resets of the user that had committed when it read the old
hash, and those that had when it wrote the new one. -/
structure PasswordChange where
  userId : UserId
  resetsRead : Nat
  resetsWritten : Nat
deriving DecidableEq, Repr

structure SessionState where
  now : DateTime
  tokens : Table RefreshToken RefreshToken.id := .empty
  accounts : UserId → Option Account
  resetTokens : Table PasswordResetToken PasswordResetToken.id := .empty
  /-- The salts the hash library has drawn. -/
  salts : Nat
  /-- The answers of `rotate`, in order. No code reads this or what follows. -/
  answers : List (RefreshTokenId × RotateAnswer) := []
  /-- The families that a revocation has covered. -/
  covered : List FamilyId := []
  resets : UserId → Nat := fun _ => 0
  changes : List PasswordChange := []

structure ChangePasswordArgs where
  userId : UserId
  currentPassword : String
  newPassword : String
  /-- Whether the TOTP check accepts the code of the request. -/
  totpAccepted : Bool := false
deriving DecidableEq, Repr

/-- A call, named by its next statement, with what it has read. -/
inductive SessionTask where
  | findToken (raw newRaw : RefreshTokenId)
  /-- The reuse branch of `rotate`. -/
  | burnFamily (raw : RefreshTokenId) (familyId : FamilyId)
  | rotate (record : RefreshToken) (newRaw : RefreshTokenId)
  | revokeRaw (raw : RefreshTokenId)
  | findSession (userId : UserId) (sessionId : RefreshTokenId)
  | revokeFamily (familyId : FamilyId)
  | revokeAllExceptFamily (userId : UserId) (exceptFamilyId : Option FamilyId)
  | findResetToken (token : ResetTokenId) (newPassword : String)
  | resetPassword (row : PasswordResetToken) (newPassword : String)
  | familyIdForRaw (args : ChangePasswordArgs) (raw : RefreshTokenId)
  | findAccount (args : ChangePasswordArgs) (currentFamilyId : Option FamilyId)
  | assertTotp (args : ChangePasswordArgs) (currentFamilyId : Option FamilyId) (account : Account)
      (resetsRead : Nat)
  | updatePassword (args : ChangePasswordArgs) (currentFamilyId : Option FamilyId)
      (account : Account) (resetsRead : Nat)
deriving DecidableEq, Repr

open SessionTask

namespace SessionState

variable (state : SessionState)

/-- `updateMany` of `revokedAt`, over the tokens that are not revoked. -/
def revokeWhere (condition : RefreshToken → Bool) : SessionState :=
  { state with
    tokens := state.tokens.rewrite
      (fun row =>
        if row.revokedAt = none ∧ condition row = true then
          { row with revokedAt := some state.now }
        else row)
      fun row => by split <;> rfl }

/-- Revoke a family as a whole. -/
def revokeFamily (familyId : FamilyId) : SessionState :=
  { state.revokeWhere fun row => row.familyId == familyId with
    covered := familyId :: state.covered }

/-- A logout revokes the one token, and with it the session when the token was not revoked yet. -/
def revokeRaw (raw : RefreshTokenId) : SessionState :=
  { state.revokeWhere fun row => row.id == raw with
    covered :=
      ((state.tokens.findMany fun row => row.id == raw && row.revokedAt == none).map
        (·.familyId)) ++ state.covered }

def revokeAllExceptFamily (userId : UserId) (exceptFamilyId : Option FamilyId) : SessionState :=
  let isOther := fun row : RefreshToken =>
    row.userId == userId && some row.familyId != exceptFamilyId
  { state.revokeWhere isOther with
    covered := ((state.tokens.findMany isOther).map (·.familyId)) ++ state.covered }

def answer (raw : RefreshTokenId) (answer : RotateAnswer) : SessionState :=
  { state with answers := state.answers ++ [(raw, answer)] }

/-- The token that a rotation adds. -/
def nextToken (refreshTtl : Nat) (record : RefreshToken) (newRaw : RefreshTokenId) : RefreshToken :=
  { id := newRaw
    userId := record.userId
    familyId := record.familyId
    parentId := some record.id
    expiresAt := state.now + refreshTtl }

/-- The transaction of a rotation: revoke the token that was read, and add the next one. -/
def rotate (refreshTtl : Nat) (record : RefreshToken) (newRaw : RefreshTokenId) : SessionState :=
  let replaced := state.tokens.rewrite
    (fun row =>
      if row.id = record.id then
        { row with revokedAt := some state.now, replacedAt := some state.now }
      else row)
    fun row => by split <;> rfl
  match replaced.insert? (state.nextToken refreshTtl record newRaw) with
  | none => state
  | some tokens => { state with tokens := tokens }.answer record.id (.rotated newRaw)

/-- Store a new hash with a salt of its own. -/
def setPassword (userId : UserId) (newPassword : String) (change : Account → Account) :
    SessionState :=
  { state with
    accounts := Function.update state.accounts userId
      ((state.accounts userId).map fun account =>
        change { account with passwordHash := ⟨state.salts, newPassword⟩ })
    salts := state.salts + 1 }

/-- The transaction of a reset: use the token up, store the hash and lift a lock. -/
def resetPassword (row : PasswordResetToken) (newPassword : String) : Option SessionState :=
  if (state.resetTokens.findUnique row.id).any (·.usedAt == none) &&
      (state.accounts row.userId).isSome then
    some
      { state.setPassword row.userId newPassword fun account =>
          { account with failedLoginAttempts := 0, lockedUntil := none } with
        resetTokens := state.resetTokens.rewrite
          (fun stored =>
            if stored.id = row.id then { stored with usedAt := some state.now } else stored)
          fun stored => by split <;> rfl
        resets := Function.update state.resets row.userId (state.resets row.userId + 1) }
  else none

/-- The write of `changePassword`. -/
def updatePassword (userId : UserId) (newPassword : String) (resetsRead : Nat) : SessionState :=
  { state.setPassword userId newPassword id with
    changes := ⟨userId, resetsRead, state.resets userId⟩ :: state.changes }

end SessionState

section Resume

variable (refreshTtl : Nat) (state : SessionState)

/-- One statement of a call. -/
def SessionTask.resume : SessionTask → SessionState × List SessionTask
  | .findToken raw newRaw =>
    match state.tokens.findUnique raw with
    | none => (state.answer raw .unknown, [])
    | some record =>
      if record.expiresAt ≤ state.now then (state.answer raw .expired, [])
      else if record.revokedAt.isSome then (state, [.burnFamily raw record.familyId])
      else (state, [.rotate record newRaw])
  | .burnFamily raw familyId => ((state.revokeFamily familyId).answer raw .reused, [])
  | .rotate record newRaw => (state.rotate refreshTtl record newRaw, [])
  | .revokeRaw raw => (state.revokeRaw raw, [])
  | .findSession userId sessionId =>
    match (state.tokens.findUnique sessionId).filter (·.userId == userId) with
    | none => (state, [])
    | some record => (state, [.revokeFamily record.familyId])
  | .revokeFamily familyId => (state.revokeFamily familyId, [])
  | .revokeAllExceptFamily userId exceptFamilyId =>
    (state.revokeAllExceptFamily userId exceptFamilyId, [])
  | .findResetToken token newPassword =>
    match state.resetTokens.findUnique token with
    | none => (state, [])
    | some row =>
      if row.usedAt.isSome || decide (row.expiresAt ≤ state.now) then (state, [])
      else (state, [.resetPassword row newPassword])
  | .resetPassword row newPassword =>
    match state.resetPassword row newPassword with
    | none => (state, [])
    | some written => (written, [.revokeAllExceptFamily row.userId none])
  | .familyIdForRaw args raw =>
    let active := (state.tokens.findUnique raw).filter fun row =>
      row.revokedAt == none && decide (state.now < row.expiresAt)
    (state, [.findAccount args (active.map (·.familyId))])
  | .findAccount args currentFamilyId =>
    match state.accounts args.userId with
    | none => (state, [])
    | some account =>
      if account.passwordHash.verify args.currentPassword then
        (state, [.assertTotp args currentFamilyId account (state.resets args.userId)])
      else (state, [])
  | .assertTotp args currentFamilyId account resetsRead =>
    if (state.accounts args.userId).any (·.totpEnabled) && !args.totpAccepted then (state, [])
    else (state, [.updatePassword args currentFamilyId account resetsRead])
  | .updatePassword args currentFamilyId account resetsRead =>
    (state.updatePassword args.userId args.newPassword resetsRead,
      -- Without a family that it could spare, a change revokes nothing.
      if account.totpEnabled && currentFamilyId.isSome then
        [.revokeAllExceptFamily args.userId currentFamilyId]
      else [])

/-- What a statement of a call can write. -/
inductive Writes : SessionTask → SessionState → Prop where
  | nothing {task : SessionTask} : Writes task state
  | unknown {raw newRaw : RefreshTokenId} (missing : state.tokens.findUnique raw = none) :
      Writes (.findToken raw newRaw) (state.answer raw .unknown)
  | expired {raw newRaw : RefreshTokenId} {record : RefreshToken}
      (found : state.tokens.findUnique raw = some record)
      (expired : record.expiresAt ≤ state.now) :
      Writes (.findToken raw newRaw) (state.answer raw .expired)
  | burnFamily {raw : RefreshTokenId} {familyId : FamilyId} :
      Writes (.burnFamily raw familyId) ((state.revokeFamily familyId).answer raw .reused)
  | rotate {record : RefreshToken} {newRaw : RefreshTokenId} :
      Writes (.rotate record newRaw) (state.rotate refreshTtl record newRaw)
  | revokeRaw {raw : RefreshTokenId} : Writes (.revokeRaw raw) (state.revokeRaw raw)
  | revokeFamily {familyId : FamilyId} :
      Writes (.revokeFamily familyId) (state.revokeFamily familyId)
  | revokeAllExceptFamily {userId : UserId} {exceptFamilyId : Option FamilyId} :
      Writes (.revokeAllExceptFamily userId exceptFamilyId)
        (state.revokeAllExceptFamily userId exceptFamilyId)
  | resetPassword {row : PasswordResetToken} {newPassword : String} {written : SessionState}
      (applied : state.resetPassword row newPassword = some written) :
      Writes (.resetPassword row newPassword) written
  | updatePassword {args : ChangePasswordArgs} {currentFamilyId : Option FamilyId}
      {account : Account} {resetsRead : Nat} :
      Writes (.updatePassword args currentFamilyId account resetsRead)
        (state.updatePassword args.userId args.newPassword resetsRead)

theorem writes_resume (task : SessionTask) :
    Writes refreshTtl state task (task.resume refreshTtl state).1 := by
  cases task with
  | findToken raw newRaw =>
    rw [resume]
    split
    next missing => exact .unknown missing
    next record found =>
      split
      next expired => exact .expired found expired
      · split
        · exact .nothing
        · exact .nothing
  | burnFamily raw familyId => exact .burnFamily
  | rotate record newRaw => exact .rotate
  | revokeRaw raw => exact .revokeRaw
  | findSession userId sessionId | assertTotp args currentFamilyId account resetsRead =>
    rw [resume]
    split
    · exact .nothing
    · exact .nothing
  | revokeFamily familyId => exact .revokeFamily
  | revokeAllExceptFamily userId exceptFamilyId => exact .revokeAllExceptFamily
  | findResetToken token newPassword | findAccount args currentFamilyId =>
    rw [resume]
    split
    · exact .nothing
    split
    · exact .nothing
    · exact .nothing
  | resetPassword row newPassword =>
    rw [resume]
    split
    · exact .nothing
    next written applied => exact .resetPassword applied
  | familyIdForRaw args raw => exact .nothing
  | updatePassword args currentFamilyId account resetsRead => exact .updatePassword

/-- What a statement of a call can leave for later. -/
inductive Continues : SessionTask → SessionTask → Prop where
  | burnFamily {raw newRaw : RefreshTokenId} {record : RefreshToken}
      (found : state.tokens.findUnique raw = some record) :
      Continues (.findToken raw newRaw) (.burnFamily raw record.familyId)
  | rotate {raw newRaw : RefreshTokenId} {record : RefreshToken}
      (found : state.tokens.findUnique raw = some record) :
      Continues (.findToken raw newRaw) (.rotate record newRaw)
  | revokeFamily {userId : UserId} {sessionId : RefreshTokenId} {record : RefreshToken}
      (found : state.tokens.findUnique sessionId = some record) :
      Continues (.findSession userId sessionId) (.revokeFamily record.familyId)
  | resetPassword {token : ResetTokenId} {newPassword : String} {row : PasswordResetToken} :
      Continues (.findResetToken token newPassword) (.resetPassword row newPassword)
  | afterReset {row : PasswordResetToken} {newPassword : String} :
      Continues (.resetPassword row newPassword) (.revokeAllExceptFamily row.userId none)
  | findAccount {args : ChangePasswordArgs} {raw : RefreshTokenId}
      {currentFamilyId : Option FamilyId} :
      Continues (.familyIdForRaw args raw) (.findAccount args currentFamilyId)
  | assertTotp {args : ChangePasswordArgs} {currentFamilyId : Option FamilyId} {account : Account}
      (found : state.accounts args.userId = some account) :
      Continues (.findAccount args currentFamilyId)
        (.assertTotp args currentFamilyId account (state.resets args.userId))
  | updatePassword {args : ChangePasswordArgs} {currentFamilyId : Option FamilyId}
      {account : Account} {resetsRead : Nat} :
      Continues (.assertTotp args currentFamilyId account resetsRead)
        (.updatePassword args currentFamilyId account resetsRead)
  | afterChange {args : ChangePasswordArgs} {currentFamilyId : Option FamilyId}
      {account : Account} {resetsRead : Nat} :
      Continues (.updatePassword args currentFamilyId account resetsRead)
        (.revokeAllExceptFamily args.userId currentFamilyId)

theorem continues_of_spawned {task new : SessionTask}
    (spawned : new ∈ (task.resume refreshTtl state).2) : Continues state task new := by
  cases task with
  | findToken raw newRaw =>
    rw [resume] at spawned
    split at spawned
    · cases spawned
    next record found =>
      split at spawned
      · cases spawned
      split at spawned
      · obtain rfl := mem_singleton.mp spawned
        exact .burnFamily found
      · obtain rfl := mem_singleton.mp spawned
        exact .rotate found
  | findSession userId sessionId =>
    rw [resume] at spawned
    split at spawned
    · cases spawned
    next record found =>
      obtain rfl := mem_singleton.mp spawned
      exact .revokeFamily (Option.filter_eq_some_iff.mp found).1
  | findResetToken token newPassword =>
    rw [resume] at spawned
    split at spawned
    · cases spawned
    split at spawned
    · cases spawned
    obtain rfl := mem_singleton.mp spawned
    exact .resetPassword
  | resetPassword row newPassword =>
    rw [resume] at spawned
    split at spawned
    · cases spawned
    obtain rfl := mem_singleton.mp spawned
    exact .afterReset
  | familyIdForRaw args raw =>
    obtain rfl := mem_singleton.mp spawned
    exact .findAccount
  | findAccount args currentFamilyId =>
    rw [resume] at spawned
    split at spawned
    · cases spawned
    next account found =>
      split at spawned
      · obtain rfl := mem_singleton.mp spawned
        exact .assertTotp found
      · cases spawned
  | assertTotp args currentFamilyId account resetsRead =>
    rw [resume] at spawned
    split at spawned
    · cases spawned
    obtain rfl := mem_singleton.mp spawned
    exact .updatePassword
  | updatePassword args currentFamilyId account resetsRead =>
    rw [resume] at spawned
    split at spawned
    · obtain rfl := mem_singleton.mp spawned
      exact .afterChange
    · cases spawned
  | _ => cases spawned

end Resume

inductive SessionInput where
  | rotate (raw newRaw : RefreshTokenId)
  | logout (raw : RefreshTokenId)
  | revokeSession (userId : UserId) (sessionId : RefreshTokenId)
  | revokeAllExceptFamily (userId : UserId) (exceptFamilyId : Option FamilyId)
  | reset (token : ResetTokenId) (newPassword : String)
  | changePassword (args : ChangePasswordArgs) (raw : Option RefreshTokenId)
  /-- A new session, with the token and the family it draws. -/
  | issue (userId : UserId) (raw : RefreshTokenId) (familyId : FamilyId)
  | requestReset (row : PasswordResetToken)
  | tick (elapsed : Nat)
deriving DecidableEq, Repr

def SessionInput.starts : SessionInput → List SessionTask
  | .rotate raw newRaw => [.findToken raw newRaw]
  | .logout raw => [.revokeRaw raw]
  | .revokeSession userId sessionId => [.findSession userId sessionId]
  | .revokeAllExceptFamily userId exceptFamilyId => [.revokeAllExceptFamily userId exceptFamilyId]
  | .reset token newPassword => [.findResetToken token newPassword]
  | .changePassword args (some raw) => [.familyIdForRaw args raw]
  | .changePassword args none => [.findAccount args none]
  | .issue _ _ _ | .requestReset _ | .tick _ => []

/-- The statements that begin a call. -/
def SessionTask.begins : SessionTask → Bool
  | .findToken _ _ | .revokeRaw _ | .findSession _ _ | .revokeAllExceptFamily _ _
  | .findResetToken _ _ | .familyIdForRaw _ _ | .findAccount _ _ => true
  | _ => false

theorem begins_of_starts {input : SessionInput} {task : SessionTask}
    (starts : task ∈ input.starts) : task.begins = true := by
  cases input with
  | changePassword args raw =>
    cases raw with
    | some raw | none =>
      obtain rfl := mem_singleton.mp starts
      rfl
  | issue userId raw familyId | requestReset row | tick elapsed => cases starts
  | _ =>
    obtain rfl := mem_singleton.mp starts
    rfl

/-- A new session draws a family that no token has had. -/
inductive SessionInput.After (refreshTtl : Nat) (state : SessionState) :
    SessionInput → SessionState → Prop where
  | issue {userId : UserId} {raw : RefreshTokenId} {familyId : FamilyId}
      {tokens : Table RefreshToken RefreshToken.id}
      (fresh : ∀ row ∈ state.tokens, row.familyId ≠ familyId)
      (inserted : state.tokens.insert?
        { id := raw, userId := userId, familyId := familyId
          expiresAt := state.now + refreshTtl } = some tokens) :
      After refreshTtl state (.issue userId raw familyId) { state with tokens := tokens }
  | requestReset {row : PasswordResetToken}
      {resetTokens : Table PasswordResetToken PasswordResetToken.id}
      (inserted : state.resetTokens.insert? row = some resetTokens) :
      After refreshTtl state (.requestReset row) { state with resetTokens := resetTokens }
  | tick {elapsed : Nat} :
      After refreshTtl state (.tick elapsed) { state with now := state.now + elapsed }
  | call {input : SessionInput} (starts : input.starts ≠ []) : After refreshTtl state input state

def sessionLoop (refreshTtl : Nat) : EventLoop SessionState SessionTask SessionInput where
  resume := SessionTask.resume refreshTtl
  Accepts state input next spawned := input.After refreshTtl state next ∧ spawned = input.starts

/-- A run goes on with a script of calls. -/
theorem exists_steps_calls {refreshTtl : Nat} {labels : List (EventLoop.Label SessionTask SessionInput)}
    {start state finish : EventLoop.State SessionState SessionTask}
    (steps : Steps (EventLoop.Step (sessionLoop refreshTtl)) start labels state)
    (moves : List (EventLoop.Move SessionInput))
    (played : (sessionLoop refreshTtl).play (fun state input => (state, input.starts))
      (fun
        | _, .accept input => !input.starts.isEmpty
        | _, .resume _ _ _ => true) state moves = some finish) :
    ∃ more, Steps (EventLoop.Step (sessionLoop refreshTtl)) start more finish := by
  refine (sessionLoop refreshTtl).exists_steps_played _ _ state (fun _ input starts => ?_) steps moves
    played
  exact ⟨.call fun none => by simp [none] at starts, rfl⟩

end Bongtalk.Auth
