import Bongtalk.Auth.TwoFactor

/-!
# Life cycle of an account

Deactivation, recovery within a window of thirty days, and the sweep that anonymises the accounts
whose window has passed. A sweep selects its accounts at once and then takes them one after the
other, and before it rewrites a row it deletes the files of the user, one at a time.
-/

namespace Bongtalk.Me

open Library EventLoop Auth Common Prisma

/-- The personal columns of a user row. -/
structure PersonalData where
  handle : Option String := none
  displayName : Option String := none
  fullName : Option String := none
  pronouns : Option String := none
  title : Option String := none
  bio : Option String := none
  timezone : Option String := none
  customStatus : Option String := none
  customStatusEmoji : Option String := none
  customStatusExpiresAt : Option DateTime := none
  avatarKey : Option String := none
  bannerKey : Option String := none
  handleChangedAt : Option DateTime := none
deriving DecidableEq, Repr

/-- The row of a user. -/
structure Account where
  id : UserId
  email : String
  username : String
  passwordHash : String
  personal : PersonalData := {}
  totpSecretEnc : Option EncryptedSecret := none
  totpEnabled : Bool := false
  isDeactivated : Bool := false
  deactivatedAt : Option DateTime := none
  anonymizedAt : Option DateTime := none
deriving DecidableEq, Repr

/-- The columns of an attachment that the sweep reads. -/
structure UploadedFile where
  uploaderId : UserId
  storageKey : String
  thumbnailKey : Option String := none
deriving DecidableEq, Repr

structure WorkspaceMemberProfile where
  workspaceId : WorkspaceId
  userId : UserId
  avatarKey : Option String := none
deriving DecidableEq, Repr

/-- In milliseconds, as the clock is. Both services have the same window. -/
def recoveryWindow : Nat := 30 * 24 * 60 * 60 * 1000

def batchLimit : Nat := 500

/-- The user row after an anonymisation. Deactivation and its time stay as they are. -/
def anonymizedUserData (userId : UserId) (now : DateTime) (account : Account) : Account :=
  { account with
    email := "deleted-" ++ toString userId.value ++ "@deleted.qufox"
    username := "deleted-" ++ toString userId.value
    personal := {}
    passwordHash := "deactivated-" ++ toString userId.value
    totpSecretEnc := none
    totpEnabled := false
    anonymizedAt := some now }

/-- What has been written to the accounts so far, and what the sweeps have selected. -/
inductive AccountEvent where
  | deactivated (userId : UserId) (readAt : DateTime)
  | reactivated (userId : UserId)
  /-- A sweep that had selected the account after the given number of events rewrites the row, at
  the given reading of the clock. -/
  | anonymized (userId : UserId) (selectedAfter : Nat) (readAt : DateTime)
deriving DecidableEq, Repr

structure AccountState where
  /-- What a service that reads the clock sees. -/
  now : DateTime := 0
  accounts : Table Account Account.id
  attachments : List UploadedFile := []
  /-- The authors of the messages. -/
  messageAuthors : List UserId := []
  /-- The owners of the rows that are deleted with the account. -/
  uploadSessions : List UserId := []
  refreshTokens : List UserId := []
  backupCodes : List UserId := []
  profiles : List WorkspaceMemberProfile := []
  /-- `SYSTEM_ANON`, the owner of what anonymised users leave behind. -/
  anonId : UserId
  history : List AccountEvent := []

namespace AccountState

variable (state : AccountState)

/-- Rewrite the row of a user. -/
def rewriteAccount (userId : UserId) (change : Account → Account)
    (keeps : ∀ account, (change account).id = account.id) : AccountState :=
  { state with
    accounts := state.accounts.rewrite
      (fun account => if account.id = userId then change account else account)
      fun account => by
        split
        · exact keeps account
        · rfl }

/-- The `where` of the sweep. -/
def isTarget (cutoff : DateTime) (account : Account) : Bool :=
  account.isDeactivated && account.deactivatedAt.any (· < cutoff) && account.anonymizedAt == none

/-- The accounts a sweep selects, those that have waited longest first. -/
def targets (now : DateTime) : List UserId :=
  let found := state.accounts.findMany (isTarget (now - recoveryWindow))
  let ordered := found.insertionSort fun first second =>
    first.deactivatedAt.getD 0 ≤ second.deactivatedAt.getD 0
  (ordered.take batchLimit).map (·.id)

/-- The objects of the files of a user, thumbnails included. -/
def fileKeys (userId : UserId) : List String :=
  (state.attachments.filter (·.uploaderId = userId)).flatMap fun file =>
    file.storageKey :: file.thumbnailKey.toList

def avatarKeys (userId : UserId) : List String :=
  (state.profiles.filter (·.userId = userId)).filterMap (·.avatarKey)

/-- The unique columns refuse the placeholders of a user. -/
def placeholderTaken (userId : UserId) : Bool :=
  state.accounts.rows.any fun account =>
    account.id ≠ userId &&
      (account.email == "deleted-" ++ toString userId.value ++ "@deleted.qufox" ||
        account.username == "deleted-" ++ toString userId.value)

/-- The transaction of `anonymizeOne`. It fails as a whole where the row is gone or its
placeholders are taken. -/
def commitAnonymized (userId : UserId) (selectedAfter : Nat) (now : DateTime) : AccountState :=
  if (state.accounts.findUnique userId).isNone || state.placeholderTaken userId then state
  else
    let cleared : AccountState := { state with
      messageAuthors := state.messageAuthors.map fun authorId =>
        if authorId = userId then state.anonId else authorId
      attachments := state.attachments.map fun file =>
        if file.uploaderId = userId then { file with uploaderId := state.anonId } else file
      uploadSessions := state.uploadSessions.filter (· ≠ userId)
      profiles := state.profiles.filter (·.userId ≠ userId)
      refreshTokens := state.refreshTokens.filter (· ≠ userId)
      backupCodes := state.backupCodes.filter (· ≠ userId)
      history := state.history ++ [.anonymized userId selectedAfter state.now] }
    cleared.rewriteAccount userId (anonymizedUserData userId now) fun _ => rfl

/-- The transaction of `deactivate`: an account that was read as deactivated keeps its time. -/
def commitDeactivated (userId : UserId) (wasDeactivated : Bool) (now : DateTime) : AccountState :=
  if (state.accounts.findUnique userId).isNone then state
  else
    let cleared : AccountState := { state with
      refreshTokens := state.refreshTokens.filter (· ≠ userId)
      history := state.history ++ [.deactivated userId now] }
    cleared.rewriteAccount userId
      (fun account => { account with
        isDeactivated := true
        deactivatedAt := if wasDeactivated then account.deactivatedAt else some now }) fun _ => rfl

/-- The update of `reactivate`. -/
def commitReactivated (userId : UserId) : AccountState :=
  if (state.accounts.findUnique userId).isNone then state
  else
    let logged : AccountState := { state with history := state.history ++ [.reactivated userId] }
    logged.rewriteAccount userId
      (fun account => { account with isDeactivated := false, deactivatedAt := none }) fun _ => rfl

end AccountState

/-- What runs between two awaits. Of a sweep, `rest` are the accounts it has not come to yet. -/
inductive AccountTask where
  /-- `deactivate`: read the row. -/
  | findUser (userId : UserId) (currentPassword : String) (totp : Except Failure Unit)
  | assertTotp (userId : UserId) (wasDeactivated : Bool) (totp : Except Failure Unit)
  | deactivate (userId : UserId) (wasDeactivated : Bool) (now : DateTime)
  /-- `reactivate`: read the row. -/
  | findByEmail (email password : String) (totp : Except Failure Unit)
  | assertRecoveryTotp (found : Account) (totp : Except Failure Unit)
  | reactivate (userId : UserId)
  /-- `anonymizeBatch`: select. -/
  | select (now : DateTime)
  | findAnon (now : DateTime) (selectedAfter : Nat) (targets : List UserId)
  /-- The loop over the selected accounts. -/
  | nextTarget (now : DateTime) (selectedAfter : Nat) (rest : List UserId)
  | deleteFiles (now : DateTime) (selectedAfter : Nat) (userId : UserId) (keys : List String)
      (rest : List UserId)
  | findProfiles (now : DateTime) (selectedAfter : Nat) (userId : UserId) (rest : List UserId)
  | deleteAvatars (now : DateTime) (selectedAfter : Nat) (userId : UserId) (keys : List String)
      (rest : List UserId)
  | anonymize (now : DateTime) (selectedAfter : Nat) (userId : UserId) (rest : List UserId)

namespace AccountTask

section Checks

variable (verify : String → String → Bool)

/-- `deactivate` checks the password of the row it has read. -/
def checkPassword (userId : UserId) (found : Option Account) (currentPassword : String)
    (totp : Except Failure Unit) : Except Failure AccountTask :=
  match found with
  | none => failWith .notFound "user not found"
  | some account =>
    if verify account.passwordHash currentPassword then
      .ok (.assertTotp userId account.isDeactivated totp)
    else failWith .passwordIncorrect "current password is incorrect"

/-- `reactivate` checks the credentials. A missing account and a wrong password look the same. -/
def checkCredentials (found : Option Account) (password : String) (totp : Except Failure Unit) :
    Except Failure AccountTask :=
  match found with
  | none => failWith .passwordIncorrect "invalid credentials"
  | some account =>
    if !verify account.passwordHash password then
      failWith .passwordIncorrect "invalid credentials"
    else if !account.isDeactivated then
      failWith .accountNotDeactivated "account is not deactivated"
    else .ok (.assertRecoveryTotp account totp)

/-- `reactivate` checks the window of the row it has read. -/
def checkWindow (now : DateTime) (found : Account) : Except Failure AccountTask :=
  match found.deactivatedAt with
  | none =>
    failWith .accountDeactivated "deactivation timestamp missing; account cannot be reactivated"
  | some deactivatedAt =>
    if deactivatedAt < now - recoveryWindow then
      failWith .accountDeactivated
        "recovery window has elapsed; account can no longer be reactivated"
    else .ok (.reactivate found.id)

end Checks

/-- What a task does up to its next await. -/
def resume (verify : String → String → Bool) (state : AccountState) :
    AccountTask → AccountState × List AccountTask
  | .findUser userId currentPassword totp =>
    proceed state
      (checkPassword verify userId (state.accounts.findUnique userId) currentPassword totp)
  | .assertTotp userId wasDeactivated totp =>
    proceed state (totp.map fun _ => .deactivate userId wasDeactivated state.now)
  | .deactivate userId wasDeactivated now =>
    (state.commitDeactivated userId wasDeactivated now, [])
  | .findByEmail email password totp =>
    proceed state
      (checkCredentials verify (state.accounts.rows.find? (·.email = email)) password totp)
  | .assertRecoveryTotp found totp =>
    proceed state (totp.bind fun _ => checkWindow state.now found)
  | .reactivate userId => (state.commitReactivated userId, [])
  | .select now =>
    match state.targets now with
    | [] => (state, [])
    | targets => (state, [.findAnon now state.history.length targets])
  | .findAnon now selectedAfter targets =>
    if (state.accounts.findUnique state.anonId).isSome then
      (state, [.nextTarget now selectedAfter targets])
    else (state, [])
  | .nextTarget _ _ [] => (state, [])
  | .nextTarget now selectedAfter (userId :: rest) =>
    if userId = state.anonId then (state, [.nextTarget now selectedAfter rest])
    else (state, [.deleteFiles now selectedAfter userId (state.fileKeys userId) rest])
  | .deleteFiles now selectedAfter userId [] rest =>
    (state, [.findProfiles now selectedAfter userId rest])
  | .deleteFiles now selectedAfter userId (_ :: keys) rest =>
    (state, [.deleteFiles now selectedAfter userId keys rest])
  | .findProfiles now selectedAfter userId rest =>
    (state, [.deleteAvatars now selectedAfter userId (state.avatarKeys userId) rest])
  | .deleteAvatars now selectedAfter userId [] rest =>
    (state, [.anonymize now selectedAfter userId rest])
  | .deleteAvatars now selectedAfter userId (_ :: keys) rest =>
    (state, [.deleteAvatars now selectedAfter userId keys rest])
  | .anonymize now selectedAfter userId rest =>
    (state.commitAnonymized userId selectedAfter now, [.nextTarget now selectedAfter rest])

end AccountTask

/-- What comes from outside: calls, sweeps, and readings of the clock, which need not go forward.
What `assertCredentialChangeTotp` will answer comes with the call. -/
inductive AccountInput where
  | deactivate (userId : UserId) (currentPassword : String) (totp : Except Failure Unit)
  | reactivate (email password : String) (totp : Except Failure Unit)
  | anonymizeBatch (now : DateTime)
  | clock (now : DateTime)

def AccountInput.accept (state : AccountState) : AccountInput → AccountState × List AccountTask
  | .deactivate userId currentPassword totp =>
    (state, [.findUser userId currentPassword totp])
  | .reactivate email password totp => (state, [.findByEmail email password totp])
  | .anonymizeBatch now => (state, [.select now])
  | .clock now => ({ state with now := now }, [])

/-- The accounts and the calls and sweeps that are under way. `verify` compares a password with a
stored hash. -/
def accountLoop (verify : String → String → Bool) :
    EventLoop AccountState AccountTask AccountInput where
  resume state task := task.resume verify state
  Accepts state input next spawned := (next, spawned) = input.accept state

end Bongtalk.Me
