import Bongtalk.Auth.Rotation

/-!
# Revocation

A revoked session stays revoked, and a password that a reset has replaced is good for nothing any
more. A rotation and a password change both write after an earlier read, and neither reads again:
these rest on no revocation and no other password write in between.
-/

namespace Bongtalk.Auth

open Library EventLoop Prisma

variable {refreshTtl : Nat} {state next : SessionState} {task : SessionTask} {input : SessionInput}

/-- The hash was the stored one when so many resets of the user had committed. -/
structure HashRead (state : SessionState) (userId : UserId) (hash : PasswordHash)
    (resetsRead : Nat) : Prop where
  drawn : hash.salt < state.salts
  current : ∀ stored, state.accounts userId = some stored → stored.passwordHash = hash →
    state.resets userId = resetsRead

def PasswordRead (state : SessionState) : SessionTask → Prop
  | .assertTotp args _ account resetsRead | .updatePassword args _ account resetsRead =>
    HashRead state args.userId account.passwordHash resetsRead
  | _ => True

/-- A password change writes only while the hash that it has verified is the stored one. -/
def HashStillStored (state : SessionState) : SessionTask → Prop
  | .updatePassword args _ account _ => ∃ stored, state.accounts args.userId = some stored ∧
      stored.passwordHash = account.passwordHash
  | _ => True

structure PasswordsSound (state : SessionState) : Prop where
  drawn : ∀ userId account, state.accounts userId = some account →
    account.passwordHash.salt < state.salts
  authorised : ∀ change ∈ state.changes, change.resetsRead = change.resetsWritten

section Writes

variable {userId : UserId}

structure SamePasswords (state next : SessionState) : Prop where
  accounts : next.accounts = state.accounts
  salts : next.salts = state.salts
  resets : next.resets = state.resets
  changes : next.changes = state.changes

/-- One user gets a hash with a new salt. -/
structure PasswordWrite (state next : SessionState) (userId : UserId) : Prop where
  others : ∀ other, other ≠ userId → next.accounts other = state.accounts other
  stored : ∀ account, next.accounts userId = some account → account.passwordHash.salt = state.salts
  salts : next.salts = state.salts + 1
  resets : ∀ other, other ≠ userId → next.resets other = state.resets other

theorem SamePasswords.of_rotate (state : SessionState) (record : RefreshToken)
    (newRaw : RefreshTokenId) : SamePasswords state (state.rotate refreshTtl record newRaw) := by
  rcases rotate_cases state refreshTtl record newRaw with same | ⟨tokens, same, -⟩
  · rw [same]
    exact ⟨rfl, rfl, rfl, rfl⟩
  · rw [same]
    exact ⟨rfl, rfl, rfl, rfl⟩

theorem passwordWrite_setPassword (state : SessionState) (userId : UserId) (newPassword : String)
    (change : Account → Account)
    (keeps : ∀ account, (change account).passwordHash = account.passwordHash) :
    PasswordWrite state (state.setPassword userId newPassword change) userId where
  others other isOther := Function.update_of_ne isOther _ _
  stored account isStored := by
    simp only [SessionState.setPassword, Function.update_self] at isStored
    obtain ⟨old, -, rfl⟩ := Option.map_eq_some_iff.mp isStored
    rw [keeps]
  salts := rfl
  resets _ _ := rfl

theorem passwordWrite_resetPassword {row : PasswordResetToken} {newPassword : String}
    (written : state.resetPassword row newPassword = some next) :
    PasswordWrite state next row.userId ∧ next.changes = state.changes := by
  rw [SessionState.resetPassword] at written
  split at written
  · cases written
    have write := passwordWrite_setPassword state row.userId newPassword
      (fun account => { account with failedLoginAttempts := 0, lockedUntil := none }) fun _ => rfl
    refine ⟨⟨write.others, write.stored, write.salts, fun other isOther => ?_⟩, rfl⟩
    exact Function.update_of_ne isOther _ _
  · cases written

/-- A statement leaves the passwords alone, or it is the write of a reset or of a change. -/
theorem passwords_of_writes (writes : Writes refreshTtl state task next) :
    SamePasswords state next ∨
      (∃ userId, PasswordWrite state next userId) ∧
        (next.changes = state.changes ∨
          ∃ args currentFamilyId account resetsRead,
            task = .updatePassword args currentFamilyId account resetsRead ∧
            next.changes = ⟨args.userId, resetsRead, state.resets args.userId⟩ :: state.changes) := by
  cases writes with
  | @rotate record newRaw => exact .inl (.of_rotate state record newRaw)
  | @resetPassword row newPassword written applied =>
    obtain ⟨write, sameChanges⟩ := passwordWrite_resetPassword applied
    exact .inr ⟨⟨row.userId, write⟩, .inl sameChanges⟩
  | @updatePassword args currentFamilyId account resetsRead =>
    have write := passwordWrite_setPassword state args.userId args.newPassword id fun _ => rfl
    refine .inr ⟨⟨args.userId, write.others, write.stored, write.salts, write.resets⟩, .inr ?_⟩
    exact ⟨args, currentFamilyId, account, resetsRead, rfl, rfl⟩
  | _ => exact .inl ⟨rfl, rfl, rfl, rfl⟩

theorem HashRead.of_same (same : SamePasswords state next) {hash : PasswordHash}
    {resetsRead : Nat} (read : HashRead state userId hash resetsRead) :
    HashRead next userId hash resetsRead where
  drawn := same.salts ▸ read.drawn
  current := by
    rw [same.accounts, same.resets]
    exact read.current

/-- A hash that was read before a write is not the one that the write has stored. -/
theorem HashRead.of_write {writtenFor : UserId} (write : PasswordWrite state next writtenFor)
    {hash : PasswordHash} {resetsRead : Nat} (read : HashRead state userId hash resetsRead) :
    HashRead next userId hash resetsRead where
  drawn := by
    rw [write.salts]
    exact Nat.lt_succ_of_lt read.drawn
  current stored isStored isHash := by
    by_cases same : userId = writtenFor
    · subst same
      have salt := write.stored stored isStored
      rw [isHash] at salt
      exact absurd salt (Nat.ne_of_lt read.drawn)
    · rw [write.others userId same] at isStored
      rw [write.resets userId same]
      exact read.current stored isStored isHash

theorem SamePasswords.sound (same : SamePasswords state next) (sound : PasswordsSound state) :
    PasswordsSound next := by
  refine ⟨?_, ?_⟩
  · rw [same.accounts, same.salts]
    exact sound.drawn
  · rw [same.changes]
    exact sound.authorised

theorem PasswordRead.of_hashRead {waiting : SessionTask} (read : PasswordRead state waiting)
    (keeps : ∀ {userId hash resetsRead}, HashRead state userId hash resetsRead →
      HashRead next userId hash resetsRead) : PasswordRead next waiting := by
  cases waiting with
  | assertTotp args currentFamilyId account resetsRead
  | updatePassword args currentFamilyId account resetsRead => exact keeps read
  | _ => trivial

theorem PasswordRead.resume {waiting : SessionTask} (read : PasswordRead state waiting) :
    PasswordRead (task.resume refreshTtl state).1 waiting := by
  refine read.of_hashRead fun hashRead => ?_
  rcases passwords_of_writes (writes_resume refreshTtl state task) with
    same | ⟨⟨writtenFor, write⟩, -⟩
  · exact hashRead.of_same same
  · exact hashRead.of_write write

theorem PasswordsSound.resume (sound : PasswordsSound state) (read : PasswordRead state task)
    (still : HashStillStored state task) : PasswordsSound (task.resume refreshTtl state).1 := by
  rcases passwords_of_writes (writes_resume refreshTtl state task) with
    same | ⟨⟨writtenFor, write⟩, changes⟩
  · exact same.sound sound
  refine ⟨fun userId account isStored => ?_, ?_⟩
  · rw [write.salts]
    by_cases isWritten : userId = writtenFor
    · subst isWritten
      rw [write.stored account isStored]
      exact Nat.lt_succ_self _
    · rw [write.others userId isWritten] at isStored
      exact Nat.lt_succ_of_lt (sound.drawn userId account isStored)
  · rcases changes with sameChanges | ⟨args, currentFamilyId, account, resetsRead, rfl, added⟩
    · rw [sameChanges]
      exact sound.authorised
    · rw [added]
      obtain ⟨stored, isStored, sameHash⟩ := still
      exact List.forall_mem_cons.mpr
        ⟨(read.current stored isStored sameHash).symm, sound.authorised⟩

end Writes

/-- The hash that a change goes on with was the stored one when it read it. -/
theorem passwordRead_of_spawned (sound : PasswordsSound state) (read : PasswordRead state task)
    {new : SessionTask} (spawned : new ∈ (task.resume refreshTtl state).2) :
    PasswordRead (task.resume refreshTtl state).1 new := by
  apply PasswordRead.resume
  cases continues_of_spawned refreshTtl state spawned with
  | @assertTotp args currentFamilyId account found =>
    exact ⟨sound.drawn args.userId account found, fun _ _ _ => rfl⟩
  | updatePassword => exact read
  | _ => trivial

theorem passwordRead_of_begins (begins : task.begins = true) : PasswordRead state task := by
  cases task with
  | assertTotp args currentFamilyId account resetsRead
  | updatePassword args currentFamilyId account resetsRead => cases begins
  | _ => trivial

/-- No input from outside writes a password. -/
theorem samePasswords_of_after (after : input.After refreshTtl state next) :
    SamePasswords state next := by
  cases after with
  | issue fresh inserted | requestReset inserted | tick | call => exact ⟨rfl, rfl, rfl, rfl⟩

/-! What a run keeps. -/

/-- What the code may rely on, whatever is pending. -/
def RevocationSound (state : SessionState) : Prop :=
  TokensSound state ∧ PasswordsSound state

def CallRead (state : SessionState) (task : SessionTask) : Prop :=
  TokenRead state task ∧ PasswordRead state task

/-- A statement that writes finds what its call has read. -/
def Current (state : SessionState) (task : SessionTask) : Prop :=
  StillUnrevoked state task ∧ HashStillStored state task

/-- No token of a family that a revocation has covered is live. No password change that was
authorised before a reset writes after it. -/
structure RevocationFinal (state : SessionState) : Prop where
  revoked : ∀ row ∈ state.tokens, row.familyId ∈ state.covered → ¬row.Live state.now
  authorised : ∀ change ∈ state.changes, change.resetsRead = change.resetsWritten

section Run

variable {spawned : List SessionTask}

theorem revocation_keeps_resume (sound : RevocationSound state) (read : CallRead state task)
    (current : Current state task) :
    Keeps RevocationSound CallRead state (task.resume refreshTtl state).1
      (task.resume refreshTtl state).2 where
  invariant :=
    ⟨.of_writes (writes_resume refreshTtl state task) sound.1 read.1 current.1,
      sound.2.resume read.2 current.2⟩
  stable _ waits :=
    ⟨waits.1.of_grows (.of_writes (writes_resume refreshTtl state task)), waits.2.resume⟩
  fresh _ spawned := ⟨tokenRead_of_spawned spawned, passwordRead_of_spawned sound.2 read.2 spawned⟩

theorem revocation_keeps_accept
    (accepted : (sessionLoop refreshTtl).Accepts state input next spawned)
    (sound : RevocationSound state) : Keeps RevocationSound CallRead state next spawned where
  invariant :=
    ⟨tokensSound_of_after accepted.1 sound.1, (samePasswords_of_after accepted.1).sound sound.2⟩
  stable _ waits := by
    have same := samePasswords_of_after accepted.1
    exact ⟨waits.1.of_grows (grows_of_after accepted.1), waits.2.of_hashRead fun read =>
      read.of_same same⟩
  fresh _ starts := by
    have begins := begins_of_starts (accepted.2 ▸ starts)
    exact ⟨tokenRead_of_begins begins, passwordRead_of_begins begins⟩

/-- Revocation is final in every run whose rotations and password changes write while what their
calls have read still stands. -/
theorem revocation_is_final {now : DateTime} {accounts : UserId → Option Account}
    {resetTokens : Table PasswordResetToken PasswordResetToken.id} {salts : Nat}
    (drawn : ∀ userId account, accounts userId = some account → account.passwordHash.salt < salts)
    {labels : List (Label SessionTask SessionInput)} {finish : State SessionState SessionTask}
    (steps : Steps (Guarded (Step (sessionLoop refreshTtl)) (OnResume Current))
      ⟨.initial now accounts resetTokens salts, []⟩ labels finish) :
    RevocationFinal finish.shared := by
  have run : RevocationSound finish.shared ∧ ∀ task ∈ finish.tasks, CallRead finish.shared task :=
    invariant_of_steps revocation_keeps_resume revocation_keeps_accept
      ⟨tokensSound_initial, drawn, List.forall_mem_nil _⟩ steps
  obtain ⟨tokens, passwords⟩ := run.1
  refine ⟨fun row present isCovered live => ?_, passwords.authorised⟩
  exact tokens.covered row present isCovered live.1

end Run

/-- A user with a password and a mail that lets it be reset. -/
def oneAccount : SessionState :=
  .initial 0 (fun userId => if userId = ⟨1⟩ then some { passwordHash := ⟨0, "first"⟩ } else none)
    { rows := [{ id := ⟨1⟩, userId := ⟨1⟩, expiresAt := 60 }], keysNodup := List.nodup_singleton _ } 1

theorem oneAccount_drawn (userId : UserId) (account : Account)
    (stored : oneAccount.accounts userId = some account) : account.passwordHash.salt < 1 := by
  simp only [oneAccount, SessionState.initial] at stored
  split at stored
  · cases stored
    exact Nat.zero_lt_one
  · cases stored

def signedIn : SessionState :=
  { oneAccount with tokens := firstTokens }

theorem signedIn_issued : (sessionLoop 60).Accepts oneAccount (.issue ⟨1⟩ ⟨1⟩ ⟨1⟩) signedIn [] :=
  ⟨.issue nofun (Table.insert?_eq_some_iff.mpr ⟨nofun, rfl⟩), rfl⟩

/-- A password change with the first password. -/
def changeFirst : ChangePasswordArgs :=
  { userId := ⟨1⟩, currentPassword := "first", newPassword := "mine" }

/-- The user changes the password, and then resets it. The session is gone. -/
theorem reset_after_change : ∃ labels finish,
    Steps (Guarded (Step (sessionLoop 60)) (OnResume Current)) ⟨oneAccount, []⟩ labels finish ∧
      finish.shared.covered = [⟨1⟩] ∧ finish.shared.changes = [⟨⟨1⟩, 0, 0⟩] ∧
      RevocationFinal finish.shared := by
  have issued : Guarded (Step (sessionLoop 60)) (OnResume Current) ⟨oneAccount, []⟩
      (.accept (.issue ⟨1⟩ ⟨1⟩ ⟨1⟩)) ⟨signedIn, []⟩ :=
    ⟨.accept signedIn_issued, trivial⟩
  have changed : Guarded (Step (sessionLoop 60)) (OnResume Current) ⟨signedIn, []⟩
      (.accept (.changePassword changeFirst none)) ⟨signedIn, [.findAccount changeFirst none]⟩ :=
    ⟨.accept ⟨.call (List.cons_ne_nil _ _), rfl⟩, trivial⟩
  obtain ⟨_, written⟩ := exists_guarded_runFirst 3 ((Steps.refl.step issued).step changed)
    ⟨⟨trivial, trivial⟩, ⟨trivial, trivial⟩, ⟨trivial, ⟨_, rfl, rfl⟩⟩, trivial⟩
  have mailed : Guarded (Step (sessionLoop 60)) (OnResume Current)
      ⟨signedIn.updatePassword ⟨1⟩ "mine" 0, []⟩ (.accept (.reset ⟨1⟩ "second"))
      ⟨signedIn.updatePassword ⟨1⟩ "mine" 0, [.findResetToken ⟨1⟩ "second"]⟩ :=
    ⟨.accept ⟨.call (List.cons_ne_nil _ _), rfl⟩, trivial⟩
  obtain ⟨labels, steps⟩ := exists_guarded_runFirst 3 (written.step mailed)
    ⟨⟨trivial, trivial⟩, ⟨trivial, trivial⟩, ⟨trivial, trivial⟩, trivial⟩
  exact ⟨labels, _, steps, by decide, by decide, revocation_is_final oneAccount_drawn steps⟩

/-- A rotation and a password change have read what they need when the user resets the password.
After the reset has returned, the session goes on and the password is the other one. -/
theorem reset_overtaken : ∃ labels finish,
    Steps (Step (sessionLoop 60)) ⟨oneAccount, []⟩ labels finish ∧ finish.shared.covered = [⟨1⟩] ∧
      (∃ row ∈ finish.shared.tokens, row.familyId = ⟨1⟩ ∧ row.Live finish.shared.now) ∧
      finish.shared.changes = [⟨⟨1⟩, 0, 1⟩] ∧ ¬RevocationFinal finish.shared := by
  have issued : Steps (Step (sessionLoop 60)) ⟨oneAccount, []⟩ [.accept (.issue ⟨1⟩ ⟨1⟩ ⟨1⟩)]
      ⟨signedIn, []⟩ :=
    Steps.singleton_iff.mpr (.accept signedIn_issued)
  obtain ⟨labels, steps⟩ := exists_steps_calls issued
    [.accept (.reset ⟨1⟩ "second"), .accept (.changePassword changeFirst none), .run 1, .run 1,
      .accept (.rotate ⟨1⟩ ⟨2⟩), .run 2, .run 0, .run 0, .run 0, .run 0, .run 0] rfl
  refine ⟨labels, _, steps, by decide, ⟨_, .head _, rfl, rfl, by decide⟩, by decide,
    fun revocationFinal => ?_⟩
  exact absurd (revocationFinal.authorised ⟨⟨1⟩, 0, 1⟩ (.head _)) (by decide)

end Bongtalk.Auth
