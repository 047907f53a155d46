import Bongtalk.Auth.TwoFactor

/-!
# Enrolment

A user with 2FA has a secret and the ten backup codes of one enrolment, and a user without it has
neither. The row of the user, which `verify` and `disable` hold for their whole transaction, keeps
the backup codes of one call apart from those of another. The anonymisation takes it last.
-/

namespace Bongtalk.Auth

open Library EventLoop Prisma TwoFactorState List Function

variable {state next : TwoFactorState}

/-- The user whose row a transaction holds between two of its statements. -/
def TwoFactorTask.holds : TwoFactorTask → Option UserId
  | .deleteCodes call _ | .createCodes call _ _ => some call.userId
  | .deleteAllCodes userId => some userId
  | _ => none

/-- A user has 2FA enabled exactly when there is a secret. The backup codes are then the ten of the
call that has enabled it, and otherwise there are none. -/
structure Enrolled (state : TwoFactorState) (userId : UserId) (user : TwoFactorUser) : Prop where
  secret : user.totpEnabled = true ↔ user.totpSecretEnc ≠ none
  codes : user.totpEnabled = true → ∃ call, state.enabledBy userId = some call ∧
    state.codesOf userId = call.backupCodes ∧
    (state.codesOf userId).length = totpBackupCodeCount
  none : user.totpEnabled = false → state.codesOf userId = []

def Consistent (state : TwoFactorState) : Prop :=
  ∀ userId user, state.users userId = some user → Enrolled state userId user

/-- When the anonymisation updates the user, there is no backup code that its delete has missed. -/
def NoneMissed (state : TwoFactorState) : TwoFactorTask → Prop
  | .anonymizeUser userId deleted => userId ∉ state.lockedUsers →
      ∀ code ∈ state.codesOf userId, code ∈ deleted
  | _ => True

/-- What a transaction is about to delete. -/
def CodesRead (state : TwoFactorState) : TwoFactorTask → Prop
  | .createCodes call _ deleted => deleted = state.codesOf call.userId
  | .anonymizeUser userId deleted => ∀ code ∈ deleted, code.userId = userId
  | _ => True

section Commits

variable {userId other : UserId} {deleted : List BackupCode}

theorem mem_codesOf {code : BackupCode} :
    code ∈ state.codesOf userId ↔ code ∈ state.backupCodes ∧ code.userId = userId := by
  simp [codesOf]

variable {call : VerifyCall}

theorem VerifyCall.owner : ∀ code ∈ call.backupCodes, code.userId = call.userId := by
  intro code created
  obtain ⟨drawn, -, rfl⟩ := mem_map.mp created
  rfl

theorem VerifyCall.length_backupCodes (call : VerifyCall) :
    call.backupCodes.length = totpBackupCodeCount :=
  (length_map _).trans call.counted

/-- A delete that has seen all codes of a user leaves none. -/
theorem filter_deleted_self (all : ∀ code ∈ state.codesOf userId, code ∈ deleted) :
    (state.backupCodes.filter fun code => decide (code ∉ deleted)).filter
      (fun code => code.userId == userId) = [] := by
  refine filter_eq_nil_iff.mpr fun code left isOwn => ?_
  obtain ⟨present, notDeleted⟩ := mem_filter.mp left
  exact of_decide_eq_true notDeleted (all code (mem_codesOf.mpr ⟨present, beq_iff_eq.mp isOwn⟩))

/-- A delete of the codes of one user leaves those of another. -/
theorem filter_deleted_other (own : ∀ code ∈ deleted, code.userId = userId)
    (isOther : other ≠ userId) :
    (state.backupCodes.filter fun code => decide (code ∉ deleted)).filter
      (fun code => code.userId == other) = state.codesOf other := by
  rw [filter_filter, codesOf]
  refine filter_congr fun code present => ?_
  by_cases isOwn : code.userId = other
  · have left : code ∉ deleted := fun isDeleted => isOther (isOwn ▸ own code isDeleted)
    simp [isOwn, left]
  · simp [isOwn]

variable {totpSecretEnc : EncryptedSecret}

theorem codesOf_commitVerify_self (all : ∀ code ∈ state.codesOf call.userId, code ∈ deleted) :
    (state.commitVerify call totpSecretEnc deleted).codesOf call.userId = call.backupCodes := by
  have allOwn : call.backupCodes.filter (fun code => code.userId == call.userId) =
      call.backupCodes :=
    filter_eq_self.mpr fun code created => beq_iff_eq.mpr (call.owner code created)
  rw [codesOf, commitVerify, filter_append, filter_deleted_self all, nil_append, allOwn]

theorem codesOf_commitVerify_other (own : ∀ code ∈ deleted, code.userId = call.userId)
    (isOther : other ≠ call.userId) :
    (state.commitVerify call totpSecretEnc deleted).codesOf other = state.codesOf other := by
  have noneOwn : call.backupCodes.filter (fun code => code.userId == other) = [] := by
    refine filter_eq_nil_iff.mpr fun code created isOwn => isOther ?_
    rw [← beq_iff_eq.mp isOwn, call.owner code created]
  rw [codesOf, commitVerify, filter_append, noneOwn, append_nil, filter_deleted_other own isOther]

theorem codesOf_commitDisabled_self (all : ∀ code ∈ state.codesOf userId, code ∈ deleted) :
    (state.commitDisabled userId deleted).codesOf userId = [] :=
  filter_deleted_self all

theorem codesOf_commitDisabled_other (own : ∀ code ∈ deleted, code.userId = userId)
    (isOther : other ≠ userId) :
    (state.commitDisabled userId deleted).codesOf other = state.codesOf other :=
  filter_deleted_other own isOther

/-- Nothing that is written about one user concerns another. -/
theorem Enrolled.of_other {user : TwoFactorUser} (enrolled : Enrolled state other user)
    (sameCodes : next.codesOf other = state.codesOf other)
    (sameCall : next.enabledBy other = state.enabledBy other) : Enrolled next other user := by
  refine ⟨enrolled.secret, ?_, ?_⟩
  · rw [sameCodes, sameCall]
    exact enrolled.codes
  · rw [sameCodes]
    exact enrolled.none

theorem Consistent.of_same (consistent : Consistent state) (sameUsers : next.users = state.users)
    (sameCodes : next.backupCodes = state.backupCodes)
    (sameCalls : next.enabledBy = state.enabledBy) : Consistent next := by
  intro userId user stored
  rw [sameUsers] at stored
  refine (consistent userId user stored).of_other ?_ (congrFun sameCalls userId)
  rw [codesOf, sameCodes, codesOf]

theorem Consistent.commitVerify (consistent : Consistent state)
    (read : deleted = state.codesOf call.userId) :
    Consistent (state.commitVerify call totpSecretEnc deleted) := by
  subst read
  intro userId user stored
  by_cases isOwn : userId = call.userId
  · subst isOwn
    have isUser := (update_self _ _ _).symm.trans stored
    cases isUser
    have codes : (state.commitVerify call totpSecretEnc (state.codesOf call.userId)).codesOf
        call.userId = call.backupCodes :=
      codesOf_commitVerify_self fun _ present => present
    refine ⟨?_, fun _ => ⟨call, update_self _ _ _, codes, ?_⟩, nofun⟩
    · simp
    · rw [codes]
      exact call.length_backupCodes
  · have isUser := (update_of_ne isOwn _ _).symm.trans stored
    refine (consistent userId user isUser).of_other ?_ (update_of_ne isOwn _ _)
    exact codesOf_commitVerify_other (fun code present => (mem_codesOf.mp present).2) isOwn

theorem Consistent.commitDisabled (consistent : Consistent state)
    (own : ∀ code ∈ deleted, code.userId = userId)
    (all : ∀ code ∈ state.codesOf userId, code ∈ deleted) :
    Consistent (state.commitDisabled userId deleted) := by
  intro stored user isStored
  by_cases isOwn : stored = userId
  · subst isOwn
    have isUser := (update_self _ _ _).symm.trans isStored
    cases isUser
    exact ⟨by simp, nofun, fun _ => codesOf_commitDisabled_self all⟩
  · have isUser := (update_of_ne isOwn _ _).symm.trans isStored
    exact (consistent stored user isUser).of_other (codesOf_commitDisabled_other own isOwn) rfl

end Commits

section Run

variable {totp : TotpSecret → Nat → TotpCode} {task : TwoFactorTask}

theorem CodesRead.of_plain (plain : task.plain = true) : CodesRead state task := by
  cases task with
  | createCodes call totpSecretEnc deleted | anonymizeUser userId deleted => cases plain
  | _ => trivial

theorem holds_of_plain (plain : task.plain = true) : task.holds = none := by
  cases task with
  | deleteCodes call totpSecretEnc | createCodes call totpSecretEnc deleted
  | deleteAllCodes userId => cases plain
  | _ => rfl

/-- A transaction still deletes what it has seen when the codes of its user stay. -/
theorem CodesRead.of_codes (read : CodesRead state task)
    (same : ∀ userId, task.holds = some userId → next.codesOf userId = state.codesOf userId) :
    CodesRead next task := by
  cases task with
  | createCodes call totpSecretEnc deleted => exact read.trans (same call.userId rfl).symm
  | anonymizeUser userId deleted => exact read
  | _ => trivial

theorem keepsLocked_outcome {result : TwoFactorState × List TwoFactorTask}
    (outcome : Outcome totp state task result) (consistent : Consistent state)
    (read : CodesRead state task) (noneMissed : NoneMissed state task) :
    KeepsLocked Consistent CodesRead TwoFactorTask.holds (·.lockedUsers) state task result.1
      result.2 := by
  cases outcome with
  | quiet plain | recorded plain =>
    exact ⟨consistent.of_same rfl rfl rfl,
      .free fun new spawned => holds_of_plain (plain new spawned),
      fun _ _ waits => waits.of_codes fun _ _ => rfl,
      fun new spawned => .of_plain (plain new spawned)⟩
  | waits =>
    exact ⟨consistent, .keep rfl, fun _ _ waits => waits, forall_mem_singleton.mpr read⟩
  | lookedUp | checked other valid =>
    exact ⟨consistent, .free (forall_mem_singleton.mpr rfl), fun _ _ waits => waits,
      forall_mem_singleton.mpr trivial⟩
  | enabling free disabled | disabling free =>
    exact ⟨consistent.of_same rfl rfl rfl, .acquire free rfl,
      fun _ _ waits => waits.of_codes fun _ _ => rfl, forall_mem_singleton.mpr trivial⟩
  | cleared =>
    exact ⟨consistent, .keep rfl, fun _ _ waits => waits, forall_mem_singleton.mpr rfl⟩
  | enabled =>
    refine ⟨consistent.commitVerify read, .release rfl (forall_mem_singleton.mpr rfl),
      fun _ others waits => waits.of_codes fun other held => ?_,
      forall_mem_singleton.mpr trivial⟩
    refine codesOf_commitVerify_other (fun code present => ?_) fun same => ?_
    · exact (mem_codesOf.mp (read ▸ present)).2
    · exact (others other held).2 (same ▸ rfl)
  | @disabled userId =>
    have own : ∀ code ∈ state.codesOf userId, code.userId = userId :=
      fun code present => (mem_codesOf.mp present).2
    refine ⟨(consistent.commitDisabled own fun _ present => present).of_same rfl rfl rfl,
      .release rfl (forall_mem_nil _),
      fun _ others waits => waits.of_codes fun other held => ?_, forall_mem_nil _⟩
    refine codesOf_commitDisabled_other own fun same => ?_
    exact (others other held).2 (same ▸ rfl)
  | anonymizing =>
    exact ⟨consistent, .free (forall_mem_singleton.mpr rfl), fun _ _ waits => waits,
      forall_mem_singleton.mpr fun code present => (mem_codesOf.mp present).2⟩
  | anonymized free =>
    refine ⟨consistent.commitDisabled read (noneMissed free), .free (forall_mem_nil _),
      fun _ others waits => waits.of_codes fun other held => ?_, forall_mem_nil _⟩
    refine codesOf_commitDisabled_other read fun same => ?_
    exact free (same ▸ (others other held).1)

theorem keeps_accept_enrolment {input : TwoFactorInput} {spawned : List TwoFactorTask}
    (accepted : (twoFactorLoop totp).Accepts state input next spawned)
    (consistent : Consistent state) :
    Keeps Consistent CodesRead state next spawned ∧ next.lockedUsers = state.lockedUsers ∧
      ∀ new ∈ spawned, new.holds = none := by
  obtain ⟨rfl, rfl⟩ := accepted
  cases input with
  | request call | anonymizeOne userId =>
    exact ⟨.of_same consistent (forall_mem_singleton.mpr trivial), rfl,
      forall_mem_singleton.mpr rfl⟩
  | configure key | tick elapsed =>
    exact ⟨⟨consistent.of_same rfl rfl rfl, fun _ waits => waits.of_codes fun _ _ => rfl,
      forall_mem_nil _⟩, rfl, forall_mem_nil _⟩

/-- Enrolment is consistent in every run whose anonymisations miss no backup code. -/
theorem enrolment_consistent {start : TwoFactorState} (consistent : Consistent start)
    {labels : List (Label TwoFactorTask TwoFactorInput)}
    {finish : State TwoFactorState TwoFactorTask}
    (steps : Steps (Guarded (Step (twoFactorLoop totp)) (OnResume NoneMissed)) ⟨start, []⟩ labels
      finish) :
    Consistent finish.shared := by
  have run : Consistent finish.shared ∧ ∀ task ∈ finish.tasks, CodesRead finish.shared task :=
    invariant_of_locked_steps (fun consistent read noneMissed =>
      keepsLocked_outcome (outcome_resume totp _ _) consistent read noneMissed)
      keeps_accept_enrolment consistent steps
  exact run.1

end Run

/-- The code of every secret in every time step. -/
def oneCode : TotpSecret → Nat → TotpCode :=
  fun _ _ => "111111"

/-- A user who has not enabled 2FA yet. -/
def notEnrolled : TwoFactorState where
  now := 30 * 1000
  encryptionKey := some ⟨1⟩
  users := fun userId => if userId = ⟨1⟩ then some {} else none

theorem consistent_notEnrolled : Consistent notEnrolled := by
  intro userId user stored
  simp only [notEnrolled] at stored
  split at stored
  · cases stored
    exact ⟨by simp, nofun, fun _ => rfl⟩
  · cases stored

def enrol : VerifyCall where
  userId := ⟨1⟩
  code := "111111"
  hashed := (List.range 10).map fun number => (⟨number⟩, "hash")
  counted := rfl

/-- A user sets 2FA up and verifies it, and later the account is anonymised. -/
theorem enrolled_and_anonymized : ∃ labels finish,
    Steps (Guarded (Step (twoFactorLoop oneCode)) (OnResume NoneMissed)) ⟨notEnrolled, []⟩ labels
        finish ∧
      finish.tasks = [] ∧ (finish.shared.enabledBy ⟨1⟩).isSome ∧ Consistent finish.shared := by
  have setUp : Guarded (Step (twoFactorLoop oneCode)) (OnResume NoneMissed) ⟨notEnrolled, []⟩
      (.accept (.request (.setup ⟨1⟩ ⟨"secret"⟩)))
      ⟨notEnrolled, [.findUser (.setup ⟨1⟩ ⟨"secret"⟩)]⟩ :=
    ⟨.accept ⟨rfl, rfl⟩, trivial⟩
  have verified : Guarded (Step (twoFactorLoop oneCode)) (OnResume NoneMissed)
      ⟨notEnrolled, [.findUser (.setup ⟨1⟩ ⟨"secret"⟩)]⟩ (.accept (.request (.verify enrol)))
      ⟨notEnrolled, [.findUser (.setup ⟨1⟩ ⟨"secret"⟩), .findUser (.verify enrol)]⟩ :=
    ⟨.accept ⟨rfl, rfl⟩, trivial⟩
  have anonymized : Guarded (Step (twoFactorLoop oneCode)) (OnResume NoneMissed)
      ⟨notEnrolled, [.findUser (.setup ⟨1⟩ ⟨"secret"⟩), .findUser (.verify enrol)]⟩
      (.accept (.anonymizeOne ⟨1⟩))
      ⟨notEnrolled,
        [.findUser (.setup ⟨1⟩ ⟨"secret"⟩), .findUser (.verify enrol), .anonymizeCodes ⟨1⟩]⟩ :=
    ⟨.accept ⟨rfl, rfl⟩, trivial⟩
  obtain ⟨labels, steps⟩ := exists_guarded_runFirst 15
    (((Steps.refl.step setUp).step verified).step anonymized)
    ⟨trivial, trivial, trivial, trivial, trivial, trivial, trivial, trivial, trivial, trivial,
      trivial, trivial, trivial, trivial, fun _ _ present => present, trivial⟩
  exact ⟨labels, _, steps, by rfl, by rfl, enrolment_consistent consistent_notEnrolled steps⟩

/-- The anonymisation deletes the backup codes, of which there are none, then the user enables 2FA,
and then the anonymisation disables it again. The ten codes stay. -/
theorem anonymized_with_codes : Consistent notEnrolled ∧ ∃ labels finish,
    Steps (Step (twoFactorLoop oneCode)) ⟨notEnrolled, []⟩ labels finish ∧
      finish.shared.users ⟨1⟩ = some ⟨false, none⟩ ∧
      finish.shared.codesOf ⟨1⟩ = enrol.backupCodes ∧ ¬Consistent finish.shared := by
  obtain ⟨labels, steps⟩ := (twoFactorLoop oneCode).exists_steps_played
    (fun state input => (input.after state, input.starts)) (fun _ _ => true) ⟨notEnrolled, []⟩
    (fun _ _ _ => ⟨rfl, rfl⟩) .refl
    ([.accept (.request (.setup ⟨1⟩ ⟨"secret"⟩)), .accept (.request (.verify enrol)),
      .accept (.anonymizeOne ⟨1⟩), .run 2] ++ List.replicate 14 (.run 0)) rfl
  refine ⟨consistent_notEnrolled, labels, _, steps, by rfl, by rfl, fun consistent => ?_⟩
  have left := (consistent ⟨1⟩ ⟨false, none⟩ (by rfl)).none rfl
  cases left

end Bongtalk.Auth
