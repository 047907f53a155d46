import Bongtalk.Auth.TwoFactor

/-!
# One-time codes

A code of an authenticator is valid for three time steps. The cache remembers the last code that a
user had accepted for as long as that, which is one code, looked up before it is written.
-/

namespace Bongtalk.Auth

open Library EventLoop Prisma List TwoFactorState

/-- The times at which the code of a time step is valid. -/
def InWindow (counter time : Nat) : Prop :=
  time / totpStep ≤ counter + 1 ∧ counter ≤ time / totpStep + 1

/-- The code stays valid from the first time to the second. -/
def SameWindow (totp : TotpSecret → Nat → TotpCode) (secret : TotpSecret) (code : TotpCode)
    (first second : Nat) : Prop :=
  ∃ counter, totp secret counter = code ∧ InWindow counter first ∧ InWindow counter second

/-- No code is accepted again while it is valid. The list has the last acceptance first. -/
def OneTime (totp : TotpSecret → Nat → TotpCode) (accepted : List Acceptance) : Prop :=
  accepted.Pairwise fun later earlier =>
    earlier.userId = later.userId → earlier.secret = later.secret → earlier.code = later.code →
      ¬SameWindow totp later.secret later.code earlier.time later.time

/-- When a code is looked up that is still valid since it was accepted, it is the last one that the
user had accepted. When a code is recorded, it was not accepted since it was looked up. -/
def Remembered (totp : TotpSecret → Nat → TotpCode) (state : TwoFactorState) :
    TwoFactorTask → Prop
  | .getLastCode check => ∀ acceptance ∈ state.accepted, acceptance.isOf check = true →
      SameWindow totp check.secret check.code acceptance.time state.now →
      ∀ latest, state.accepted.find? (·.userId == check.userId) = some latest →
        latest.code = check.code
  | .setLastCode check _ seen => state.acceptances check = seen
  | _ => True

section Window

variable {totp : TotpSecret → Nat → TotpCode} {secret : TotpSecret} {code : TotpCode}
  {first second later : Nat}

/-- The cache keeps a code at least as long as it is valid. -/
theorem SameWindow.lt_ttl (same : SameWindow totp secret code first second) :
    second < first + totpReplayTtl := by
  obtain ⟨counter, -, ⟨-, notBefore⟩, ⟨notAfter, -⟩⟩ := same
  simp only [totpStep, totpReplayTtl] at *
  omega

/-- A code that stays valid up to a time stays valid up to each time before it. -/
theorem SameWindow.of_le (same : SameWindow totp secret code first later)
    (fromFirst : first ≤ second) (toLater : second ≤ later) :
    SameWindow totp secret code first second := by
  obtain ⟨counter, isCode, ⟨firstUpper, firstLower⟩, ⟨laterUpper, laterLower⟩⟩ := same
  refine ⟨counter, isCode, ⟨firstUpper, firstLower⟩, ?_, ?_⟩
  · exact (Nat.div_le_div_right toLater).trans laterUpper
  · exact firstLower.trans (Nat.add_le_add_right (Nat.div_le_div_right fromFirst) 1)

end Window

theorem Acceptance.isOf_iff {acceptance : Acceptance} {check : CodeCheck} :
    acceptance.isOf check = true ↔ acceptance.userId = check.userId ∧
      acceptance.secret = check.secret ∧ acceptance.code = check.code := by
  simp [Acceptance.isOf, and_assoc]

/-- The cache knows the last code of each user, until it is no longer valid. -/
structure CodesSound (totp : TotpSecret → Nat → TotpCode) (state : TwoFactorState) : Prop where
  past : ∀ acceptance ∈ state.accepted, acceptance.time ≤ state.now
  kept : ∀ acceptance ∈ state.accepted, ∃ entry, state.lastCodes acceptance.userId = some entry ∧
    acceptance.time + totpReplayTtl ≤ entry.expiresAt
  latest : ∀ userId latest, state.accepted.find? (·.userId == userId) = some latest →
    ∀ entry, state.lastCodes userId = some entry → entry.value = latest.code
  oneTime : OneTime totp state.accepted

/-- The code was not accepted in a window of this time, unless it is accepted once more. -/
structure Unused (totp : TotpSecret → Nat → TotpCode) (state : TwoFactorState) (check : CodeCheck)
    (time : DateTime) (seen : Nat) : Prop where
  grown : seen ≤ state.acceptances check
  unused : state.acceptances check = seen → ∀ acceptance ∈ state.accepted,
    acceptance.isOf check = true → ¬SameWindow totp check.secret check.code acceptance.time time

/-- What a pending check has found out. -/
def CodeRead (totp : TotpSecret → Nat → TotpCode) (state : TwoFactorState) :
    TwoFactorTask → Prop
  | .checkCode check last seen => last ≠ some check.code → ∀ time, state.now ≤ time →
      Unused totp state check time seen
  | .setLastCode check checkedAt seen => checkedAt ≤ state.now ∧
      Unused totp state check checkedAt seen
  | _ => True

section Steps

variable {totp : TotpSecret → Nat → TotpCode} {state next : TwoFactorState}
  {task waiting : TwoFactorTask}

theorem CodeRead.of_plain (plain : task.plain = true) : CodeRead totp state task := by
  cases task with
  | checkCode check last seen | setLastCode check checkedAt seen => cases plain
  | _ => trivial

/-- Time goes on and the acceptances stay. -/
theorem CodeRead.later (read : CodeRead totp state waiting)
    (sameAccepted : next.accepted = state.accepted) (later : state.now ≤ next.now) :
    CodeRead totp next waiting := by
  have keeps {check : CodeCheck} {time : DateTime} {seen : Nat}
      (unused : Unused totp state check time seen) : Unused totp next check time seen := by
    refine ⟨?_, ?_⟩
    · rw [acceptances, sameAccepted]
      exact unused.grown
    · rw [acceptances, sameAccepted]
      exact unused.unused
  cases waiting with
  | checkCode check last seen =>
    exact fun other time notBefore => keeps (read other time (later.trans notBefore))
  | setLastCode check checkedAt seen => exact ⟨read.1.trans later, keeps read.2⟩
  | _ => trivial

theorem CodesSound.later (sound : CodesSound totp state)
    (sameAccepted : next.accepted = state.accepted) (sameCodes : next.lastCodes = state.lastCodes)
    (later : state.now ≤ next.now) : CodesSound totp next where
  past := by
    rw [sameAccepted]
    exact fun acceptance present => (sound.past acceptance present).trans later
  kept := by
    rw [sameAccepted, sameCodes]
    exact sound.kept
  latest := by
    rw [sameAccepted, sameCodes]
    exact sound.latest
  oneTime := by
    rw [sameAccepted]
    exact sound.oneTime

variable {check : CodeCheck}

/-- A code that the cache does not have was not accepted in the window of this time. -/
theorem codeRead_of_lookup (sound : CodesSound totp state)
    (remembered : Remembered totp state (.getLastCode check)) :
    CodeRead totp state (.checkCode check
      ((state.lastCodes check.userId).bind (·.get state.now)) (state.acceptances check)) := by
  intro notLast time notBefore
  refine ⟨le_refl _, fun _ acceptance present isCheck same => notLast ?_⟩
  obtain ⟨sameUser, -, -⟩ := Acceptance.isOf_iff.mp isCheck
  have sameNow := same.of_le (sound.past acceptance present) notBefore
  obtain ⟨entry, stored, outlasts⟩ := sound.kept acceptance present
  rw [sameUser] at stored
  have someLatest : (state.accepted.find? (·.userId == check.userId)).isSome = true :=
    List.find?_isSome.mpr ⟨acceptance, present, beq_iff_eq.mpr sameUser⟩
  obtain ⟨latest, isLatest⟩ := Option.isSome_iff_exists.mp someLatest
  have isCode := (sound.latest check.userId latest isLatest entry stored).trans
    (remembered acceptance present isCheck sameNow latest isLatest)
  have live : state.now < entry.expiresAt := sameNow.lt_ttl.trans_le outlasts
  rw [stored, Option.bind_some, Expiring.get, if_pos live, isCode]

/-- What was accepted is another code, or it has been accepted once more. -/
theorem Unused.accept {check other : CodeCheck} {time checkedAt : DateTime} {seen : Nat}
    (unused : Unused totp state check time seen)
    (accepted : next.accepted =
      ⟨other.userId, other.secret, other.code, checkedAt⟩ :: state.accepted) :
    Unused totp next check time seen := by
  have counted : next.acceptances check = state.acceptances check +
      if (Acceptance.mk other.userId other.secret other.code checkedAt).isOf check then 1 else 0 := by
    rw [acceptances, accepted, countP_cons, acceptances]
  have grown := unused.grown
  refine ⟨by omega, fun sameCount => ?_⟩
  split at counted
  · omega
  next isOther =>
    rw [accepted]
    refine forall_mem_cons.mpr ⟨fun isCheck => absurd isCheck isOther, ?_⟩
    exact unused.unused (by omega)

theorem CodeRead.accept {checkedAt : DateTime} (read : CodeRead totp state waiting)
    (sameNow : next.now = state.now)
    (accepted : next.accepted = ⟨check.userId, check.secret, check.code, checkedAt⟩ ::
      state.accepted) :
    CodeRead totp next waiting := by
  cases waiting with
  | checkCode other last seen =>
    intro notLast time notBefore
    rw [sameNow] at notBefore
    exact (read notLast time notBefore).accept accepted
  | setLastCode other otherAt seen => exact ⟨sameNow ▸ read.1, read.2.accept accepted⟩
  | _ => trivial

theorem CodesSound.record (sound : CodesSound totp state) {checkedAt : DateTime} {seen : Nat}
    (read : CodeRead totp state (.setLastCode check checkedAt seen))
    (remembered : Remembered totp state (.setLastCode check checkedAt seen)) :
    CodesSound totp (state.acceptCode check checkedAt) where
  past := forall_mem_cons.mpr ⟨read.1, sound.past⟩
  kept := by
    have own : (state.acceptCode check checkedAt).lastCodes check.userId =
        some ⟨check.code, state.now + totpReplayTtl⟩ :=
      Function.update_self _ _ _
    refine forall_mem_cons.mpr ⟨⟨_, own, Nat.add_le_add_right read.1 _⟩, ?_⟩
    intro acceptance present
    by_cases sameUser : acceptance.userId = check.userId
    · refine ⟨_, sameUser ▸ own, ?_⟩
      exact Nat.add_le_add_right (sound.past acceptance present) _
    · obtain ⟨entry, stored, outlasts⟩ := sound.kept acceptance present
      exact ⟨entry, (Function.update_of_ne sameUser _ _).trans stored, outlasts⟩
  latest userId latest isLatest entry stored := by
    rw [acceptCode] at isLatest stored
    by_cases sameUser : userId = check.userId
    · subst sameUser
      simp only [List.find?_cons, beq_self_eq_true, Function.update_self, Option.some.injEq]
        at isLatest stored
      rw [← isLatest, ← stored]
    · simp only [List.find?_cons, beq_false_of_ne (Ne.symm sameUser), Function.update_of_ne sameUser]
        at isLatest stored
      exact sound.latest userId latest isLatest entry stored
  oneTime := by
    refine pairwise_cons.mpr ⟨fun earlier present sameUser sameSecret sameCode => ?_, sound.oneTime⟩
    exact read.2.unused remembered earlier present
      (Acceptance.isOf_iff.mpr ⟨sameUser, sameSecret, sameCode⟩)

theorem codes_keeps_outcome {result : TwoFactorState × List TwoFactorTask}
    (outcome : Outcome totp state task result) (sound : CodesSound totp state)
    (read : CodeRead totp state task) (remembered : Remembered totp state task) :
    Keeps (CodesSound totp) (CodeRead totp) state result.1 result.2 := by
  cases outcome with
  | quiet plain =>
    exact ⟨sound.later rfl rfl (le_refl _), fun _ waits => waits.later rfl (le_refl _),
      fun new spawned => .of_plain (plain new spawned)⟩
  | waits => exact .of_same sound (forall_mem_singleton.mpr read)
  | lookedUp =>
    exact .of_same sound (forall_mem_singleton.mpr (codeRead_of_lookup sound remembered))
  | checked other valid =>
    exact .of_same sound (forall_mem_singleton.mpr ⟨le_refl _, read other state.now (le_refl _)⟩)
  | recorded plain =>
    exact ⟨sound.record read remembered, fun _ waits => waits.accept rfl rfl,
      fun new spawned => .of_plain (plain new spawned)⟩
  | cleared | anonymizing => exact .of_same sound (forall_mem_singleton.mpr trivial)
  | enabling free disabled | enabled | disabling free =>
    exact ⟨sound.later rfl rfl (le_refl _), fun _ waits => waits.later rfl (le_refl _),
      forall_mem_singleton.mpr trivial⟩
  | disabled | anonymized free =>
    exact ⟨sound.later rfl rfl (le_refl _), fun _ waits => waits.later rfl (le_refl _),
      forall_mem_nil _⟩

theorem codes_keeps_accept {input : TwoFactorInput} {spawned : List TwoFactorTask}
    (accepted : (twoFactorLoop totp).Accepts state input next spawned)
    (sound : CodesSound totp state) :
    Keeps (CodesSound totp) (CodeRead totp) state next spawned := by
  obtain ⟨rfl, rfl⟩ := accepted
  cases input with
  | request call | anonymizeOne userId => exact .of_same sound (forall_mem_singleton.mpr trivial)
  | configure key =>
    exact ⟨sound.later rfl rfl (le_refl _), fun _ waits => waits.later rfl (le_refl _),
      forall_mem_nil _⟩
  | tick elapsed =>
    have later : state.now ≤ state.now + elapsed := Nat.le_add_right _ _
    exact ⟨sound.later rfl rfl later, fun _ waits => waits.later rfl later, forall_mem_nil _⟩

/-- One-time codes are for one time in every run whose calls find a code that is still valid as the
last one, and are not overtaken by a call with the same code. -/
theorem codes_accepted_once {start : TwoFactorState} (noneAccepted : start.accepted = [])
    {labels : List (Label TwoFactorTask TwoFactorInput)}
    {finish : State TwoFactorState TwoFactorTask}
    (steps : Steps (Guarded (Step (twoFactorLoop totp)) (OnResume (Remembered totp))) ⟨start, []⟩
      labels finish) :
    OneTime totp finish.shared.accepted := by
  have initially : CodesSound totp start := by
    refine ⟨?_, ?_, ?_, ?_⟩
    · rw [noneAccepted]
      exact forall_mem_nil _
    · rw [noneAccepted]
      exact forall_mem_nil _
    · rw [noneAccepted]
      exact nofun
    · rw [noneAccepted]
      exact .nil
  have run : CodesSound totp finish.shared ∧ ∀ task ∈ finish.tasks, CodeRead totp finish.shared task :=
    invariant_of_steps (fun sound read remembered =>
      codes_keeps_outcome (outcome_resume totp _ _) sound read remembered)
      codes_keeps_accept initially steps
  exact run.1.oneTime

end Steps

/-- Three codes, one after the other. -/
def threeCodes : TotpSecret → Nat → TotpCode :=
  fun _ counter => ["111111", "222222", "333333"].getD (counter % 3) ""

/-- The first user has 2FA enabled, and it is the second time step. -/
def oneEnrolled : TwoFactorState where
  now := 30 * 1000
  encryptionKey := some ⟨1⟩
  users := fun userId => if userId = ⟨1⟩ then some ⟨true, some ⟨⟨1⟩, ⟨"secret"⟩⟩⟩ else none

def changeWith (code : TotpCode) : TotpCall :=
  .assertCredentialChangeTotp ⟨1⟩ (some code)

/-- A code comes back at once and is refused. -/
theorem code_refused_again : ∃ labels finish,
    Steps (Guarded (Step (twoFactorLoop threeCodes)) (OnResume (Remembered threeCodes)))
        ⟨oneEnrolled, []⟩ labels finish ∧
      finish.shared.accepted.map (·.code) = ["222222"] ∧ finish.tasks = [] ∧
      OneTime threeCodes finish.shared.accepted := by
  have first : Guarded (Step (twoFactorLoop threeCodes)) (OnResume (Remembered threeCodes))
      ⟨oneEnrolled, []⟩ (.accept (.request (changeWith "222222")))
      ⟨oneEnrolled, [.findUser (changeWith "222222")]⟩ :=
    ⟨.accept ⟨rfl, rfl⟩, trivial⟩
  have again : Guarded (Step (twoFactorLoop threeCodes)) (OnResume (Remembered threeCodes))
      ⟨oneEnrolled, [.findUser (changeWith "222222")]⟩ (.accept (.request (changeWith "222222")))
      ⟨oneEnrolled, [.findUser (changeWith "222222"), .findUser (changeWith "222222")]⟩ :=
    ⟨.accept ⟨rfl, rfl⟩, trivial⟩
  have isLast : ∀ latest, some (Acceptance.mk ⟨1⟩ ⟨"secret"⟩ "222222" (30 * 1000)) = some latest →
      latest.code = "222222" := by
    rintro latest isLatest
    rw [← Option.some.inj isLatest]
  obtain ⟨labels, steps⟩ := exists_guarded_runFirst 7 ((Steps.refl.step first).step again)
    ⟨trivial, nofun, trivial, rfl, trivial, fun _ _ _ _ => isLast, trivial, trivial⟩
  exact ⟨labels, _, steps, by decide, by decide, codes_accepted_once rfl steps⟩

/-- One code, another, and the first one again, all in one time step. The cache knows only the
second one by then. -/
theorem code_accepted_twice : ∃ labels finish,
    Steps (Step (twoFactorLoop threeCodes)) ⟨oneEnrolled, []⟩ labels finish ∧
      finish.shared.accepted.map (·.code) = ["222222", "333333", "222222"] ∧
      ¬OneTime threeCodes finish.shared.accepted := by
  obtain ⟨labels, steps⟩ := (twoFactorLoop threeCodes).exists_steps_played
    (fun state input => (input.after state, input.starts)) (fun _ _ => true) ⟨oneEnrolled, []⟩
    (fun _ _ _ => ⟨rfl, rfl⟩) .refl
    ([.accept (.request (changeWith "222222")), .accept (.request (changeWith "333333")),
      .accept (.request (changeWith "222222"))] ++ List.replicate 12 (.run 0)) rfl
  refine ⟨labels, _, steps, by decide, fun oneTime => ?_⟩
  have apart := (pairwise_cons.mp oneTime).1 ⟨⟨1⟩, ⟨"secret"⟩, "222222", 30 * 1000⟩
    (.tail _ (.head _)) rfl rfl rfl
  exact apart ⟨1, rfl, ⟨by decide, by decide⟩, by decide, by decide⟩

end Bongtalk.Auth
