import Bongtalk.Library.History
import Bongtalk.Me.AccountLifecycle

/-!
# Anonymisation and recovery

A sweep rewrites a row that it has selected before, whatever has become of the row since, and a
recovery updates a row that it has read before. No account is both active and anonymised as long
as neither of them writes over the other.
-/

namespace Bongtalk.Me

open Library EventLoop Common Prisma AccountState List

section History

variable (history : List AccountEvent) (userId : UserId)

/-- The account has been reactivated after a sweep has selected it. -/
def ReactivatedSince (selectedAfter : Nat) : Prop :=
  AccountEvent.reactivated userId ∈ history.drop selectedAfter

/-- The account has been deactivated at a time, and not reactivated since. -/
def DeactivatedAt (readAt : DateTime) : Prop :=
  Standing (· = AccountEvent.deactivated userId readAt) (· = AccountEvent.reactivated userId) history

/-- A full window has passed since the account has been deactivated. -/
def WindowPassed (now : DateTime) : Prop :=
  ∃ readAt, DeactivatedAt history userId readAt ∧ readAt + recoveryWindow < now

/-- An anonymisation has left an account that has been recovered alone, unless it was deactivated
again and the window passed. -/
def Honoured : AccountEvent → Prop
  | .anonymized userId selectedAfter readAt =>
    ReactivatedSince history userId selectedAfter → WindowPassed history userId readAt
  | _ => True

end History

/-- No account is both active and anonymised, and no recovery has been undone by a sweep. -/
structure RecoveryExcluded (state : AccountState) : Prop where
  exclusive : ∀ account ∈ state.accounts, account.isDeactivated = false →
    account.anonymizedAt = none
  honoured : EachAfter Honoured state.history

/-- No write comes too late. When a sweep rewrites an account, nobody has reactivated it since the
selection, or it has been deactivated again for longer than the window. When a recovery updates an
account, no sweep has rewritten it in the meantime. -/
def NotOvertaken (state : AccountState) : AccountTask → Prop
  | .anonymize _ selectedAfter userId _ =>
    (state.accounts.findUnique userId).isSome = true → state.placeholderTaken userId = false →
      ReactivatedSince state.history userId selectedAfter →
        WindowPassed state.history userId state.now
  | .reactivate userId =>
    ∀ account ∈ state.accounts, account.id = userId → account.anonymizedAt = none
  | _ => True

/-- The accounts that a sweep has selected and not rewritten yet, and how many events there were
when it selected them. -/
def AccountTask.selected : AccountTask → Option (Nat × List UserId)
  | .findAnon _ selectedAfter targets => some (selectedAfter, targets)
  | .nextTarget _ selectedAfter rest => some (selectedAfter, rest)
  | .deleteFiles _ selectedAfter userId _ rest | .findProfiles _ selectedAfter userId rest
  | .deleteAvatars _ selectedAfter userId _ rest | .anonymize _ selectedAfter userId rest =>
    some (selectedAfter, userId :: rest)
  | _ => none

def IsDeactivated (state : AccountState) (userId : UserId) : Prop :=
  ∀ account ∈ state.accounts, account.id = userId → account.isDeactivated = true

/-- The rows show the deactivations that nothing has undone. -/
def Recorded (state : AccountState) : Prop :=
  ∀ userId readAt, DeactivatedAt state.history userId readAt → IsDeactivated state userId

/-- What a sweep has selected is still deactivated, unless it has been reactivated. -/
def StillSelected (state : AccountState) (task : AccountTask) : Prop :=
  ∀ selectedAfter targets, task.selected = some (selectedAfter, targets) →
    selectedAfter ≤ state.history.length ∧
      ∀ userId ∈ targets, ReactivatedSince state.history userId selectedAfter ∨
        IsDeactivated state userId

/-- What a step does to the accounts: nothing, or what the event says that it logs. -/
inductive Effect (state : AccountState) : AccountState → Prop where
  | quiet {next} (accounts : next.accounts = state.accounts)
      (history : next.history = state.history) : Effect state next
  | logged {next} (event) (history : next.history = state.history ++ [event])
      (kept : ∀ userId, event ≠ .reactivated userId → IsDeactivated state userId →
        IsDeactivated next userId)
      (shown : ∀ userId readAt, event = .deactivated userId readAt → IsDeactivated next userId) :
      Effect state next

section Commits

variable {state : AccountState} {userId : UserId} {change : Account → Account}
  {keeps : ∀ account, (change account).id = account.id}

theorem mem_rewriteAccount {account : Account} :
    account ∈ (state.rewriteAccount userId change keeps).accounts ↔
      ∃ old ∈ state.accounts, (if old.id = userId then change old else old) = account :=
  mem_map

/-- Other accounts stay as they are. -/
theorem isDeactivated_rewriteAccount_of_ne {other : UserId} (isOther : other ≠ userId)
    (deactivated : IsDeactivated state other) :
    IsDeactivated (state.rewriteAccount userId change keeps) other := by
  intro account present isAccount
  obtain ⟨old, oldMem, rfl⟩ := mem_rewriteAccount.mp present
  split at isAccount
  next isOwn => exact absurd (isAccount.symm.trans ((keeps old).trans isOwn)) isOther
  next notOwn =>
    rw [if_neg notOwn]
    exact deactivated old oldMem isAccount

/-- The rows of the user after a rewrite. -/
theorem isDeactivated_rewriteAccount_self
    (sets : ∀ old ∈ state.accounts, old.id = userId → (change old).isDeactivated = true) :
    IsDeactivated (state.rewriteAccount userId change keeps) userId := by
  intro account present isAccount
  obtain ⟨old, oldMem, rfl⟩ := mem_rewriteAccount.mp present
  split at isAccount
  next isOwn =>
    rw [if_pos isOwn]
    exact sets old oldMem isOwn
  next notOwn => exact absurd isAccount notOwn

theorem isDeactivated_rewriteAccount (stays : ∀ old, old.isDeactivated = true →
      (change old).isDeactivated = true) {other : UserId} (deactivated : IsDeactivated state other) :
    IsDeactivated (state.rewriteAccount userId change keeps) other := by
  by_cases isOther : other = userId
  · subst isOther
    exact isDeactivated_rewriteAccount_self fun old oldMem isOwn =>
      stays old (deactivated old oldMem isOwn)
  · exact isDeactivated_rewriteAccount_of_ne isOther deactivated

theorem effect_commitDeactivated (state : AccountState) (userId : UserId) (wasDeactivated : Bool)
    (now : DateTime) : Effect state (state.commitDeactivated userId wasDeactivated now) := by
  rw [commitDeactivated]
  split
  · exact .quiet rfl rfl
  refine .logged (.deactivated userId now) rfl (fun other _ deactivated => ?_)
    fun other readAt isEvent => ?_
  · exact isDeactivated_rewriteAccount (fun _ _ => rfl) deactivated
  · cases isEvent
    exact isDeactivated_rewriteAccount_self fun _ _ _ => rfl

theorem effect_commitReactivated (state : AccountState) (userId : UserId) :
    Effect state (state.commitReactivated userId) := by
  rw [commitReactivated]
  split
  · exact .quiet rfl rfl
  refine .logged (.reactivated userId) rfl (fun other isOther deactivated => ?_)
    fun other readAt isEvent => ?_
  · refine isDeactivated_rewriteAccount_of_ne (fun same => ?_) deactivated
    exact isOther (congrArg _ same.symm)
  · cases isEvent

theorem effect_commitAnonymized (state : AccountState) (userId : UserId) (selectedAfter : Nat)
    (now : DateTime) : Effect state (state.commitAnonymized userId selectedAfter now) := by
  rw [commitAnonymized]
  split
  · exact .quiet rfl rfl
  refine .logged (.anonymized userId selectedAfter state.now) rfl
    (fun other _ deactivated => ?_) fun other readAt isEvent => ?_
  · have stays : ∀ old : Account, old.isDeactivated = true →
        (anonymizedUserData userId now old).isDeactivated = true := fun _ isSet => isSet
    exact isDeactivated_rewriteAccount stays deactivated
  · cases isEvent

/-- The three tasks that write. -/
def AccountTask.writes : AccountTask → Bool
  | .deactivate .. | .reactivate .. | .anonymize .. => true
  | _ => false

/-- The other tasks read, or delete files. -/
theorem resume_of_reads {verify : String → String → Bool} {task : AccountTask}
    (reads : task.writes = false) : (task.resume verify state).1 = state := by
  cases task with
  | deactivate userId wasDeactivated now | reactivate userId
  | anonymize now selectedAfter userId rest => cases reads
  | nextTarget now selectedAfter rest =>
    cases rest with
    | nil => rfl
    | cons userId rest =>
      rw [AccountTask.resume]
      split <;> rfl
  | deleteFiles now selectedAfter userId keys rest
  | deleteAvatars now selectedAfter userId keys rest => cases keys <;> rfl
  | select now | findAnon now selectedAfter targets =>
    rw [AccountTask.resume]
    split <;> rfl
  | _ => rfl

theorem effect_resume (verify : String → String → Bool) (state : AccountState)
    (task : AccountTask) : Effect state (task.resume verify state).1 := by
  cases task with
  | deactivate userId wasDeactivated now => exact effect_commitDeactivated state userId _ now
  | reactivate userId => exact effect_commitReactivated state userId
  | anonymize now selectedAfter userId rest =>
    exact effect_commitAnonymized state userId selectedAfter now
  | _ => exact .quiet (congrArg accounts (resume_of_reads rfl)) (congrArg history (resume_of_reads rfl))

end Commits

section Run

variable {verify : String → String → Bool} {state next : AccountState}

variable {userId : UserId} {new : AccountTask} {selectedAfter : Nat} {now : DateTime}
  {found : Option Account} {password : String} {totp : Except Failure Unit} {input : AccountInput}
  {spawned : List AccountTask}

theorem reactivatedSince_append_singleton_iff {history : List AccountEvent} {event : AccountEvent}
    (within : selectedAfter ≤ history.length) :
    ReactivatedSince (history ++ [event]) userId selectedAfter ↔
      ReactivatedSince history userId selectedAfter ∨ event = .reactivated userId := by
  rw [ReactivatedSince, drop_append_of_le_length within, mem_append,
    mem_singleton, eq_comm (a := AccountEvent.reactivated userId), ReactivatedSince]

theorem Recorded.of_effect (recorded : Recorded state) (effect : Effect state next) :
    Recorded next := by
  cases effect with
  | quiet accounts history =>
    intro userId readAt deactivated account present
    rw [history] at deactivated
    rw [accounts] at present
    exact recorded userId readAt deactivated account present
  | logged event history kept shown =>
    intro userId readAt deactivated
    rw [history] at deactivated
    rcases standing_append_singleton_iff.mp deactivated with isEvent | ⟨notEvent, before⟩
    · exact shown userId readAt isEvent
    · exact kept userId notEvent (recorded userId readAt before)

variable {task : AccountTask}

theorem StillSelected.of_effect (selected : StillSelected state task) (effect : Effect state next) :
    StillSelected next task := by
  intro selectedAfter targets isSelected
  obtain ⟨within, still⟩ := selected selectedAfter targets isSelected
  cases effect with
  | quiet accounts history =>
    rw [history]
    refine ⟨within, fun userId target => (still userId target).imp_right fun deactivated => ?_⟩
    intro account present
    rw [accounts] at present
    exact deactivated account present
  | logged event history kept shown =>
    rw [history, length_append]
    refine ⟨within.trans (Nat.le_add_right _ _), fun userId target => ?_⟩
    rw [reactivatedSince_append_singleton_iff within]
    by_cases isEvent : event = .reactivated userId
    · exact .inl (.inr isEvent)
    · exact (still userId target).imp .inl (kept userId isEvent)

/-- What a sweep selects is deactivated. -/
theorem isDeactivated_of_mem_targets (target : userId ∈ state.targets now) :
    IsDeactivated state userId := by
  obtain ⟨found, taken, rfl⟩ := mem_map.mp target
  have ordered := (mem_insertionSort _).mp (mem_of_mem_take taken)
  obtain ⟨foundMem, isTarget⟩ := Table.mem_findMany.mp ordered
  simp only [AccountState.isTarget, Bool.and_eq_true] at isTarget
  intro account present isAccount
  obtain rfl := Table.eq_of_key_eq present foundMem isAccount
  exact isTarget.1.1

/-- A sweep goes on with accounts that it has selected. -/
theorem StillSelected.of_sublist {task new : AccountTask} (selected : StillSelected state task)
    (fewer : ∀ selectedAfter targets, new.selected = some (selectedAfter, targets) →
      ∃ more, task.selected = some (selectedAfter, more) ∧ targets ⊆ more) :
    StillSelected state new := by
  intro selectedAfter targets isSelected
  obtain ⟨more, wasSelected, subset⟩ := fewer selectedAfter targets isSelected
  obtain ⟨within, still⟩ := selected selectedAfter more wasSelected
  exact ⟨within, fun userId target => still userId (subset target)⟩

theorem StillSelected.of_none (nothing : task.selected = none) :
    StillSelected state task := by
  intro selectedAfter targets isSelected
  rw [nothing] at isSelected
  cases isSelected

open AccountTask in
/-- The calls of users select nothing. -/
theorem selected_of_checkPassword
    (checked : checkPassword verify userId found password totp = .ok new) :
    new.selected = none := by
  unfold checkPassword at checked
  split at checked
  · cases checked
  split at checked
  · cases checked
    rfl
  · cases checked

open AccountTask in
theorem selected_of_checkCredentials
    (checked : checkCredentials verify found password totp = .ok new) : new.selected = none := by
  unfold checkCredentials at checked
  split at checked
  · cases checked
  split at checked
  · cases checked
  split at checked
  · cases checked
  cases checked
  rfl

open AccountTask in
theorem selected_of_checkWindow {found : Account} (checked : checkWindow now found = .ok new) :
    new.selected = none := by
  rw [checkWindow] at checked
  split at checked
  · cases checked
  split at checked
  · cases checked
  cases checked
  rfl

theorem stillSelected_spawned (selected : StillSelected state task) :
    ∀ new ∈ (task.resume verify state).2, StillSelected state new := by
  have goesOn {new : AccountTask} {selectedAfter : Nat} {targets more : List UserId}
      (wasSelected : task.selected = some (selectedAfter, more))
      (isSelected : new.selected = some (selectedAfter, targets)) (subset : targets ⊆ more) :
      ∀ other ∈ [new], StillSelected state other := by
    refine forall_mem_singleton.mpr (selected.of_sublist fun after others isOther => ?_)
    cases isSelected.symm.trans isOther
    exact ⟨more, wasSelected, subset⟩
  cases task with
  | findUser userId currentPassword totp =>
    exact fun new spawned => .of_none (selected_of_checkPassword (mem_proceed.mp spawned))
  | assertTotp userId wasDeactivated totp =>
    intro new spawned
    obtain ⟨_, -, rfl⟩ := map_eq_ok (mem_proceed.mp spawned)
    exact .of_none rfl
  | deactivate userId wasDeactivated now | reactivate userId => exact forall_mem_nil _
  | findByEmail email password totp =>
    exact fun new spawned => .of_none (selected_of_checkCredentials (mem_proceed.mp spawned))
  | assertRecoveryTotp found totp =>
    intro new spawned
    obtain ⟨_, -, checked⟩ := bind_eq_ok.mp (mem_proceed.mp spawned)
    exact .of_none (selected_of_checkWindow checked)
  | select now =>
    rw [AccountTask.resume]
    split
    · exact forall_mem_nil _
    refine forall_mem_singleton.mpr fun selectedAfter targets isSelected => ?_
    cases isSelected
    exact ⟨le_rfl, fun userId target => .inr (isDeactivated_of_mem_targets target)⟩
  | findAnon now selectedAfter targets =>
    rw [AccountTask.resume]
    split
    · exact goesOn rfl rfl (List.Subset.refl _)
    · exact forall_mem_nil _
  | nextTarget now selectedAfter rest =>
    cases rest with
    | nil => exact forall_mem_nil _
    | cons userId rest =>
      rw [AccountTask.resume]
      split
      · exact goesOn rfl rfl (subset_cons_self _ _)
      · exact goesOn rfl rfl (List.Subset.refl _)
  | deleteFiles now selectedAfter userId keys rest
  | deleteAvatars now selectedAfter userId keys rest =>
    cases keys with
    | nil | cons key keys => exact goesOn rfl rfl (List.Subset.refl _)
  | findProfiles now selectedAfter userId rest => exact goesOn rfl rfl (List.Subset.refl _)
  | anonymize now selectedAfter userId rest => exact goesOn rfl rfl (subset_cons_self _ _)

theorem keeps_resume (recorded : Recorded state) (selected : StillSelected state task) :
    Keeps Recorded StillSelected state (task.resume verify state).1
      (task.resume verify state).2 where
  invariant := recorded.of_effect (effect_resume verify state task)
  stable := fun _ still => still.of_effect (effect_resume verify state task)
  fresh := fun new spawned =>
    (stillSelected_spawned selected new spawned).of_effect (effect_resume verify state task)

/-- Inputs leave the accounts alone. -/
theorem accept_same (accepted : (accountLoop verify).Accepts state input next spawned) :
    next.accounts = state.accounts ∧ next.history = state.history ∧
      ∀ new ∈ spawned, new.selected = none := by
  obtain ⟨rfl, rfl⟩ := Prod.mk.inj accepted
  cases input with
  | clock now => exact ⟨rfl, rfl, forall_mem_nil _⟩
  | _ => exact ⟨rfl, rfl, forall_mem_singleton.mpr rfl⟩

theorem keeps_accept_account (accepted : (accountLoop verify).Accepts state input next spawned)
    (recorded : Recorded state) :
    Keeps Recorded StillSelected state next spawned := by
  obtain ⟨accounts, history, nothing⟩ := accept_same accepted
  exact ⟨recorded.of_effect (.quiet accounts history),
    fun _ still => still.of_effect (.quiet accounts history),
    fun new isNew => .of_none (nothing new isNew)⟩

theorem RecoveryExcluded.of_same (excluded : RecoveryExcluded state)
    (accounts : next.accounts = state.accounts) (history : next.history = state.history) :
    RecoveryExcluded next := by
  refine ⟨?_, ?_⟩
  · rw [accounts]
    exact excluded.exclusive
  · rw [history]
    exact excluded.honoured

/-- A deactivation never makes an account active. -/
theorem recoveryExcluded_commitDeactivated (excluded : RecoveryExcluded state) (userId : UserId)
    (wasDeactivated : Bool) (now : DateTime) :
    RecoveryExcluded (state.commitDeactivated userId wasDeactivated now) := by
  rw [commitDeactivated]
  split
  · exact excluded
  refine ⟨fun account present active => ?_,
    eachAfter_append_singleton_iff.mpr ⟨excluded.honoured, trivial⟩⟩
  obtain ⟨old, oldMem, rfl⟩ := mem_rewriteAccount.mp present
  split at active
  · cases active
  next notOwn =>
    rw [if_neg notOwn]
    exact excluded.exclusive old oldMem active

/-- A recovery keeps the law exactly when the row has not been anonymised. -/
theorem recoveryExcluded_commitReactivated_iff (excluded : RecoveryExcluded state)
    (userId : UserId) : RecoveryExcluded (state.commitReactivated userId) ↔
      ∀ account ∈ state.accounts, account.id = userId → account.anonymizedAt = none := by
  rw [commitReactivated]
  split
  next missing =>
    rw [Option.isNone_iff_eq_none, Table.findUnique_eq_none_iff] at missing
    exact iff_of_true excluded fun account present isAccount =>
      absurd isAccount (missing account present)
  · constructor
    · intro after account present isAccount
      have rewritten := after.exclusive _
        (mem_rewriteAccount.mpr ⟨account, present, if_pos isAccount⟩) rfl
      exact rewritten
    · intro notAnonymized
      refine ⟨fun account present active => ?_,
        eachAfter_append_singleton_iff.mpr ⟨excluded.honoured, trivial⟩⟩
      obtain ⟨old, oldMem, rfl⟩ := mem_rewriteAccount.mp present
      split at active
      next isOwn =>
        rw [if_pos isOwn]
        exact notAnonymized old oldMem isOwn
      next notOwn =>
        rw [if_neg notOwn]
        exact excluded.exclusive old oldMem active

/-- A sweep keeps the law exactly when it meets nothing that has been recovered. -/
theorem recoveryExcluded_commitAnonymized_iff (recorded : Recorded state)
    (excluded : RecoveryExcluded state)
    (still : ReactivatedSince state.history userId selectedAfter ∨ IsDeactivated state userId)
    (now : DateTime) : RecoveryExcluded (state.commitAnonymized userId selectedAfter now) ↔
      ((state.accounts.findUnique userId).isSome = true → state.placeholderTaken userId = false →
        ReactivatedSince state.history userId selectedAfter →
          WindowPassed state.history userId state.now) := by
  rw [commitAnonymized]
  split
  next fails =>
    refine iff_of_true excluded fun present free => ?_
    rw [Bool.or_eq_true, free, Option.isNone_iff_eq_none] at fails
    rcases fails with missing | taken
    · rw [missing] at present
      cases present
    · cases taken
  next succeeds =>
    rw [Bool.not_eq_true, Bool.or_eq_false_iff, ← Option.not_isSome, Bool.not_eq_false'] at succeeds
    constructor
    · intro after _ _
      exact (eachAfter_append_singleton_iff.mp after.honoured).2
    · intro notOvertaken
      have honoured := notOvertaken succeeds.1 succeeds.2
      have deactivated : IsDeactivated state userId := by
        rcases still with reactivated | deactivated
        · obtain ⟨readAt, again, -⟩ := honoured reactivated
          exact recorded userId readAt again
        · exact deactivated
      refine ⟨fun account present active => ?_,
        eachAfter_append_singleton_iff.mpr ⟨excluded.honoured, honoured⟩⟩
      obtain ⟨old, oldMem, rfl⟩ := mem_rewriteAccount.mp present
      split at active
      next isOwn =>
        have isDeactivated := deactivated old oldMem isOwn
        exact absurd (isDeactivated.symm.trans active) Bool.noConfusion
      next notOwn =>
        rw [if_neg notOwn]
        exact excluded.exclusive old oldMem active

theorem recoveryExcluded_resume_iff (recorded : Recorded state)
    (selected : StillSelected state task) (excluded : RecoveryExcluded state) :
    RecoveryExcluded (task.resume verify state).1 ↔ NotOvertaken state task := by
  cases task with
  | deactivate userId wasDeactivated now =>
    exact iff_of_true (recoveryExcluded_commitDeactivated excluded userId _ now) trivial
  | reactivate userId => exact recoveryExcluded_commitReactivated_iff excluded userId
  | anonymize now selectedAfter userId rest =>
    have still := (selected selectedAfter (userId :: rest) rfl).2 userId mem_cons_self
    exact recoveryExcluded_commitAnonymized_iff recorded excluded still now
  | _ =>
    refine iff_of_true (excluded.of_same ?_ ?_) trivial
    · exact congrArg accounts (resume_of_reads rfl)
    · exact congrArg history (resume_of_reads rfl)

/-- Anonymisation and recovery exclude each other along a run exactly when no write of the run
comes too late. -/
theorem recovery_excluded_iff (verify : String → String → Bool) {start : AccountState}
    (fresh : start.history = []) (exclusive : ∀ account ∈ start.accounts,
      account.isDeactivated = false → account.anonymizedAt = none)
    {labels : List (Label AccountTask AccountInput)} {finish : State AccountState AccountTask} :
    Steps (Lawful (Step (accountLoop verify)) fun state => RecoveryExcluded state.shared)
        ⟨start, []⟩ labels finish ↔
      Steps (Guarded (Step (accountLoop verify)) (OnResume NotOvertaken)) ⟨start, []⟩ labels
        finish := by
  have recorded : Recorded start := by
    intro userId readAt deactivated
    rw [fresh] at deactivated
    exact absurd deactivated not_standing_nil
  have excluded : RecoveryExcluded start := ⟨exclusive, fresh ▸ eachAfter_nil⟩
  refine lawful_iff_guarded (fun recorded selected => keeps_resume recorded selected)
    keeps_accept_account (fun recorded selected => recoveryExcluded_resume_iff recorded selected)
    (fun accepted excluded => ?_) recorded excluded
  obtain ⟨accounts, history, -⟩ := accept_same accepted
  exact excluded.of_same accounts history

end Run

/-- Two accounts that are deactivated, the second one for a shorter time, beside `SYSTEM_ANON`. -/
def deactivatedTwo : AccountState where
  now := 2 * recoveryWindow
  accounts :=
    { rows := [
        { id := ⟨0⟩, email := "anon", username := "anon", passwordHash := "none" },
        { id := ⟨1⟩, email := "first", username := "first", passwordHash := "secret"
          isDeactivated := true, deactivatedAt := some 0 },
        { id := ⟨2⟩, email := "second", username := "second", passwordHash := "secret"
          isDeactivated := true, deactivatedAt := some recoveryWindow }]
      keysNodup := by decide }
  attachments := [{ uploaderId := ⟨1⟩, storageKey := "file" }]
  anonId := ⟨0⟩

theorem exclusive_deactivatedTwo : ∀ account ∈ deactivatedTwo.accounts,
    account.isDeactivated = false → account.anonymizedAt = none := by
  intro account present _
  simp only [deactivatedTwo, Table.mem_def, mem_cons, not_mem_nil, or_false] at present
  rcases present with rfl | rfl | rfl <;> rfl

/-- Nothing has been reactivated since its selection, and no recovery meets an anonymised row. -/
def inTime (state : AccountState) : AccountTask → Bool
  | .anonymize _ selectedAfter userId _ =>
    !(state.history.drop selectedAfter).contains (.reactivated userId)
  | .reactivate userId =>
    state.accounts.rows.all fun account => account.id ≠ userId || account.anonymizedAt == none
  | _ => true

theorem notOvertaken_of_inTime (state : AccountState) (task : AccountTask)
    (passes : inTime state task = true) : NotOvertaken state task := by
  cases task with
  | anonymize now selectedAfter userId rest =>
    intro _ _ reactivated
    rw [inTime, Bool.not_eq_true', ← Bool.not_eq_true, contains_iff_mem] at passes
    exact absurd reactivated passes
  | reactivate userId =>
    intro account present isAccount
    have passesRow := all_eq_true.mp passes account present
    simpa [isAccount] using passesRow
  | _ => trivial

theorem accepts_account (verify : String → String → Bool) (state : AccountState)
    (input : AccountInput) :
    (accountLoop verify).Accepts state input (input.accept state).1 (input.accept state).2 :=
  rfl

/-- The sweep takes the first account while the second one is recovered. -/
theorem sweep_beside_recovery : ∃ labels finish,
    Steps (Lawful (Step (accountLoop (· == ·))) fun state => RecoveryExcluded state.shared)
        ⟨deactivatedTwo, []⟩ labels finish ∧
      finish.shared.accounts.rows.map (fun account => (account.isDeactivated, account.email)) =
        [(false, "anon"), (true, "deleted-1@deleted.qufox"), (false, "second")] := by
  exact exists_onResume_of_play ⟨deactivatedTwo, []⟩ (accepts_account _) notOvertaken_of_inTime
    (recovery_excluded_iff _ rfl exclusive_deactivatedTwo).mpr
    ([.accept (.anonymizeBatch (2 * recoveryWindow)), .run 0,
      .accept (.reactivate "second" "secret" (.ok ()))] ++
      [.run 1, .run 1, .run 0, .run 0, .run 1] ++ List.replicate 6 (.run 0)) (by decide +kernel)

/-- The second user asks for the account back in the last moment of the window. The sweep of the
next moment has selected it before the recovery is written, and anonymises it afterwards. -/
theorem recovered_account_is_anonymized : (∀ account ∈ deactivatedTwo.accounts,
      account.isDeactivated = false → account.anonymizedAt = none) ∧ ∃ labels finish,
    Steps (Step (accountLoop (· == ·))) ⟨deactivatedTwo, []⟩ labels finish ∧
      finish.shared.history = [.reactivated ⟨2⟩, .anonymized ⟨1⟩ 0 (2 * recoveryWindow + 1),
        .anonymized ⟨2⟩ 0 (2 * recoveryWindow + 1)] ∧
      ∃ account ∈ finish.shared.accounts, account.id = ⟨2⟩ ∧ account.isDeactivated = false ∧
        account.anonymizedAt ≠ none := by
  refine ⟨exclusive_deactivatedTwo, exists_steps_of_play ⟨deactivatedTwo, []⟩ (accepts_account _)
    ([.accept (.reactivate "second" "secret" (.ok ())), .run 0, .run 0,
      .accept (.clock (2 * recoveryWindow + 1)),
      .accept (.anonymizeBatch (2 * recoveryWindow + 1)), .run 1] ++ List.replicate 14 (.run 0)) ?_⟩
  simp only [Table.mem_def]
  decide +kernel

end Bongtalk.Me
