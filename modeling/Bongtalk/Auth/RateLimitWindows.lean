import Bongtalk.Auth.RateLimitRuns

/-!
# When rate limits keep their promise

No window lets more calls through than its limit. A window ends in time, and a call that was refused
may come back after the delay it was told, exactly in the runs in which no window is left without its
end and no answer is rounded down.
-/

namespace Bongtalk.Auth.RateLimit

open Library WindowCounter List

variable {state : State} {hit : Hit} {rounded : Nat → Nat}

/-- The answers of one window that have passed are different numbers up to the limit. -/
theorem Invariant.sound (invariant : Invariant state) : Sound state := by
  intro window limit
  rw [countP_eq_length_filter]
  have part := filter_sublist (l := state.passed)
    (p := fun hit => decide (hit.window = window ∧ hit.rule.max = limit))
  have apart := invariant.once.sublist part
  rw [← length_map Hit.count]
  apply length_le_of_nodup
  · refine pairwise_map.mpr (apart.imp_of_mem ?_)
    intro first second listed alsoListed different sameCount
    have ofWindow := of_decide_eq_true (mem_filter.mp listed).2
    have alsoOfWindow := of_decide_eq_true (mem_filter.mp alsoListed).2
    exact different ⟨ofWindow.1.trans alsoOfWindow.1.symm, sameCount⟩
  · intro number listed
    obtain ⟨hit, isPassed, rfl⟩ := mem_map.mp listed
    exact (invariant.passed hit (mem_filter.mp isPassed).1).1.positive
  · intro number listed
    obtain ⟨hit, isPassed, rfl⟩ := mem_map.mp listed
    obtain ⟨wasPassed, ofWindow⟩ := mem_filter.mp isPassed
    rw [← (of_decide_eq_true ofWindow).2]
    exact (invariant.passed hit wasPassed).2

section Ends

variable {counter : WindowCounter} {caller : Nat} {rule : RateLimitRule} {rest : List RateLimitRule}
  {call : Option Call}

theorem State.ends_some {expiresAt : Nat} (isEnd : counter.expiresAt = some expiresAt) :
    state.Ends counter ↔ expiresAt ≤ counter.window.deadline := by
  rw [Ends, isEnd]

theorem State.ends_none (endless : counter.expiresAt = none) :
    state.Ends counter ↔ state.now = counter.window.openedAt ∧
      ∃ caller hit, state.Opens caller hit ∧ hit.window = counter.window := by
  rw [Ends, endless]

/-- A window still ends when only calls have gone on that are not about to set its end. -/
theorem State.Ends.of_opens {after : State} (ends : state.Ends counter)
    (now : after.now = state.now)
    (opens : ∀ caller hit, state.Opens caller hit → hit.window = counter.window →
      after.Opens caller hit) : after.Ends counter := by
  cases isEnd : counter.expiresAt with
  | some expiresAt => exact (ends_some isEnd).mpr ((ends_some isEnd).mp ends)
  | none =>
    obtain ⟨inTime, caller, hit, isOpening, same⟩ := (ends_none isEnd).mp ends
    exact (ends_none isEnd).mpr ⟨now.trans inTime, caller, hit, opens caller hit isOpening same, same⟩

theorem EndsInTime.setCall (inTime : EndsInTime state) (idle : ∀ hit, ¬state.Opens caller hit) :
    EndsInTime (state.setCall caller call) := by
  intro key counter found
  refine (inTime key counter found).of_opens rfl ?_
  intro other hit opens _
  apply opens_setCall_of_ne opens
  rintro rfl
  exact idle hit opens

/-- A process may end only when its call is not about to set an end. -/
theorem endsInTime_stop_iff (invariant : Invariant state) (inTime : EndsInTime state) :
    EndsInTime (state.setCall caller none) ↔ ∀ hit, ¬state.Opens caller hit := by
  refine ⟨?_, inTime.setCall⟩
  intro inTime hit opens
  obtain ⟨-, -, count, waiting⟩ := invariant.opens caller hit opens
  obtain ⟨-, other, second, alsoOpens, same⟩ :=
    (State.ends_none rfl).mp (inTime _ _ (State.Awaits.found waiting))
  obtain ⟨-, rest, isCall⟩ | ⟨apart, alsoOpens⟩ := opens_setCall alsoOpens
  · cases isCall
  · have first := (invariant.opens caller hit opens).1
    have alsoFirst := (invariant.opens other second alsoOpens).1
    exact apart (invariant.single other caller second hit alsoOpens.holds opens.holds
      ⟨same, alsoFirst.trans first.symm⟩)

/-- Time may pass only when no window waits for its end. -/
theorem endsInTime_tick_iff (invariant : Invariant state) (inTime : EndsInTime state)
    {elapsed : Nat} :
    EndsInTime { state with now := state.now + elapsed } ↔
      (0 < elapsed → ∀ caller hit, ¬state.Opens caller hit) := by
  constructor
  · intro later passes caller hit opens
    obtain ⟨-, -, count, waiting⟩ := invariant.opens caller hit opens
    have alive : Alive (state.now + elapsed) ⟨count, none, hit.window⟩ :=
      alive_of_endless rfl
    have found := read_eq_some_iff.mpr ⟨waiting, alive⟩
    have atFirst := ((State.ends_none rfl).mp (inTime _ _ (State.Awaits.found waiting))).1
    have atLast : state.now + elapsed = hit.window.openedAt :=
      ((State.ends_none rfl).mp (later _ _ found)).1
    dsimp only at atFirst
    omega
  · intro idle key counter found
    have before : WindowCounter.read state.now (state.redis key) = some counter :=
      read_of_le found (Nat.le_add_right _ _)
    obtain rfl | passes := Nat.eq_zero_or_pos elapsed
    · exact inTime key counter before
    cases isEnd : counter.expiresAt with
    | some expiresAt =>
      exact (State.ends_some isEnd).mpr ((State.ends_some isEnd).mp (inTime key counter before))
    | none =>
      obtain ⟨-, caller, hit, opens, -⟩ := (State.ends_none isEnd).mp (inTime key counter before)
      exact absurd opens (idle passes caller hit)

theorem EndsInTime.count (inTime : EndsInTime state)
    (waits : state.calls caller = some (.incr rule rest)) :
    EndsInTime (state.hit caller rule rest) := by
  have idle : ∀ other hit, state.Opens other hit → other ≠ caller := by
    rintro other hit ⟨others, opens⟩ rfl
    rw [waits] at opens
    cases opens
  have stays : ∀ {counter : WindowCounter}, state.Ends counter →
      (state.hit caller rule rest).Ends counter := by
    intro counter ends
    exact ends.of_opens rfl fun other hit opens _ => opens_setCall_of_ne opens (idle other hit opens)
  intro key counter found
  by_cases same : key = rule.redisKey
  · subst same
    obtain rfl : state.incr rule = counter :=
      Option.some.inj ((Function.update_self rule.redisKey _ state.redis).symm.trans
        (read_eq_some_iff.mp found).1)
    cases before : WindowCounter.read state.now (state.redis rule.redisKey) with
    | none =>
      have opened : state.incr rule = ⟨1, none, state.opening rule⟩ :=
        incr_of_missing before
      rw [opened]
      refine (State.ends_none rfl).mpr ⟨rfl, caller, ⟨rule, 1, state.opening rule⟩, ⟨rest, ?_⟩, rfl⟩
      rw [State.hit, calls_setCall_self, opened]
      rfl
    | some earlier =>
      have counted : state.incr rule = { earlier with count := earlier.count + 1 } :=
        incr_of_found before
      rw [counted]
      exact stays (inTime _ earlier before)
  · have unchanged : (state.hit caller rule rest).redis key = state.redis key :=
      Function.update_of_ne same ..
    rw [unchanged] at found
    exact stays (inTime key counter found)

/-- The end is set in the moment in which the window was opened. -/
theorem EndsInTime.expire (inTime : EndsInTime state) (invariant : Invariant state)
    (waits : state.calls caller = some (.expire hit rest)) :
    EndsInTime (state.expire caller hit rest) := by
  have opens : state.Opens caller hit := ⟨rest, waits⟩
  obtain ⟨-, length, count, waiting⟩ := invariant.opens caller hit opens
  have before := State.Awaits.found waiting
  have atFirst := ((State.ends_none rfl).mp (inTime _ _ before)).1
  intro key counter found
  by_cases same : key = hit.rule.redisKey
  · subst same
    have isEntry : WindowCounter.expire state.now hit.rule.duration
        (state.redis hit.rule.redisKey) = some counter :=
      (Function.update_self hit.rule.redisKey _ state.redis).symm.trans
        (WindowCounter.read_eq_some_iff.mp found).1
    rw [WindowCounter.expire_of_found before] at isEntry
    cases isEntry
    apply (State.ends_some rfl).mpr
    dsimp only at atFirst ⊢
    rw [Window.deadline, length, atFirst]
  · have unchanged : (state.expire caller hit rest).redis key = state.redis key :=
      Function.update_of_ne same ..
    rw [unchanged] at found
    refine (inTime key counter found).of_opens rfl ?_
    intro other second alsoOpens sameWindow
    apply opens_setCall_of_ne alsoOpens
    rintro rfl
    obtain rfl := opens.unique alsoOpens
    have held := (WindowCounter.read_eq_some_iff.mp found).1
    exact same (invariant.apart _ _ _ _ held waiting sameWindow.symm)

end Ends

theorem toNat_max_natCast (seconds : Nat) : (max (seconds : Int) 1).toNat = max seconds 1 := by
  omega

/-- What is found once the delay is over. -/
theorem read_after_delay {counter : WindowCounter} :
    WindowCounter.read (state.now + (max (state.ttl rounded hit) 1).toNat * 1000)
        (state.redis hit.rule.redisKey) = some counter ↔
      WindowCounter.read state.now (state.redis hit.rule.redisKey) = some counter ∧
        ∀ expiresAt, counter.expiresAt = some expiresAt →
          max (rounded (expiresAt - state.now)) 1 * 1000 < expiresAt - state.now := by
  rw [State.ttl, ttl]
  constructor
  · intro found
    have before := read_of_le found (Nat.le_add_right _ _)
    refine ⟨before, ?_⟩
    intro expiresAt isEnd
    have alive := (read_eq_some_iff.mp found).2 expiresAt isEnd
    rw [before] at alive
    simp only [isEnd, toNat_max_natCast] at alive
    omega
  · rintro ⟨found, late⟩
    obtain ⟨held, -⟩ := read_eq_some_iff.mp found
    refine read_eq_some_iff.mpr ⟨held, ?_⟩
    intro expiresAt isEnd
    have after := late expiresAt isEnd
    simp only [found, isEnd, toNat_max_natCast]
    omega

/-- A refused call may come back after the delay exactly when it was answered in full. -/
theorem rejection_admits_iff :
    (state.rejection rounded hit).AdmitsAfterDelay ↔ state.Answers rounded hit := by
  have admits : (state.rejection rounded hit).AdmitsAfterDelay ↔ 0 < hit.rule.max ∧
      ∀ counter, WindowCounter.read (state.now + (max (state.ttl rounded hit) 1).toNat * 1000)
        (state.redis hit.rule.redisKey) = some counter → counter.count < hit.rule.max := by
    refine ⟨?_, ?_⟩
    · exact fun admitted => incr_count_le_iff.mp (admitted ⟨0, 0, 0⟩)
    · exact fun room opening => incr_count_le_iff.mpr room
  rw [admits]
  refine and_congr_right fun _ => forall_congr' fun counter => ?_
  rw [read_after_delay, and_imp]
  refine imp_congr_right fun _ => ?_
  cases isEnd : counter.expiresAt with
  | none => simp
  | some expiresAt =>
    simp only [Option.some.injEq, forall_eq', exists_eq_left', ← not_lt]
    tauto

theorem Law.of_same {after : State} (law : Law state) (invariant : Invariant after)
    (endsInTime : EndsInTime after) (rejected : after.rejected = state.rejected) : Law after :=
  ⟨invariant.sound, endsInTime, rejected ▸ law.retries⟩

theorem Guard.of_ne_ttl {caller : Nat}
    (elsewhere : ∀ hit rest, state.calls caller ≠ some (.ttl hit rest)) :
    Guard rounded state (.proceed caller) :=
  fun hit rest waits => absurd waits (elsewhere hit rest)

/-- A call that is checked passes, or is refused with an answer. -/
theorem law_check_iff {caller : Nat} {hit : Hit} {rest : List RateLimitRule}
    (invariant : Invariant state) (law : Law state)
    (waits : state.calls caller = some (.ttl hit rest)) :
    Law (state.check rounded caller hit rest) ↔
      (hit.rule.max < hit.count → state.Answers rounded hit) := by
  have idle : ∀ second, ¬state.Opens caller second := by
    rintro second ⟨others, opens⟩
    rw [waits] at opens
    cases opens
  unfold State.check
  split
  · next beyond =>
      constructor
      · intro after _
        exact rejection_admits_iff.mp (after.retries _ mem_cons_self)
      · intro answers
        refine ⟨(invariant.reject _).sound, law.endsInTime.setCall idle, ?_⟩
        rintro rejection (_ | ⟨_, listed⟩)
        · exact rejection_admits_iff.mpr (answers beyond)
        · exact law.retries rejection listed
  · next within =>
      refine iff_of_true ?_ fun beyond => absurd beyond within
      refine law.of_same (invariant.pass waits (Nat.le_of_not_lt within)) ?_ rfl
      exact law.endsInTime.setCall idle

theorem law_proceed_iff {caller : Nat} (invariant : Invariant state) (law : Law state) :
    Law (state.proceed rounded caller) ↔ Guard rounded state (.proceed caller) := by
  unfold State.proceed
  split
  · next idle =>
      refine iff_of_true law (Guard.of_ne_ttl ?_)
      intro hit rest waits
      rw [idle] at waits
      cases waits
  · next rule rest waits =>
      refine iff_of_true (law.of_same invariant.count (law.endsInTime.count waits) rfl)
        (Guard.of_ne_ttl ?_)
      intro hit others alsoWaits
      rw [waits] at alsoWaits
      cases alsoWaits
  · next hit rest waits =>
      refine iff_of_true
        (law.of_same (invariant.expire waits) (law.endsInTime.expire invariant waits) rfl)
        (Guard.of_ne_ttl ?_)
      intro second others alsoWaits
      rw [waits] at alsoWaits
      cases alsoWaits
  · next hit rest waits =>
      rw [law_check_iff invariant law waits]
      constructor
      · intro answers second others alsoWaits
        rw [waits] at alsoWaits
        cases alsoWaits
        exact answers
      · exact fun guarded => guarded hit rest waits

/-- An event keeps the law exactly when it keeps to the guard. -/
theorem law_next_iff (invariant : Invariant state) (law : Law state) (event : Event) :
    Law (next rounded state event) ↔ Guard rounded state event := by
  have after : Invariant (next rounded state event) := invariant.next event
  cases event with
  | enforce caller rules =>
    refine iff_of_true ?_ trivial
    unfold next at after ⊢
    dsimp only at after ⊢
    split at after
    · next busy => rwa [if_pos busy]
    next free =>
      rw [if_neg free]
      refine law.of_same after (law.endsInTime.setCall ?_) rfl
      rintro hit ⟨rest, waits⟩
      rw [waits] at free
      exact free rfl
  | stop caller =>
    rw [Guard, ← endsInTime_stop_iff invariant law.endsInTime]
    exact ⟨Law.endsInTime, fun inTime => law.of_same after inTime rfl⟩
  | tick elapsed =>
    rw [Guard, ← endsInTime_tick_iff invariant law.endsInTime]
    exact ⟨Law.endsInTime, fun inTime => law.of_same after inTime rfl⟩
  | proceed caller => exact law_proceed_iff invariant law

/-- A rate limit keeps its promise in every state of a run exactly when each window gets its end in
the moment in which it is opened and each call that is refused is answered in full. -/
theorem kept_iff_guarded {labels : List Event} {finish : State} :
    Steps (Lawful (Step rounded) Law) .initial labels finish ↔
      Steps (Guarded (Step rounded) (Guard rounded)) .initial labels finish := by
  refine Steps.lawful_iff_guarded Invariant ?_ ?_ invariant_initial law_initial
  · rintro state event _ rfl invariant
    exact invariant.next event
  · rintro state event _ rfl invariant law
    exact law_next_iff invariant law event

/-- However the calls are interleaved and wherever they stop, no window lets more calls through than
the limit. -/
theorem limits_hold {labels : List Event} {finish : State}
    (steps : Steps (Step rounded) .initial labels finish) : Sound finish := by
  have invariant : Invariant finish := by
    apply steps.preserves Invariant ?_ invariant_initial
    rintro state event _ rfl invariant
    exact invariant.next event
  exact invariant.sound

theorem one_login_passes : ∃ finish : State, finish.passed.length = 1 ∧ Sound finish := by
  have taken : ∀ state event, Step id state event (next id state event) := fun _ _ => rfl
  have steps := Steps.of_foldl taken .initial
    [.enforce 0 [⟨"login:ip:1", 60, 1⟩], .proceed 0, .proceed 0, .proceed 0]
  exact ⟨_, by decide, limits_hold steps⟩

/-- A window that is open is not past its deadline. -/
theorem EndsInTime.le_deadline (inTime : EndsInTime state) {counter : WindowCounter}
    (found : WindowCounter.read state.now (state.redis key) = some counter) :
    state.now ≤ counter.window.deadline := by
  have ends := inTime key counter found
  cases isEnd : counter.expiresAt with
  | some expiresAt =>
    have alive := (read_eq_some_iff.mp found).2 expiresAt isEnd
    exact alive.le.trans ((State.ends_some isEnd).mp ends)
  | none =>
    rw [((State.ends_none isEnd).mp ends).1]
    exact Nat.le_add_right _ _

/-- The nearest full second. -/
def nearestSecond (left : Nat) : Nat :=
  (left + 500) / 1000

/-- A process ends between `INCR` and `EXPIRE`; an hour later another call comes. -/
def lockout : List Event :=
  [.enforce 0 [⟨"login:ip:1", 60, 1⟩], .proceed 0, .stop 0, .tick 3600000,
    .enforce 1 [⟨"login:ip:1", 60, 1⟩], .proceed 1, .proceed 1]

/-- The key still rejects then, with the advice to come back in a second. -/
theorem locked_out : ∃ finish, Steps (Step nearestSecond) .initial lockout finish ∧
    finish.rejected.map (·.error) = [⟨"rate limited: login:ip:1", 1⟩] ∧ ¬EndsInTime finish ∧
    ¬∀ rejection ∈ finish.rejected, rejection.AdmitsAfterDelay := by
  have taken : ∀ state event, Step nearestSecond state event (next nearestSecond state event) :=
    fun state event => rfl
  have steps := Steps.of_foldl taken .initial lockout
  refine ⟨_, steps, by decide, ?_, ?_⟩
  · intro inTime
    have found : WindowCounter.read (lockout.foldl (next nearestSecond) .initial).now
        ((lockout.foldl (next nearestSecond) .initial).redis "rl:login:ip:1") =
          some ⟨2, none, ⟨0, 0, 60000⟩⟩ := by decide
    exact absurd (inTime.le_deadline found) (by decide)
  · intro admits
    exact absurd (admits _ mem_cons_self ⟨0, 0, 0⟩) (by decide)

end Bongtalk.Auth.RateLimit
