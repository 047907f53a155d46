import Bongtalk.Auth.RateLimit

/-!
# Windows of rate limits

The answers of `INCR` within one window are all different, so that no more calls pass than the limit
allows, whatever comes in between. A window gets its end from the call that has opened it and from no
other: when that call is late the window ends late, and when its process ends the window never does.
-/

namespace Bongtalk.Auth.RateLimit

open Library WindowCounter

variable {caller : Nat} {rule : RateLimitRule} {rest : List RateLimitRule}

/-- The answer that a call has got and not yet checked. -/
def Call.hit : Call → Option Hit
  | .incr _ _ => none
  | .expire hit _ => some hit
  | .ttl hit _ => some hit

def State.Holds (state : State) (caller : Nat) (hit : Hit) : Prop :=
  (state.calls caller).bind Call.hit = some hit

/-- The hits were given one and the same number of one window. -/
def Hit.Same (first second : Hit) : Prop :=
  first.window = second.window ∧ first.count = second.count

/-- What an answer of `INCR` says of the counters that are there now. -/
structure State.Counted (state : State) (hit : Hit) : Prop where
  positive : 0 < hit.count
  opened : hit.window.number < state.hits
  counted : ∀ key counter, state.redis key = some counter → counter.window = hit.window →
    hit.count ≤ counter.count

theorem State.Counted.of_same {state after : State} {hit : Hit} (counted : state.Counted hit)
    (redis : after.redis = state.redis) (hits : after.hits = state.hits) : after.Counted hit where
  positive := counted.positive
  opened := hits.symm ▸ counted.opened
  counted := redis.symm ▸ counted.counted

/-- The window of a counter has been waiting for its end since the call has opened it. -/
def State.Awaits (state : State) (hit : Hit) : Prop :=
  hit.count = 1 ∧ hit.window.length = hit.rule.duration ∧
    ∃ count, state.redis hit.rule.redisKey = some ⟨count, none, hit.window⟩

structure Invariant (state : State) : Prop where
  positive : ∀ key counter, state.redis key = some counter → 0 < counter.count
  opened : ∀ key counter, state.redis key = some counter → counter.window.number < state.hits
  apart : ∀ key other counter second, state.redis key = some counter →
    state.redis other = some second → counter.window = second.window → key = other
  passed : ∀ hit ∈ state.passed, state.Counted hit ∧ hit.count ≤ hit.rule.max
  once : state.passed.Pairwise fun first second => ¬first.Same second
  held : ∀ caller hit, state.Holds caller hit → state.Counted hit
  unpassed : ∀ caller hit, state.Holds caller hit → ∀ other ∈ state.passed, ¬hit.Same other
  single : ∀ caller other hit second, state.Holds caller hit → state.Holds other second →
    hit.Same second → caller = other
  opens : ∀ caller hit, state.Opens caller hit → state.Awaits hit

theorem invariant_initial : Invariant .initial := by
  constructor
  case passed => exact fun _ listed => absurd listed List.not_mem_nil
  case once => exact .nil
  case opens =>
    rintro caller hit ⟨rest, waits⟩
    cases waits
  all_goals
    intros
    contradiction

theorem law_initial : Law .initial where
  sound _ _ := Nat.zero_le _
  endsInTime key counter found := by cases found
  retries _ listed := absurd listed List.not_mem_nil

section Calls

variable {state : State} {other : Nat} {hit second : Hit} {call : Option Call}

theorem State.Opens.holds (opens : state.Opens caller hit) : state.Holds caller hit := by
  obtain ⟨rest, waits⟩ := opens
  rw [Holds, waits]
  rfl

theorem State.Opens.unique (opens : state.Opens caller hit) (also : state.Opens caller second) :
    hit = second := by
  obtain ⟨rest, waits⟩ := opens
  obtain ⟨others, alsoWaits⟩ := also
  rw [waits] at alsoWaits
  cases alsoWaits
  rfl

theorem hit_enter (rules : List RateLimitRule) : (enter rules).bind Call.hit = none := by
  cases rules with
  | nil => rfl
  | cons rule rest => rfl

@[simp]
theorem calls_setCall_self : (state.setCall caller call).calls caller = call :=
  Function.update_self ..

theorem calls_setCall_of_ne (apart : other ≠ caller) :
    (state.setCall caller call).calls other = state.calls other :=
  Function.update_of_ne apart ..

/-- Who holds a hit after a call has gone on. -/
theorem holds_setCall (holds : (state.setCall caller call).Holds other hit) :
    other = caller ∧ call.bind Call.hit = some hit ∨ other ≠ caller ∧ state.Holds other hit := by
  by_cases same : other = caller
  · subst same
    rw [State.Holds, calls_setCall_self] at holds
    exact .inl ⟨rfl, holds⟩
  · rw [State.Holds, calls_setCall_of_ne same] at holds
    exact .inr ⟨same, holds⟩

theorem opens_setCall (opens : (state.setCall caller call).Opens other hit) :
    (other = caller ∧ ∃ rest, call = some (.expire hit rest)) ∨
      other ≠ caller ∧ state.Opens other hit := by
  by_cases same : other = caller
  · subst same
    obtain ⟨rest, waits⟩ := opens
    rw [calls_setCall_self] at waits
    exact .inl ⟨rfl, rest, waits⟩
  · rw [State.Opens, calls_setCall_of_ne same] at opens
    exact .inr ⟨same, opens⟩

theorem opens_setCall_of_ne (opens : state.Opens other hit) (apart : other ≠ caller) :
    (state.setCall caller call).Opens other hit := by
  rw [State.Opens, calls_setCall_of_ne apart]
  exact opens

end Calls

/-- A command leaves a counter that goes on with the count that was there, or is new. -/
structure State.Rewrites (state : State) (key : String) (hits : Nat) (counter : WindowCounter) :
    Prop where
  positive : 0 < counter.count
  source : (∃ earlier, state.redis key = some earlier ∧ earlier.window = counter.window ∧
    earlier.count ≤ counter.count) ∨ counter.window.number = state.hits ∧ state.hits < hits

section Steps

variable {state : State} {hit : Hit} {key : String} {entry : Option WindowCounter} {hits : Nat}
  {counter : WindowCounter}

/-- A command on one key. -/
def State.rewrite (state : State) (key : String) (entry : Option WindowCounter) (hits : Nat) : State :=
  { state.setKey key entry with hits := hits }

@[simp]
theorem redis_rewrite_self : (state.rewrite key entry hits).redis key = entry :=
  Function.update_self ..

theorem redis_rewrite_of_ne {other : String} (apart : other ≠ key) :
    (state.rewrite key entry hits).redis other = state.redis other :=
  Function.update_of_ne apart ..

/-- Where a counter comes from that a command leaves. -/
theorem source_of_rewrite {other : String} (rewrites : ∀ counter, entry = some counter →
      state.Rewrites key hits counter)
    (held : (state.rewrite key entry hits).redis other = some counter) :
    (∃ earlier, state.redis other = some earlier ∧ earlier.window = counter.window ∧
      earlier.count ≤ counter.count) ∨
      other = key ∧ counter.window.number = state.hits ∧ state.hits < hits := by
  by_cases same : other = key
  · subst same
    obtain source | new := (rewrites counter (redis_rewrite_self.symm.trans held)).source
    · exact .inl source
    · exact .inr ⟨rfl, new⟩
  · rw [redis_rewrite_of_ne same] at held
    exact .inl ⟨counter, held, rfl, le_rfl⟩

theorem State.Counted.rewrite (counted : state.Counted hit) (grows : state.hits ≤ hits)
    (rewrites : ∀ counter, entry = some counter → state.Rewrites key hits counter) :
    (state.rewrite key entry hits).Counted hit where
  positive := counted.positive
  opened := counted.opened.trans_le grows
  counted other counter held same := by
    obtain ⟨earlier, wasHeld, sameWindow, fewer⟩ | ⟨-, new, -⟩ := source_of_rewrite rewrites held
    · exact (counted.counted other earlier wasHeld (sameWindow.trans same)).trans fewer
    · have older := counted.opened
      rw [← same, new] at older
      exact absurd older (lt_irrefl _)

variable (invariant : Invariant state)

include invariant

/-- A command keeps the invariant when the windows that wait for their end still do. -/
theorem Invariant.rewrite (grows : state.hits ≤ hits)
    (rewrites : ∀ counter, entry = some counter → state.Rewrites key hits counter)
    (awaits : ∀ caller hit, state.Opens caller hit → hit.rule.redisKey = key → ∃ count, entry = some
      ⟨count, none, hit.window⟩) :
    Invariant (state.rewrite key entry hits) where
  positive other counter held := by
    obtain ⟨earlier, wasHeld, -, fewer⟩ | ⟨rfl, -⟩ := source_of_rewrite rewrites held
    · exact (invariant.positive other earlier wasHeld).trans_le fewer
    · exact (rewrites counter (redis_rewrite_self.symm.trans held)).positive
  opened other counter held := by
    obtain ⟨earlier, wasHeld, same, -⟩ | ⟨-, new, more⟩ := source_of_rewrite rewrites held
    · rw [← same]
      exact (invariant.opened other earlier wasHeld).trans_le grows
    · rw [new]
      exact more
  apart first second counter other held alsoHeld same := by
    obtain ⟨earlier, wasHeld, earlierSame, -⟩ | ⟨rfl, new, -⟩ := source_of_rewrite rewrites held
    · obtain ⟨before, wasAlsoHeld, beforeSame, -⟩ | ⟨rfl, new, -⟩ :=
        source_of_rewrite rewrites alsoHeld
      · exact invariant.apart first second earlier before wasHeld wasAlsoHeld
          (earlierSame.trans (same.trans beforeSame.symm))
      · have older := invariant.opened first earlier wasHeld
        rw [earlierSame, same, new] at older
        exact absurd older (lt_irrefl _)
    · obtain ⟨before, wasAlsoHeld, beforeSame, -⟩ | ⟨rfl, -, -⟩ :=
        source_of_rewrite rewrites alsoHeld
      · have older := invariant.opened second before wasAlsoHeld
        rw [beforeSame, ← same, new] at older
        exact absurd older (lt_irrefl _)
      · rfl
  passed hit listed := by
    obtain ⟨counted, within⟩ := invariant.passed hit listed
    exact ⟨counted.rewrite grows rewrites, within⟩
  once := invariant.once
  held caller hit holds := (invariant.held caller hit holds).rewrite grows rewrites
  unpassed := invariant.unpassed
  single := invariant.single
  opens caller hit opens := by
    obtain ⟨first, length, count, waiting⟩ := invariant.opens caller hit opens
    refine ⟨first, length, ?_⟩
    by_cases same : hit.rule.redisKey = key
    · obtain ⟨after, isEntry⟩ := awaits caller hit opens same
      refine ⟨after, ?_⟩
      rw [same, redis_rewrite_self]
      exact isEntry
    · exact ⟨count, (redis_rewrite_of_ne same).trans waiting⟩

/-- A call goes on with a hit that is its own. -/
theorem Invariant.setCall {call : Option Call}
    (own : ∀ hit, call.bind Call.hit = some hit → state.Counted hit ∧ (∀ other ∈ state.passed,
      ¬hit.Same other) ∧ ∀ other second, other ≠ caller → state.Holds other second → ¬hit.Same
      second) (awaits : ∀ hit rest, call = some (.expire hit rest) → state.Awaits hit) :
    Invariant (state.setCall caller call) where
  positive := invariant.positive
  opened := invariant.opened
  apart := invariant.apart
  passed hit listed := by
    obtain ⟨counted, within⟩ := invariant.passed hit listed
    exact ⟨counted.of_same rfl rfl, within⟩
  once := invariant.once
  held other hit holds := by
    obtain ⟨rfl, given⟩ | ⟨-, held⟩ := holds_setCall holds
    · have counted := (own hit given).1
      exact counted.of_same rfl rfl
    · have counted := invariant.held other hit held
      exact counted.of_same rfl rfl
  unpassed other hit holds := by
    obtain ⟨rfl, given⟩ | ⟨-, held⟩ := holds_setCall holds
    · exact (own hit given).2.1
    · exact invariant.unpassed other hit held
  single first other hit second holds also same := by
    obtain ⟨rfl, given⟩ | ⟨apart, held⟩ := holds_setCall holds
    · obtain ⟨rfl, -⟩ | ⟨apart, alsoHeld⟩ := holds_setCall also
      · rfl
      · exact absurd same ((own hit given).2.2 other second apart alsoHeld)
    · obtain ⟨rfl, given⟩ | ⟨-, alsoHeld⟩ := holds_setCall also
      · exact absurd ⟨same.1.symm, same.2.symm⟩ ((own second given).2.2 first hit apart held)
      · exact invariant.single first other hit second held alsoHeld same
  opens other hit opens := by
    obtain ⟨-, rest, isCall⟩ | ⟨-, opens⟩ := opens_setCall opens
    · exact awaits hit rest isCall
    · exact invariant.opens other hit opens

/-- A call without a hit. -/
theorem Invariant.release {call : Option Call} (without : call.bind Call.hit = none) :
    Invariant (state.setCall caller call) := by
  apply invariant.setCall
  · intro hit given
    rw [without] at given
    cases given
  · rintro hit rest rfl
    cases without

/-- A call that goes on to `TTL` with its hit. -/
theorem Invariant.setTtl (holds : state.Holds caller hit) :
    Invariant (state.setCall caller (some (.ttl hit rest))) := by
  apply invariant.setCall
  · rintro _ ⟨⟩
    refine ⟨invariant.held caller hit holds, invariant.unpassed caller hit holds, ?_⟩
    intro other second apart held same
    exact apart (invariant.single caller other hit second holds held same).symm
  · rintro _ _ ⟨⟩

end Steps

section Commands

variable {rounded : Nat → Nat} {state : State} {hit : Hit}

theorem incr_rewrites : state.Rewrites rule.redisKey (state.hits + 1) (state.incr rule) := by
  cases found : WindowCounter.read state.now (state.redis rule.redisKey) with
  | none =>
    rw [State.incr, incr_of_missing found]
    exact ⟨Nat.one_pos, .inr ⟨rfl, Nat.lt_succ_self _⟩⟩
  | some counter =>
    rw [State.incr, incr_of_found found]
    have held := (read_eq_some_iff.mp found).1
    exact ⟨Nat.succ_pos _, .inl ⟨counter, held, rfl, Nat.le_succ _⟩⟩

theorem expire_rewrites {duration : Nat} (invariant : Invariant state) (counter : WindowCounter)
    (isEntry : expire state.now duration (state.redis rule.redisKey) = some counter) :
    state.Rewrites rule.redisKey state.hits counter := by
  obtain ⟨earlier, found, rfl⟩ := Option.map_eq_some_iff.mp isEntry
  have held := (read_eq_some_iff.mp found).1
  exact ⟨invariant.positive _ earlier held, .inl ⟨earlier, held, rfl, le_rfl⟩⟩

/-- A counter without an end is found whenever it is looked for. -/
theorem State.Awaits.found {count : Nat}
    (waiting : state.redis hit.rule.redisKey = some ⟨count, none, hit.window⟩) :
    WindowCounter.read state.now (state.redis hit.rule.redisKey) =
      some ⟨count, none, hit.window⟩ :=
  read_eq_some_iff.mpr ⟨waiting, alive_of_endless rfl⟩

/-- The answer of `INCR` was given to no call before. -/
theorem incr_fresh (counted : state.Counted hit) :
    ¬Hit.Same ⟨rule, (state.incr rule).count, (state.incr rule).window⟩ hit := by
  rintro ⟨sameWindow, sameCount⟩
  cases found : WindowCounter.read state.now (state.redis rule.redisKey) with
  | none =>
    rw [State.incr, incr_of_missing found] at sameWindow
    have older := counted.opened
    rw [← sameWindow] at older
    exact absurd older (lt_irrefl _)
  | some counter =>
    rw [State.incr, incr_of_found found] at sameWindow sameCount
    have held := (read_eq_some_iff.mp found).1
    have counts := counted.counted _ counter held sameWindow
    rw [← sameCount] at counts
    exact absurd counts (Nat.not_succ_le_self _)

variable (invariant : Invariant state)

include invariant

/-- The call that sees a count of 1 has opened the window. -/
theorem incr_opening (first : (state.incr rule).count = 1) :
    state.incr rule = ⟨1, none, state.opening rule⟩ := by
  cases found : WindowCounter.read state.now (state.redis rule.redisKey) with
  | none => rw [State.incr, incr_of_missing found]
  | some counter =>
    rw [State.incr, incr_of_found found] at first
    have held := (read_eq_some_iff.mp found).1
    exact absurd (Nat.succ.inj first) (invariant.positive _ counter held).ne'

theorem Invariant.count : Invariant (state.hit caller rule rest) := by
  have rewritten : Invariant (state.rewrite rule.redisKey (some (state.incr rule)) (state.hits + 1)) := by
    apply invariant.rewrite (Nat.le_succ _)
    · rintro _ ⟨⟩
      exact incr_rewrites
    · intro caller opener opens same
      obtain ⟨-, -, count, waiting⟩ := invariant.opens caller opener opens
      have found := State.Awaits.found waiting
      rw [same] at found
      exact ⟨count + 1, by rw [State.incr, incr_of_found found]⟩
  apply rewritten.setCall
  · intro given isGiven
    obtain rfl : ⟨rule, (state.incr rule).count, (state.incr rule).window⟩ = given := by
      split at isGiven <;> exact Option.some.inj isGiven
    refine ⟨⟨incr_rewrites.positive, ?_, ?_⟩, ?_, ?_⟩
    · exact rewritten.opened _ _ redis_rewrite_self
    · intro key counter held same
      obtain rfl := rewritten.apart _ _ _ _ held redis_rewrite_self same
      rw [redis_rewrite_self] at held
      exact (congrArg WindowCounter.count (Option.some.inj held)).le
    · exact fun other listed => incr_fresh (invariant.passed other listed).1
    · exact fun other second _ holds => incr_fresh (invariant.held other second holds)
  · intro given others waits
    split at waits
    · next first =>
        cases waits
        refine ⟨first, ?_, 1, ?_⟩
        · rw [incr_opening invariant first]
          rfl
        · rw [redis_rewrite_self, incr_opening invariant first]
    · cases waits

theorem Invariant.expire (waits : state.calls caller = some (.expire hit rest)) :
    Invariant (state.expire caller hit rest) := by
  have opens : state.Opens caller hit := ⟨rest, waits⟩
  have turned : Invariant (state.setCall caller (some (.ttl hit rest))) :=
    invariant.setTtl opens.holds
  apply turned.rewrite le_rfl (expire_rewrites turned)
  -- Nobody else waits to set the end of this window.
  intro other second alsoOpens same
  obtain ⟨-, rest, isCall⟩ | ⟨apart, alsoOpens⟩ := opens_setCall alsoOpens
  · cases isCall
  · obtain ⟨first, -, count, waiting⟩ := invariant.opens caller hit opens
    obtain ⟨alsoFirst, -, others, alsoWaiting⟩ := invariant.opens other second alsoOpens
    rw [same, waiting] at alsoWaiting
    have sameWindow := congrArg window (Option.some.inj alsoWaiting)
    have sameHit : second.Same hit := ⟨sameWindow.symm, alsoFirst.trans first.symm⟩
    exact absurd (invariant.single other caller second hit alsoOpens.holds opens.holds sameHit) apart

/-- A hit within bounds passes. -/
theorem Invariant.pass (waits : state.calls caller = some (.ttl hit rest))
    (within : hit.count ≤ hit.rule.max) :
    Invariant { state.setCall caller (enter rest) with passed := hit :: state.passed } := by
  have holds : state.Holds caller hit := by
    rw [State.Holds, waits]
    rfl
  have left : Invariant (state.setCall caller (enter rest)) := invariant.release (hit_enter rest)
  have gone : ∀ other second, (state.setCall caller (enter rest)).Holds other second →
      other ≠ caller ∧ state.Holds other second := by
    intro other second alsoHolds
    obtain ⟨-, given⟩ | stays := holds_setCall alsoHolds
    · rw [hit_enter] at given
      cases given
    · exact stays
  refine ⟨left.positive, left.opened, left.apart, ?_, ?_, ?_, ?_, left.single, ?_⟩
  · have counted := invariant.held caller hit holds
    rintro other (_ | ⟨_, listed⟩)
    · exact ⟨counted.of_same rfl rfl, within⟩
    · obtain ⟨counted, within⟩ := left.passed other listed
      exact ⟨counted.of_same rfl rfl, within⟩
  · exact .cons (invariant.unpassed caller hit holds) invariant.once
  · intro other second alsoHolds
    have counted := left.held other second alsoHolds
    exact counted.of_same rfl rfl
  · intro other second alsoHolds
    obtain ⟨apart, held⟩ := gone other second alsoHolds
    rintro earlier (_ | ⟨_, listed⟩)
    · exact fun same => apart (invariant.single other caller second hit held holds same)
    · exact invariant.unpassed other second held earlier listed
  · exact left.opens

theorem Invariant.reject (rejection : Rejection) :
    Invariant { state.setCall caller none with rejected := rejection :: state.rejected } := by
  have left : Invariant (state.setCall caller none) := invariant.release rfl
  refine ⟨left.positive, left.opened, left.apart, ?_, left.once, ?_, left.unpassed, left.single,
    left.opens⟩
  · intro hit listed
    obtain ⟨counted, within⟩ := left.passed hit listed
    exact ⟨counted.of_same rfl rfl, within⟩
  · intro other second holds
    have counted := left.held other second holds
    exact counted.of_same rfl rfl

theorem Invariant.tick (elapsed : Nat) :
    Invariant { state with now := state.now + elapsed } := by
  refine ⟨invariant.positive, invariant.opened, invariant.apart, ?_, invariant.once, ?_,
    invariant.unpassed, invariant.single, invariant.opens⟩
  · intro hit listed
    obtain ⟨counted, within⟩ := invariant.passed hit listed
    exact ⟨counted.of_same rfl rfl, within⟩
  · intro caller hit holds
    have counted := invariant.held caller hit holds
    exact counted.of_same rfl rfl

theorem Invariant.next (event : Event) :
    Invariant (next rounded state event) := by
  cases event with
  | enforce caller rules =>
    unfold RateLimit.next
    dsimp only
    split
    · exact invariant
    · exact invariant.release (hit_enter rules)
  | stop caller => exact invariant.release rfl
  | tick elapsed => exact invariant.tick elapsed
  | proceed caller =>
    change Invariant (state.proceed rounded caller)
    unfold State.proceed
    split
    · exact invariant
    · exact invariant.count
    · next waits => exact invariant.expire waits
    · next waits =>
        unfold State.check
        split
        · exact invariant.reject _
        · next within => exact invariant.pass waits (Nat.le_of_not_lt within)

end Commands

end Bongtalk.Auth.RateLimit
