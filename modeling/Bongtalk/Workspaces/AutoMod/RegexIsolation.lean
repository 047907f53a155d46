import Bongtalk.Library.System
import Bongtalk.Workspaces.AutoMod.RegexRunner

/-!
# Requests that disturb each other

What a request returns should depend on its own patterns and text only. It does, unless a
handler that closes all pending requests runs while it is pending, its watchdog fires before
the worker has come to it, or no worker is there.
-/

namespace Bongtalk.Workspaces.AutoMod

open Library Runner Function CallState

variable {engine : RegexEngine}

/-- What a request should return, given its own patterns and text: the match when the evaluation
finishes in time, and the timeout otherwise. -/
def verdict (engine : RegexEngine) (request : MatchRequest) : MatchResult :=
  if request.sources.length = 0 then ⟨none, false⟩
  else if engine.withinWatchdog request then ⟨handleMatch engine request, false⟩
  else ⟨none, true⟩

/-- Every call that has returned has returned its own verdict. -/
def Isolated (engine : RegexEngine) (runner : Runner) : Prop :=
  ∀ callId request result, runner.calls callId = .returned request result →
    result = verdict engine request

/-- An event after which all calls that have returned have returned their own verdicts. -/
def KeepsApart (engine : RegexEngine) : Runner → Event → Runner → Prop :=
  Lawful (Happens engine) (Isolated engine)

/-- A request is pending. -/
def Runner.Pending (runner : Runner) (request : MatchRequest) : Prop :=
  ∃ callId id worker delayed, runner.calls callId = .racing request id worker delayed

/-- The condition on an event: a call that finds no worker matches nothing, a watchdog fires only
for a request that takes too long, and the handlers that close all pending requests run only while
the pending ones match nothing. -/
def Event.Fits (engine : RegexEngine) (runner : Runner) : Event → Prop
  | .call _ request spawns =>
    request.sources.length ≠ 0 → (runner.ensureMatchWorker spawns).2 = none →
      verdict engine request = ⟨none, false⟩
  | .watchdog callId => ∀ request id worker delayed,
      runner.calls callId = .racing request id worker delayed →
        verdict engine request = ⟨none, true⟩
  | .probeWatchdog _ | .error _ | .exit _ =>
    ∀ request, runner.Pending request → verdict engine request = ⟨none, false⟩
  | _ => True

/-- The request and the id of a call that races. -/
def CallState.race : CallState → Option (MatchRequest × Nat)
  | .racing request id _ _ => some (request, id)
  | _ => none

/-- A message to match a request is on its way to some worker. -/
def Runner.Sent (runner : Runner) (id : Nat) (request : MatchRequest) : Prop :=
  ∃ worker thread, runner.workers worker = some thread ∧
    WorkerRequest.match id request ∈ thread.queue

/-- The map holds the calls that race, and a message under the id of one carries its request. -/
structure Runner.Consistent (runner : Runner) : Prop where
  pending : ∀ id callId, runner.pending id = some callId ↔
    ∃ request, (runner.calls callId).race = some (request, id)
  fresh : ∀ id callId, runner.pending id = some callId → id ≤ runner.reqSeq
  sent : ∀ id request, runner.Sent id request → id ≤ runner.reqSeq ∧
    ∀ callId own, (runner.calls callId).race = some (own, id) → own = request

section Invariant

variable {runner next : Runner}

variable {state : CallState}

theorem CallState.race_eq_some {request : MatchRequest} {id : Nat} :
    state.race = some (request, id) ↔ ∃ worker delayed, state = .racing request id worker delayed := by
  cases state with
  | racing own ownId worker delayed | absent | awaiting | returned => simp [race]

/-- Dropping races, entries of the map and messages keeps the rest consistent. -/
theorem Runner.Consistent.restrict (consistent : runner.Consistent)
    (race : ∀ callId request id, (next.calls callId).race = some (request, id) →
      (runner.calls callId).race = some (request, id))
    (pending : ∀ id callId, next.pending id = some callId ↔
      runner.pending id = some callId ∧ ∃ request, (next.calls callId).race = some (request, id))
    (sent : ∀ id request, next.Sent id request → runner.Sent id request)
    (reqSeq : runner.reqSeq ≤ next.reqSeq) : next.Consistent where
  pending := by
    intro id callId
    rw [pending, and_iff_right_iff_imp]
    rintro ⟨request, races⟩
    exact (consistent.pending id callId).mpr ⟨request, race callId request id races⟩
  fresh := by
    intro id callId present
    exact Nat.le_trans (consistent.fresh id callId ((pending id callId).mp present).1) reqSeq
  sent := by
    intro id request isSent
    obtain ⟨old, same⟩ := consistent.sent id request (sent id request isSent)
    exact ⟨Nat.le_trans old reqSeq, fun callId own races => same callId own (race callId own id races)⟩

/-- What leaves calls and map alone keeps them consistent if it adds no message. -/
theorem Runner.Consistent.of_sent (consistent : runner.Consistent)
    (calls : next.calls = runner.calls) (pending : next.pending = runner.pending)
    (sent : ∀ id request, next.Sent id request → runner.Sent id request)
    (reqSeq : runner.reqSeq ≤ next.reqSeq) : next.Consistent := by
  refine consistent.restrict ?_ ?_ sent reqSeq
  · rw [calls]
    exact fun _ _ _ races => races
  · intro id callId
    rw [calls, pending, iff_self_and]
    exact (consistent.pending id callId).mp

/-- A change of one worker adds no message when its new queue holds old ones only. -/
theorem Runner.sent_of_update {worker : WorkerId} {changed : Option WorkerThread}
    (workers : next.workers = update runner.workers worker changed)
    (queue : ∀ thread, changed = some thread → ∀ id request,
      WorkerRequest.match id request ∈ thread.queue → runner.Sent id request)
    (id : Nat) (request : MatchRequest) (isSent : next.Sent id request) :
    runner.Sent id request := by
  obtain ⟨holder, thread, found, queued⟩ := isSent
  rw [workers] at found
  by_cases same : holder = worker
  · subst same
    rw [update_self] at found
    exact queue thread found id request queued
  · rw [update_of_ne same] at found
    exact ⟨holder, thread, found, queued⟩

/-- A worker that keeps its messages sends nothing new. -/
theorem Runner.sent_of_map {worker : WorkerId} {change : WorkerThread → WorkerThread}
    (workers : next.workers = update runner.workers worker ((runner.workers worker).map change))
    (kept : ∀ thread id request, WorkerRequest.match id request ∈ (change thread).queue →
      WorkerRequest.match id request ∈ thread.queue)
    (id : Nat) (request : MatchRequest) (isSent : next.Sent id request) :
    runner.Sent id request := by
  refine sent_of_update workers ?_ id request isSent
  rintro thread changed id request queued
  obtain ⟨before, found, rfl⟩ := Option.map_eq_some_iff.mp changed
  exact ⟨worker, before, found, kept before id request queued⟩

variable (consistent : runner.Consistent)

include consistent

/-- A call that does not race before or after a change of its state leaves the map right. -/
theorem Runner.Consistent.of_quiet {callId : CallId} (before : (runner.calls callId).race = none)
    (after : state.race = none) (calls : next.calls = update runner.calls callId state)
    (pending : next.pending = runner.pending)
    (sent : ∀ id request, next.Sent id request → runner.Sent id request)
    (reqSeq : runner.reqSeq ≤ next.reqSeq) : next.Consistent := by
  have same : ∀ other, (next.calls other).race = (runner.calls other).race := by
    intro other
    rw [calls]
    by_cases isCall : other = callId
    · subst isCall
      rw [update_self, after, before]
    · rw [update_of_ne isCall]
  refine consistent.restrict ?_ ?_ sent reqSeq
  · intro other request id races
    rwa [same other] at races
  · intro id other
    rw [same other, pending, iff_self_and]
    exact (consistent.pending id other).mp

/-- A race that ends takes its entry of the map along. -/
theorem Runner.Consistent.of_closed {callId : CallId} {request : MatchRequest} {id : Nat}
    (before : (runner.calls callId).race = some (request, id)) (after : state.race = none)
    (calls : next.calls = update runner.calls callId state)
    (pending : next.pending = update runner.pending id none)
    (sent : ∀ id request, next.Sent id request → runner.Sent id request)
    (reqSeq : runner.reqSeq ≤ next.reqSeq) : next.Consistent := by
  refine consistent.restrict ?_ ?_ sent reqSeq
  · intro other own otherId races
    rw [calls] at races
    by_cases isCall : other = callId
    · subst isCall
      rw [update_self, after] at races
      cases races
    · rwa [update_of_ne isCall] at races
  · intro otherId other
    rw [calls, pending]
    have holds : runner.pending id = some callId := (consistent.pending id callId).mpr ⟨_, before⟩
    by_cases isCall : other = callId
    · subst isCall
      rw [update_self, after]
      constructor
      · intro present
        by_cases isId : otherId = id
        · subst isId
          rw [update_self] at present
          cases present
        · rw [update_of_ne isId] at present
          obtain ⟨own, races⟩ := (consistent.pending otherId other).mp present
          exact absurd (Prod.mk.inj (Option.some.inj (races.symm.trans before))).2 isId
      · rintro ⟨-, own, races⟩
        cases races
    · rw [update_of_ne isCall]
      by_cases isId : otherId = id
      · subst isId
        rw [update_self, holds]
        constructor
        · intro present
          cases present
        · rintro ⟨present, -⟩
          exact absurd (Option.some.inj present).symm isCall
      · rw [update_of_ne isId, iff_self_and]
        exact (consistent.pending otherId other).mp

/-- When all pending requests are closed, nothing races any more. -/
theorem Runner.Consistent.race_failed (callId : CallId) :
    (failed runner.pending callId (runner.calls callId)).race = none := by
  cases state : runner.calls callId with
  | racing request id worker delayed =>
    have holds : runner.pending id = some callId :=
      (consistent.pending id callId).mpr ⟨request, by rw [state]; rfl⟩
    rw [failed, if_pos holds]
    rfl
  | absent | awaiting | returned => rfl

theorem Runner.Consistent.of_failed (calls : next.calls = runner.failAllPending.calls)
    (pending : next.pending = fun _ => none)
    (sent : ∀ id request, next.Sent id request → runner.Sent id request)
    (reqSeq : runner.reqSeq ≤ next.reqSeq) : next.Consistent := by
  have quiet : ∀ callId, (next.calls callId).race = none := by
    intro callId
    rw [calls]
    exact consistent.race_failed callId
  refine consistent.restrict ?_ ?_ sent reqSeq
  · intro callId request id races
    rw [quiet callId] at races
    cases races
  · intro id callId
    simp [pending, quiet callId]

end Invariant

section Events

variable {runner : Runner}

theorem Runner.ensureMatchWorker_calls (spawns : Bool) :
    (runner.ensureMatchWorker spawns).1.calls = runner.calls ∧
      (runner.ensureMatchWorker spawns).1.pending = runner.pending ∧
      (runner.ensureMatchWorker spawns).1.reqSeq = runner.reqSeq := by
  unfold ensureMatchWorker
  split
  · exact ⟨rfl, rfl, rfl⟩
  split_ifs
  · exact ⟨rfl, rfl, rfl⟩
  · exact ⟨rfl, rfl, rfl⟩
  · exact ⟨rfl, rfl, rfl⟩

/-- A fresh worker has no messages. -/
theorem Runner.sent_of_ensure (spawns : Bool) (id : Nat) (request : MatchRequest)
    (isSent : (runner.ensureMatchWorker spawns).1.Sent id request) : runner.Sent id request := by
  unfold ensureMatchWorker at isSent
  split at isSent
  · exact isSent
  split_ifs at isSent
  · exact isSent
  · refine sent_of_update rfl ?_ id request isSent
    rintro thread isFresh id request queued
    cases isFresh
    cases queued
  · exact isSent

variable (consistent : runner.Consistent)

include consistent

theorem Runner.Consistent.ensure (spawns : Bool) :
    (runner.ensureMatchWorker spawns).1.Consistent := by
  obtain ⟨calls, pending, reqSeq⟩ := runner.ensureMatchWorker_calls spawns
  exact consistent.of_sent calls pending (sent_of_ensure spawns) (Nat.le_of_eq reqSeq.symm)

variable {callId : CallId}

/-- A call that starts does not race yet. -/
theorem Runner.Consistent.match_ (absent : runner.calls callId = .absent) (request : MatchRequest)
    (spawns : Bool) :
    (runner.match_ callId request spawns).Consistent := by
  have before : (runner.calls callId).race = none := by
    rw [absent]
    rfl
  unfold Runner.match_
  split
  · exact consistent.of_quiet before rfl rfl rfl (fun _ _ isSent => isSent) (Nat.le_refl _)
  obtain ⟨calls, pending, reqSeq⟩ := runner.ensureMatchWorker_calls spawns
  have sent : ∀ id other, (runner.ensureMatchWorker spawns).1.Sent id other →
      runner.Sent id other := Runner.sent_of_ensure spawns
  split
  next found =>
    rw [found] at calls pending reqSeq sent
    exact consistent.of_quiet before rfl (by rw [← calls]; rfl) pending sent (Nat.le_of_eq reqSeq.symm)
  next found =>
    rw [found] at calls pending reqSeq sent
    exact consistent.of_quiet before rfl (by rw [← calls]) pending sent (Nat.le_of_eq reqSeq.symm)

/-- The message of a call carries the request of the call, under a new id. -/
theorem Runner.Consistent.post {request : MatchRequest} {worker : WorkerId}
    (awaiting : runner.calls callId = .awaiting request worker) :
    (runner.post callId request worker).Consistent := by
  have before : (runner.calls callId).race = none := by
    rw [awaiting]
    rfl
  have calls : (runner.post callId request worker).calls = update runner.calls callId
      (.racing request (runner.reqSeq + 1) worker (!runner.idle worker)) := rfl
  have pending : (runner.post callId request worker).pending =
      update runner.pending (runner.reqSeq + 1) (some callId) := rfl
  have raceSelf : ((runner.post callId request worker).calls callId).race =
      some (request, runner.reqSeq + 1) := by
    rw [calls, update_self]
    rfl
  have raceOther : ∀ other, other ≠ callId → ((runner.post callId request worker).calls other).race =
      (runner.calls other).race := by
    intro other different
    rw [calls, update_of_ne different]
  -- The new id is above every id that is in use.
  have unused : ∀ other own, (runner.calls other).race ≠ some (own, runner.reqSeq + 1) := by
    intro other own races
    have small := consistent.fresh _ _ ((consistent.pending _ other).mpr ⟨own, races⟩)
    omega
  have sent : ∀ id own, (runner.post callId request worker).Sent id own →
      runner.Sent id own ∨ (id = runner.reqSeq + 1 ∧ own = request) := by
    rintro id own ⟨holder, thread, found, queued⟩
    change update runner.workers worker _ holder = some thread at found
    by_cases same : holder = worker
    · subst same
      rw [update_self] at found
      obtain ⟨old, isOld, rfl⟩ := Option.map_eq_some_iff.mp found
      split at queued
      · exact .inl ⟨holder, old, isOld, queued⟩
      rcases List.mem_append.mp queued with earlier | isNew
      · exact .inl ⟨holder, old, isOld, earlier⟩
      · exact .inr (by simpa using isNew)
    · rw [update_of_ne same] at found
      exact .inl ⟨holder, thread, found, queued⟩
  constructor
  · intro id other
    rw [pending]
    by_cases isNew : id = runner.reqSeq + 1
    · subst isNew
      rw [update_self]
      constructor
      · intro isCall
        cases isCall
        exact ⟨request, raceSelf⟩
      · rintro ⟨own, races⟩
        by_cases isCall : other = callId
        · rw [isCall]
        rw [raceOther other isCall] at races
        exact absurd races (unused other own)
    · rw [update_of_ne isNew, consistent.pending]
      by_cases isCall : other = callId
      · subst isCall
        rw [before, raceSelf]
        simp [Ne.symm isNew]
      · rw [raceOther other isCall]
  · intro id other present
    rw [pending] at present
    change id ≤ runner.reqSeq + 1
    by_cases isNew : id = runner.reqSeq + 1
    · exact Nat.le_of_eq isNew
    rw [update_of_ne isNew] at present
    have old := consistent.fresh id other present
    omega
  · intro id own isSent
    change id ≤ runner.reqSeq + 1 ∧ _
    rcases sent id own isSent with isOld | ⟨rfl, rfl⟩
    · obtain ⟨small, same⟩ := consistent.sent id own isOld
      refine ⟨by omega, fun other other_own races => ?_⟩
      by_cases isCall : other = callId
      · subst isCall
        rw [raceSelf] at races
        have isNew := (Prod.mk.inj (Option.some.inj races)).2
        omega
      · rw [raceOther other isCall] at races
        exact same other other_own races
    · refine ⟨Nat.le_refl _, fun other other_own races => ?_⟩
      by_cases isCall : other = callId
      · subst isCall
        rw [raceSelf] at races
        exact (Prod.mk.inj (Option.some.inj races)).1.symm
      · rw [raceOther other isCall] at races
        exact absurd races (unused other other_own)

theorem Runner.Consistent.timeOut {request : MatchRequest} {id : Nat} {worker : WorkerId}
    {delayed : Bool} (racing : runner.calls callId = .racing request id worker delayed) :
    (runner.timeOut callId request id worker).Consistent := by
  have races : (runner.calls callId).race = some (request, id) := by
    rw [racing]
    rfl
  refine consistent.of_closed races rfl rfl rfl ?_ (Nat.le_refl _)
  exact sent_of_map rfl fun _ _ _ queued => queued

theorem Runner.Consistent.validateSingleProbe (probeId : ProbeId) (source probe : String)
    (spawns : Bool) :
    (runner.validateSingleProbe engine probeId source probe spawns).Consistent := by
  have ensured := consistent.ensure spawns
  unfold Runner.validateSingleProbe
  split
  next found =>
    rw [found] at ensured
    exact ensured.of_sent rfl rfl (fun _ _ isSent => isSent) (Nat.le_refl _)
  next found =>
    rw [found] at ensured
    refine ensured.of_sent rfl rfl ?_ (Nat.le_succ _)
    refine Runner.sent_of_map rfl fun thread id request queued => ?_
    split at queued
    · exact queued
    · simpa using queued

/-- The answer to a message ends the race of its call, if that is still on. -/
theorem Runner.Consistent.onMessage (worker : WorkerId) (message : WorkerRequest) :
    (runner.onMessage engine worker message).Consistent := by
  cases message with
  | «match» id request =>
    unfold Runner.onMessage
    dsimp only
    split
    · exact consistent
    next callId present =>
        obtain ⟨own, races⟩ := (consistent.pending id callId).mp present
        refine consistent.of_closed races ?_ rfl rfl (fun _ _ isSent => isSent) (Nat.le_refl _)
        obtain ⟨at_, delayed, state⟩ := race_eq_some.mp races
        rw [state]
        rfl
  | validate id source probe =>
    exact consistent.of_sent rfl rfl (fun _ _ isSent => isSent) (Nat.le_refl _)

/-- Every event keeps the runner consistent. -/
theorem Runner.Consistent.after {event : Event} (enabled : runner.Enabled engine event) :
    (runner.after engine event).Consistent := by
  have unsent : ∀ id request, runner.Sent id request → runner.Sent id request :=
    fun _ _ isSent => isSent
  cases event with
  | call callId request spawns => exact consistent.match_ enabled request spawns
  | ready callId =>
    obtain ⟨request, worker, awaiting⟩ := enabled
    simp only [Runner.after, awaiting]
    exact consistent.post awaiting
  | watchdog callId =>
    obtain ⟨request, id, worker, delayed, racing, -⟩ := enabled
    simp only [Runner.after, racing]
    exact consistent.timeOut racing
  | ensure spawns => exact consistent.ensure spawns
  | probe probeId source probe spawns =>
    exact consistent.validateSingleProbe probeId source probe spawns
  | probeWatchdog probeId =>
    obtain ⟨id, worker, probing⟩ := enabled
    simp only [Runner.after, probing]
    exact consistent.of_failed rfl rfl (sent_of_map rfl fun _ _ _ queued => queued) (Nat.le_refl _)
  | online worker =>
    exact consistent.of_sent rfl rfl (sent_of_map rfl fun _ _ _ queued => queued) (Nat.le_refl _)
  | message worker =>
    unfold Runner.after
    dsimp only
    split
    next first rest online terminated found =>
      apply Consistent.onMessage
      refine consistent.of_sent rfl rfl (sent_of_update rfl ?_) (Nat.le_refl _)
      rintro thread changed id request queued
      cases changed
      exact ⟨worker, _, found, List.mem_cons_of_mem _ queued⟩
    · exact consistent
  | error worker => exact consistent.of_failed rfl rfl unsent (Nat.le_refl _)
  | exit worker =>
    refine consistent.of_failed rfl rfl (sent_of_update rfl ?_) (Nat.le_refl _)
    intro thread gone
    cases gone

end Events

section Isolation

variable {runner next : Runner}

/-- A request that is evaluated in time returns its match. -/
theorem verdict_of_within {request : MatchRequest} (within : engine.withinWatchdog request = true) :
    verdict engine request = ⟨handleMatch engine request, false⟩ := by
  by_cases empty : request.sources.length = 0
  · rw [verdict, if_pos empty, handleMatch, List.length_eq_zero_iff.mp empty]
    rfl
  · rw [verdict, if_neg empty, if_pos within]

section

variable (isolated : Isolated engine runner)

include isolated

/-- A change of one call keeps the calls apart when what it returns is its verdict. -/
theorem isolated_update_iff {callId : CallId} {state : CallState}
    (calls : next.calls = update runner.calls callId state) :
    Isolated engine next ↔
      ∀ request result, state = .returned request result → result = verdict engine request := by
  constructor
  · intro isolatedNext request result returned
    apply isolatedNext callId request result
    rw [calls, update_self, returned]
  · intro own other request result returned
    rw [calls] at returned
    by_cases isCall : other = callId
    · subst isCall
      rw [update_self] at returned
      exact own request result returned
    · rw [update_of_ne isCall] at returned
      exact isolated other request result returned

/-- A call that does not return keeps the calls apart. -/
theorem isolated_of_update {callId : CallId} {state : CallState}
    (calls : next.calls = update runner.calls callId state)
    (open_ : ∀ request result, state ≠ .returned request result) : Isolated engine next :=
  (isolated_update_iff isolated calls).mpr fun request result returned =>
    absurd returned (open_ request result)

theorem isolated_of_calls (calls : next.calls = runner.calls) : Isolated engine next := by
  intro callId request result returned
  rw [calls] at returned
  exact isolated callId request result returned

omit isolated in
/-- Closing all pending requests keeps the calls apart when all of them match nothing. -/
theorem isolated_failed_iff (consistent : runner.Consistent) (isolated : Isolated engine runner)
    (calls : next.calls = runner.failAllPending.calls) :
    Isolated engine next ↔
      ∀ request, runner.Pending request → verdict engine request = ⟨none, false⟩ := by
  have closed : ∀ callId request id worker delayed,
      runner.calls callId = .racing request id worker delayed →
        next.calls callId = .returned request ⟨none, false⟩ := by
    intro callId request id worker delayed racing
    have holds : runner.pending id = some callId :=
      (consistent.pending id callId).mpr ⟨request, by rw [racing]; rfl⟩
    rw [calls]
    change failed runner.pending callId (runner.calls callId) = _
    rw [racing, failed, if_pos holds]
  constructor
  · rintro isolatedNext request ⟨callId, id, worker, delayed, racing⟩
    exact (isolatedNext callId request _ (closed callId request id worker delayed racing)).symm
  · intro matchNothing callId request result returned
    cases state : runner.calls callId with
    | racing own id worker delayed =>
      rw [closed callId own id worker delayed state] at returned
      obtain ⟨rfl, rfl⟩ := CallState.returned.inj returned
      exact (matchNothing own ⟨callId, id, worker, delayed, state⟩).symm
    | returned own other =>
      rw [calls] at returned
      change failed runner.pending callId (runner.calls callId) = _ at returned
      rw [state] at returned
      exact isolated callId request result (state.trans returned)
    | absent | awaiting =>
      rw [calls] at returned
      change failed runner.pending callId (runner.calls callId) = _ at returned
      rw [state] at returned
      cases returned

/-- A call keeps apart unless it finds no worker and should match something. -/
theorem isolated_match_iff (callId : CallId) (request : MatchRequest) (spawns : Bool) :
    Isolated engine (runner.match_ callId request spawns) ↔
      (request.sources.length ≠ 0 → (runner.ensureMatchWorker spawns).2 = none →
        verdict engine request = ⟨none, false⟩) := by
  unfold match_
  split
  next empty =>
    rw [isolated_update_iff isolated rfl]
    refine iff_of_true ?_ fun nonempty => absurd empty nonempty
    intro own result returned
    cases returned
    rw [verdict, if_pos empty]
  next nonempty =>
    have ensured : Isolated engine (runner.ensureMatchWorker spawns).1 :=
      isolated_of_calls isolated (runner.ensureMatchWorker_calls spawns).1
    split
    next found =>
      rw [found] at ensured ⊢
      rw [isolated_update_iff ensured rfl]
      simp only [ne_eq, nonempty, not_false_eq_true, forall_const]
      constructor
      · intro own
        exact (own request _ rfl).symm
      · intro matchesNothing own result returned
        cases returned
        exact matchesNothing.symm
    next found =>
      rw [found] at ensured ⊢
      refine iff_of_true (isolated_of_update ensured rfl ?_) fun _ missing => ?_
      · intro own result returned
        cases returned
      · cases missing

end

/-- An answer is the verdict of the request that it answers. -/
theorem isolated_onMessage (consistent : runner.Consistent) (isolated : Isolated engine runner)
    {worker : WorkerId} {message : WorkerRequest}
    (carries : ∀ id request, message = .match id request → ∀ callId own,
      (runner.calls callId).race = some (own, id) → own = request)
    (answers : ∀ id request, message = .match id request →
      engine.withinWatchdog request = true ∨ runner.pending id = none) :
    Isolated engine (runner.onMessage engine worker message) := by
  cases message with
  | validate id source probe => exact isolated_of_calls isolated rfl
  | «match» id request =>
    unfold onMessage
    dsimp only
    split
    · exact isolated
    next callId present =>
      rw [isolated_update_iff isolated rfl]
      obtain ⟨own, races⟩ := (consistent.pending id callId).mp present
      obtain ⟨at_, delayed, state⟩ := race_eq_some.mp races
      have same : own = request := carries id request rfl callId own races
      have within : engine.withinWatchdog request = true := by
        rcases answers id request rfl with within | late
        · exact within
        rw [present] at late
        cases late
      intro other result returned
      rw [state] at returned
      cases returned
      rw [same, verdict_of_within within]

/-- An event keeps the calls apart exactly when it fits. -/
theorem isolated_after_iff (consistent : runner.Consistent) (isolated : Isolated engine runner)
    {event : Event} (enabled : runner.Enabled engine event) :
    Isolated engine (runner.after engine event) ↔ event.Fits engine runner := by
  cases event with
  | call callId request spawns => exact isolated_match_iff isolated callId request spawns
  | ready callId =>
    obtain ⟨request, worker, awaiting⟩ := enabled
    simp only [Runner.after, awaiting]
    refine iff_of_true (isolated_of_update isolated rfl ?_) trivial
    intro own result returned
    cases returned
  | watchdog callId =>
    obtain ⟨request, id, worker, delayed, racing, -⟩ := enabled
    simp only [Runner.after, racing]
    rw [isolated_update_iff isolated rfl]
    constructor
    · intro own other otherId at_ otherDelayed otherRacing
      cases racing.symm.trans otherRacing
      exact (own request _ rfl).symm
    · intro fits own result returned
      cases returned
      exact (fits request id worker delayed racing).symm
  | ensure spawns =>
    exact iff_of_true (isolated_of_calls isolated (runner.ensureMatchWorker_calls spawns).1) trivial
  | probe probeId source probe spawns =>
    refine iff_of_true (isolated_of_calls isolated ?_) trivial
    have calls := (runner.ensureMatchWorker_calls spawns).1
    simp only [Runner.after, validateSingleProbe]
    split
    next found =>
      rw [found] at calls
      exact calls
    next found =>
      rw [found] at calls
      exact calls
  | probeWatchdog probeId =>
    obtain ⟨id, worker, probing⟩ := enabled
    simp only [Runner.after, probing]
    exact isolated_failed_iff consistent isolated rfl
  | online worker => exact iff_of_true (isolated_of_calls isolated rfl) trivial
  | message worker =>
    refine iff_of_true ?_ trivial
    obtain ⟨thread, found, answers⟩ := (Option.any_eq_true _ _).mp enabled
    unfold Runner.after
    dsimp only
    split
    next first rest online terminated isThread =>
      cases isThread.symm.trans found
      have shorter : Consistent { runner with
          workers := update runner.workers worker (some ⟨rest, online, terminated⟩) } := by
        refine consistent.of_sent rfl rfl (sent_of_update rfl ?_) (Nat.le_refl _)
        rintro changed isChanged id request queued
        cases isChanged
        exact ⟨worker, _, found, List.mem_cons_of_mem _ queued⟩
      apply isolated_onMessage shorter (isolated_of_calls isolated rfl)
      · rintro id request rfl callId own races
        exact (consistent.sent id request ⟨worker, _, found, List.mem_cons_self⟩).2 callId own races
      · rintro id request rfl
        simpa [mayAnswer] using answers
    · exact isolated
  | error worker | exit worker => exact isolated_failed_iff consistent isolated rfl

end Isolation

/-- In the runs whose events all fit, and in no others, each call returns what its own patterns and
text say. -/
theorem regex_verdicts_isolated_iff (engine : RegexEngine) {events : List Event} {finish : Runner} :
    Steps (KeepsApart engine) {} events finish ↔
      Steps (Guarded (Happens engine) fun runner event => event.Fits engine runner) {} events
        finish := by
  refine Steps.lawful_iff_guarded Consistent ?_ ?_ ?_ ?_
  · rintro runner event next ⟨enabled, rfl⟩ consistent
    exact consistent.after enabled
  · rintro runner event next ⟨enabled, rfl⟩ consistent isolated
    exact isolated_after_iff consistent isolated enabled
  · constructor
    · simp [race]
    · simp
    · rintro id request ⟨worker, thread, found, -⟩
      cases found
  · intro callId request result returned
    cases returned

/-- Patterns that match themselves; `(a+)+$` takes too long. -/
def literalEngine : RegexEngine where
  test source content := some (source == content)
  withinWatchdog request := request.sources != ["(a+)+$"]

def slowRequest : MatchRequest where
  sources := ["(a+)+$"]
  content := "aaaaaaaaaaaaaaaaaaaaaa!"

def matchingRequest : MatchRequest where
  sources := ["spam"]
  content := "spam"

/-- The slow request times out and the next one goes to a new worker; then the `exit` event of the
first worker is handled. -/
def lateExit : List Event :=
  [.call ⟨1⟩ slowRequest true, .online ⟨0⟩, .ready ⟨1⟩, .watchdog ⟨1⟩,
    .call ⟨2⟩ matchingRequest true, .online ⟨1⟩, .ready ⟨2⟩, .exit ⟨0⟩]

/-- A request that is evaluated in time, by an idle worker, returns no match because an earlier
request timed out on another worker. -/
theorem match_lost_to_late_exit : ∃ finish,
    Steps (Happens literalEngine) {} lateExit finish ∧
      literalEngine.withinWatchdog matchingRequest = true ∧
      handleMatch literalEngine matchingRequest = some "spam" ∧
      finish.calls ⟨2⟩ = .returned matchingRequest ⟨none, false⟩ ∧ ¬Isolated literalEngine finish := by
  have allowed : Steps.AllAllowed (Runner.after · literalEngine)
      (fun runner event => runner.Enabled literalEngine event) {} lateExit :=
    ⟨rfl, rfl, ⟨_, _, rfl⟩, ⟨_, _, _, _, rfl, .inl (by decide)⟩, rfl, rfl, ⟨_, _, rfl⟩, rfl, trivial⟩
  have returned : (lateExit.foldl (Runner.after · literalEngine) {}).calls ⟨2⟩ =
      .returned matchingRequest ⟨none, false⟩ := rfl
  refine ⟨_, Steps.of_allAllowed (fun _ _ enabled => ⟨enabled, rfl⟩) allowed, by decide, by decide,
    returned, fun isolated => ?_⟩
  have lost := isolated ⟨2⟩ matchingRequest _ returned
  exact absurd lost (by decide)

end Bongtalk.Workspaces.AutoMod
