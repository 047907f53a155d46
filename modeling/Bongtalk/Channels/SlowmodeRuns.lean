import Bongtalk.Channels.Slowmode

/-!
# Cooldowns and messages

Requests that create messages are a window apart, since each of them has started a cooldown. The
other way round a cooldown need not come from a message: it is also started by a
request that is refused or answered with an earlier message behind the gate, and it turns away the
repetition of the very request that has started it.
-/

namespace Bongtalk.Channels.Slowmode

open Library Channels.Permission Messages Messaging Phase Function
open Prisma

variable {World : Type}

/-- What a cooldown is kept for. -/
def SendRequest.target (request : SendRequest) : ChannelId × UserId :=
  (request.args.channelId, request.args.authorId)

/-- A request that repeats another under its idempotency key. -/
def SendRequest.Replays (request original : SendRequest) : Prop :=
  request.args.content = original.args.content ∧
    ∃ key, validateIdempotencyKey request.idempotencyHeader = .ok (some key) ∧
      validateIdempotencyKey original.idempotencyHeader = .ok (some key)

section Law

variable (slowmodeSeconds : ChannelId → Nat) (runtime : Runtime World)
variable (gate : Gate World)

/-- A request under slowmode has passed the gate. -/
def Gate.Passed (id : RequestId) (request : SendRequest) (time : Nat) : Prop :=
  (gate.phases id).pass = some (request, time) ∧ request.Gated slowmodeSeconds

/-- Another request of the user to the channel has created its message, or is about to, and has
passed the gate within the window; the request does not repeat it. -/
def Gate.Deserved (request : SendRequest) (time : Nat) : Prop :=
  ∃ other original passedAt, (gate.phases other).accepted = some (original, passedAt) ∧
    original.Gated slowmodeSeconds ∧ original.target = request.target ∧ passedAt ≤ time ∧
    time < passedAt + window slowmodeSeconds request.args.channelId ∧ ¬request.Replays original

/-- Slowmode measures accepted messages. -/
structure Measured : Prop where
  spaced : ∀ first second request other firstTime secondTime messageId otherMessage,
    gate.phases first = .created request firstTime messageId →
    gate.phases second = .created other secondTime otherMessage →
    first ≠ second → request.Gated slowmodeSeconds → other.Gated slowmodeSeconds →
    request.target = other.target →
      firstTime + window slowmodeSeconds request.args.channelId ≤ secondTime ∨
        secondTime + window slowmodeSeconds request.args.channelId ≤ firstTime
  deserved : ∀ id request time holder,
    (gate.phases id).turnedAway = some (request, time, holder) →
      gate.Deserved slowmodeSeconds request time

/-- The holder of a cooldown accepts its request, which is not the one that is turned away. -/
def Gate.Deserves (request : SendRequest) (holder : RequestId) : Prop :=
  ∃ original passedAt, (gate.phases holder).accepted = some (original, passedAt) ∧
    ¬request.Replays original

/-- The header is good, the message is new and it passes the checks, the rules and the
transaction. -/
def SendRequest.Creates (request : SendRequest) (store : Store World) (call : SendCall)
    (mentionScopes : MentionScopePermissions) : Prop :=
  ∃ key, validateIdempotencyKey request.idempotencyHeader = .ok key ∧
    let args := request.sendArgs key mentionScopes
    cachedMessage store args call = none ∧ validate runtime store args = .ok () ∧
      ∃ contentPlain world messages,
        runtime.enforce store.world args (gatedMentions runtime store args) =
          (.ok contentPlain, world) ∧
        sendTransaction store.messages
          (args.row call store (gatedMentions runtime store args) contentPlain) = .ok messages

/-- The condition on a step: the cooldown that turns a request away belongs to a request that is not
refused or answered from the store and is not repeated by it, and a request whose cooldown
has turned another away creates its message. -/
def Event.Fits : Event → Prop
  | .probe _ request => request.Gated slowmodeSeconds → ∀ cooldown,
      gate.running request.args.channelId request.args.authorId = some cooldown →
        gate.Deserves request cooldown.holder
  | .claim id => ∀ request, gate.phases id = .clear request → ∀ cooldown,
      gate.running request.args.channelId request.args.authorId = some cooldown →
        gate.Deserves request cooldown.holder
  | .serve id call mentionScopes => ∀ request time, gate.phases id = .passed request time →
      (∃ other away awayTime, (gate.phases other).turnedAway = some (away, awayTime, id)) →
        request.Creates runtime gate.store call mentionScopes
  | _ => True

/-- A request was turned away within the window of a cooldown. -/
def Gate.Held (request : SendRequest) (time : Nat) (holder : RequestId) : Prop :=
  ∃ original passedAt, gate.Passed slowmodeSeconds holder original passedAt ∧
    original.target = request.target ∧ passedAt ≤ time ∧
    time < passedAt + window slowmodeSeconds request.args.channelId

/-- The cooldown of a user is that of the last request to pass, and all others are a window
before it. -/
structure Gate.Sound : Prop where
  holder : ∀ channelId userId cooldown, gate.cooldowns channelId userId = some cooldown →
    ∃ request time, gate.Passed slowmodeSeconds cooldown.holder request time ∧
      request.target = (channelId, userId) ∧
      cooldown.expiresAt = time + window slowmodeSeconds channelId
  latest : ∀ id request time, gate.Passed slowmodeSeconds id request time → ∃ cooldown,
    gate.cooldowns request.args.channelId request.args.authorId = some cooldown ∧
      time + window slowmodeSeconds request.args.channelId ≤ cooldown.expiresAt
  past : ∀ id request time, gate.Passed slowmodeSeconds id request time → time ≤ gate.now
  spaced : ∀ first second request other firstTime secondTime,
    gate.Passed slowmodeSeconds first request firstTime →
    gate.Passed slowmodeSeconds second other secondTime → first ≠ second →
    request.target = other.target →
      firstTime + window slowmodeSeconds request.args.channelId ≤ secondTime ∨
        secondTime + window slowmodeSeconds request.args.channelId ≤ firstTime
  held : ∀ id request time holder, (gate.phases id).turnedAway = some (request, time, holder) →
    gate.Held slowmodeSeconds request time holder

end Law

section Invariant

variable {slowmodeSeconds : ChannelId → Nat} {runtime : Runtime World} {gate next : Gate World}

theorem running_eq_some_iff {channelId : ChannelId} {userId : UserId} {cooldown : Cooldown} :
    gate.running channelId userId = some cooldown ↔
      gate.cooldowns channelId userId = some cooldown ∧ gate.now < cooldown.expiresAt := by
  simp [Gate.running, Option.filter_eq_some_iff]

variable {phase : Phase} {event : Event} {answer : SendRequest × Nat}

theorem pass_of_accepted (accepted : phase.accepted = some answer) : phase.pass = some answer := by
  cases phase with
  | passed | created => exact accepted
  | absent | clear | beaten | rejected | replayed | refused => cases accepted

theorem turnedAway_of_pass (pass : phase.pass = some answer) : phase.turnedAway = none := by
  cases phase with
  | passed | created | replayed | refused => rfl
  | absent | clear | beaten | rejected => cases pass

section

variable (sound : gate.Sound slowmodeSeconds)

include sound

/-- Whoever finds a cooldown is held by its holder. -/
theorem Gate.Sound.held_of_running {request : SendRequest} {cooldown : Cooldown}
    (running : gate.running request.args.channelId request.args.authorId = some cooldown) :
    gate.Held slowmodeSeconds request gate.now cooldown.holder := by
  obtain ⟨stored, notExpired⟩ := running_eq_some_iff.mp running
  obtain ⟨original, passedAt, passed, target, expires⟩ := sound.holder _ _ _ stored
  exact ⟨original, passedAt, passed, target, sound.past _ _ _ passed, by omega⟩

/-- Where no cooldown runs, all who have passed are a window back. -/
theorem Gate.Sound.back_of_not_running {request original : SendRequest}
    (rest : gate.running request.args.channelId request.args.authorId = none) {id : RequestId}
    {time : Nat} (passed : gate.Passed slowmodeSeconds id original time)
    (target : original.target = request.target) :
    time + window slowmodeSeconds request.args.channelId ≤ gate.now := by
  obtain ⟨cooldown, stored, later⟩ := sound.latest _ _ _ passed
  obtain ⟨channel, author⟩ := Prod.mk.inj target
  rw [channel, author] at stored
  rw [channel] at later
  by_contra early
  have running := running_eq_some_iff.mpr ⟨stored, (by omega : gate.now < cooldown.expiresAt)⟩
  rw [rest] at running
  cases running

/-- A step after which the same requests have passed. -/
theorem Gate.Sound.mono
    (passed : ∀ id request time, next.Passed slowmodeSeconds id request time ↔ gate.Passed
      slowmodeSeconds id request time) (cooldowns : next.cooldowns = gate.cooldowns)
    (now : gate.now ≤ next.now)
    (away : ∀ id request time holder, (next.phases id).turnedAway = some (request, time, holder) →
      (gate.phases id).turnedAway = some (request, time, holder) ∨ gate.Held slowmodeSeconds request
      time holder) : next.Sound slowmodeSeconds where
  holder := by
    intro channelId userId cooldown stored
    rw [cooldowns] at stored
    obtain ⟨request, time, was, rest⟩ := sound.holder _ _ _ stored
    exact ⟨request, time, (passed _ _ _).mpr was, rest⟩
  latest := by
    intro id request time is
    rw [cooldowns]
    exact sound.latest _ _ _ ((passed _ _ _).mp is)
  past := by
    intro id request time is
    exact (sound.past _ _ _ ((passed _ _ _).mp is)).trans now
  spaced := by
    intro first second request other firstTime secondTime firstIs secondIs
    exact sound.spaced _ _ _ _ _ _ ((passed _ _ _).mp firstIs) ((passed _ _ _).mp secondIs)
  held := by
    intro id request time holder turned
    have held : gate.Held slowmodeSeconds request time holder := by
      rcases away _ _ _ _ turned with was | held
      · exact sound.held _ _ _ _ was
      · exact held
    obtain ⟨original, passedAt, was, rest⟩ := held
    exact ⟨original, passedAt, (passed _ _ _).mpr was, rest⟩

/-- A request that goes on without passing, or passes without slowmode, or goes on behind the
gate. -/
theorem Gate.Sound.setPhase {id : RequestId} {phase : Phase}
    (passed : ∀ request time, request.Gated slowmodeSeconds → (phase.pass = some (request, time) ↔
      (gate.phases id).pass = some (request, time)))
    (away : ∀ request time holder, phase.turnedAway = some (request, time, holder) → (gate.phases
      id).turnedAway = some (request, time, holder) ∨ gate.Held slowmodeSeconds request time holder)
    (store : Store World) :
    ({ gate.setPhase id phase with store := store } : Gate World).Sound slowmodeSeconds := by
  refine sound.mono ?_ rfl (Nat.le_refl _) ?_
  · intro other request time
    simp only [Gate.Passed, Gate.setPhase]
    rw [and_congr_left_iff]
    intro gated
    by_cases same : other = id
    · subst same
      rw [update_self]
      exact passed request time gated
    · rw [update_of_ne same]
  · intro other request time holder
    simp only [Gate.setPhase]
    by_cases same : other = id
    · subst same
      rw [update_self]
      exact away request time holder
    · rw [update_of_ne same]
      exact .inl

/-- A request that starts a cooldown. -/
theorem Gate.Sound.start {id : RequestId} {request : SendRequest}
    (gated : request.Gated slowmodeSeconds) (clear : gate.phases id = .clear request)
    (rest : gate.running request.args.channelId request.args.authorId = none) :
    (gate.claim slowmodeSeconds id request).Sound slowmodeSeconds := by
  have new : (gate.phases id).pass = none := by rw [clear]; rfl
  have passed : ∀ other sent time,
      (gate.claim slowmodeSeconds id request).Passed slowmodeSeconds other sent time ↔
        (other = id ∧ sent = request ∧ time = gate.now) ∨
          gate.Passed slowmodeSeconds other sent time := by
    intro other sent time
    simp only [Gate.Passed, Gate.claim, rest, Gate.setPhase]
    by_cases same : other = id
    · subst same
      rw [update_self, new]
      constructor
      · rintro ⟨is, -⟩
        cases is
        exact .inl ⟨rfl, rfl, rfl⟩
      · rintro (⟨-, rfl, rfl⟩ | ⟨was, -⟩)
        · exact ⟨rfl, gated⟩
        · cases was
    · rw [update_of_ne same]
      exact ⟨.inr, fun is => is.resolve_left fun isNew => same isNew.1⟩
  have cooldowns : ∀ channelId userId,
      (gate.claim slowmodeSeconds id request).cooldowns channelId userId =
        if request.target = (channelId, userId) then
          some ⟨id, gate.now + window slowmodeSeconds request.args.channelId⟩
        else gate.cooldowns channelId userId := by
    intro channelId userId
    simp only [Gate.claim, rest, SendRequest.target, Prod.mk.injEq]
    by_cases channel : channelId = request.args.channelId
    · subst channel
      rw [update_self]
      by_cases author : userId = request.args.authorId
      · subst author
        rw [update_self, if_pos ⟨rfl, rfl⟩]
      · rw [update_of_ne author, if_neg fun both => author both.2.symm]
    · rw [update_of_ne channel, if_neg fun both => channel both.1.symm]
  have now : (gate.claim slowmodeSeconds id request).now = gate.now := by
    simp only [Gate.claim, rest, Gate.setPhase]
  constructor
  · intro channelId userId cooldown stored
    rw [cooldowns] at stored
    split at stored
    next target =>
      cases stored
      refine ⟨request, gate.now, (passed _ _ _).mpr (.inl ⟨rfl, rfl, rfl⟩), target, ?_⟩
      rw [(Prod.mk.inj target).1]
    next =>
      obtain ⟨sent, time, was, others⟩ := sound.holder _ _ _ stored
      exact ⟨sent, time, (passed _ _ _).mpr (.inr was), others⟩
  · intro other sent time is
    rw [cooldowns]
    rcases (passed _ _ _).mp is with ⟨-, rfl, rfl⟩ | was
    · exact ⟨_, if_pos rfl, Nat.le_refl _⟩
    by_cases target : request.target = sent.target
    · refine ⟨_, if_pos target, ?_⟩
      have back := sound.back_of_not_running rest was target.symm
      rw [(Prod.mk.inj target).1] at back
      exact back.trans (Nat.le_add_right _ _)
    · obtain ⟨cooldown, stored, later⟩ := sound.latest _ _ _ was
      exact ⟨cooldown, (if_neg target).trans stored, later⟩
  · intro other sent time is
    rw [now]
    rcases (passed _ _ _).mp is with ⟨-, -, rfl⟩ | was
    · exact Nat.le_refl _
    · exact sound.past _ _ _ was
  · intro first second sent other firstTime secondTime firstIs secondIs distinct target
    rcases (passed _ _ _).mp firstIs with ⟨rfl, rfl, rfl⟩ | firstWas
    · rcases (passed _ _ _).mp secondIs with ⟨rfl, -⟩ | secondWas
      · exact absurd rfl distinct
      · exact .inr (sound.back_of_not_running rest secondWas target.symm)
    · rcases (passed _ _ _).mp secondIs with ⟨rfl, rfl, rfl⟩ | secondWas
      · left
        have back := sound.back_of_not_running rest firstWas target
        rwa [← (Prod.mk.inj target).1] at back
      · exact sound.spaced _ _ _ _ _ _ firstWas secondWas distinct target
  · intro other away time holder turned
    have was : (gate.phases other).turnedAway = some (away, time, holder) := by
      simp only [Gate.claim, rest, Gate.setPhase] at turned
      by_cases same : other = id
      · subst same
        rw [update_self] at turned
        cases turned
      · rwa [update_of_ne same] at turned
    obtain ⟨original, passedAt, wasPassed, others⟩ := sound.held _ _ _ _ was
    exact ⟨original, passedAt, (passed _ _ _).mpr (.inr wasPassed), others⟩

end

variable (runtime) in
/-- How a request goes on behind the gate. -/
theorem pass_served (request : SendRequest) (store : Store World) (time : Nat) (call : SendCall)
    (mentionScopes : MentionScopePermissions) :
    (request.served runtime store time call mentionScopes).1.pass = some (request, time) := by
  unfold SendRequest.served
  split
  next => rfl
  next => split <;> rfl

/-- Every step keeps the cooldowns sound: a request that passes the gate under slowmode starts
one. -/
theorem Gate.Sound.step (sound : gate.Sound slowmodeSeconds)
    (clear : ∀ id request, gate.phases id = .clear request → request.Gated slowmodeSeconds)
    (happens : Happens slowmodeSeconds runtime gate event next) : next.Sound slowmodeSeconds := by
  cases happens with
  | @probe id new request =>
    unfold Gate.probe
    split
    next gated =>
      split
      next cooldown running =>
        refine sound.setPhase (fun _ _ _ => by rw [new]; rfl) ?_ gate.store
        intro sent time holder turned
        obtain ⟨rfl, rfl, rfl⟩ : request = sent ∧ gate.now = time ∧ cooldown.holder = holder := by
          simpa [turnedAway] using turned
        exact .inr (sound.held_of_running running)
      next =>
        refine sound.setPhase (fun _ _ _ => by rw [new]; rfl) ?_ gate.store
        intro sent time holder turned
        cases turned
    next free =>
      refine sound.setPhase ?_ ?_ gate.store
      · intro sent time gated
        rw [new]
        constructor
        · intro is
          cases is
          exact absurd gated free
        · intro was
          cases was
      · intro sent time holder turned
        cases turned
  | @claim id request isClear =>
    cases running : gate.running request.args.channelId request.args.authorId with
    | some cooldown =>
      simp only [Gate.claim, running]
      refine sound.setPhase (fun _ _ _ => by rw [isClear]; rfl) ?_ gate.store
      intro sent time holder turned
      obtain ⟨rfl, rfl, rfl⟩ : request = sent ∧ gate.now = time ∧ cooldown.holder = holder := by
        simpa [turnedAway] using turned
      exact .inr (sound.held_of_running running)
    | none => exact sound.start (clear id request isClear) isClear running
  | @remainder id request time holder beaten =>
    refine sound.setPhase (fun _ _ _ => by rw [beaten]; rfl) ?_ gate.store
    intro sent sentAt other turned
    rw [beaten]
    exact .inl turned
  | @serve id request time passed call mentionScopes =>
    refine sound.setPhase ?_ ?_ _
    · intro sent sentAt _
      rw [pass_served, passed]
      rfl
    · intro sent sentAt holder turned
      rw [turnedAway_of_pass (pass_served runtime request gate.store time call mentionScopes)] at turned
      cases turned
  | tick forward =>
    exact sound.mono (fun _ _ _ => Iff.rfl) rfl forward fun _ _ _ _ turned => .inl turned
  | outside step =>
    exact sound.mono (fun _ _ _ => Iff.rfl) rfl (Nat.le_refl _) fun _ _ _ _ turned => .inl turned

/-- Only requests under slowmode ask for a cooldown. -/
def Gate.ClearGated (slowmodeSeconds : ChannelId → Nat) (gate : Gate World) : Prop :=
  ∀ id request, gate.phases id = .clear request → request.Gated slowmodeSeconds

theorem Gate.ClearGated.setPhase (clear : gate.ClearGated slowmodeSeconds) {id : RequestId}
    (gated : ∀ request, phase = .clear request → request.Gated slowmodeSeconds)
    (store : Store World) (cooldowns : ChannelId → UserId → Option Cooldown) :
    ({ gate.setPhase id phase with store := store, cooldowns := cooldowns } :
      Gate World).ClearGated slowmodeSeconds := by
  intro other request isClear
  simp only [Gate.setPhase] at isClear
  by_cases same : other = id
  · subst same
    rw [update_self] at isClear
    exact gated request isClear
  · rw [update_of_ne same] at isClear
    exact clear other request isClear

theorem Gate.ClearGated.step (clear : gate.ClearGated slowmodeSeconds)
    (happens : Happens slowmodeSeconds runtime gate event next) :
    next.ClearGated slowmodeSeconds := by
  cases happens with
  | @probe id new request =>
    unfold Gate.probe
    split
    next gated =>
      split
      next => exact clear.setPhase (fun _ isClear => by cases isClear) gate.store gate.cooldowns
      next =>
        refine clear.setPhase (fun sent isClear => ?_) gate.store gate.cooldowns
        cases isClear
        exact gated
    next => exact clear.setPhase (fun _ isClear => by cases isClear) gate.store gate.cooldowns
  | @claim id request isClear =>
    unfold Gate.claim
    split
    next => exact clear.setPhase (fun _ isClear => by cases isClear) gate.store gate.cooldowns
    next => exact clear.setPhase (fun _ isClear => by cases isClear) gate.store _
  | remainder beaten =>
    exact clear.setPhase (fun _ isClear => by cases isClear) gate.store gate.cooldowns
  | @serve id request time passed call mentionScopes =>
    refine clear.setPhase (fun sent isClear => ?_) _ gate.cooldowns
    have pass := pass_served runtime request gate.store time call mentionScopes
    rw [isClear] at pass
    cases pass
  | tick | outside => exact clear

/-- What every run keeps. -/
structure Gate.Consistent (slowmodeSeconds : ChannelId → Nat) (gate : Gate World) : Prop where
  sound : gate.Sound slowmodeSeconds
  clear : gate.ClearGated slowmodeSeconds

theorem Gate.Consistent.step (consistent : gate.Consistent slowmodeSeconds)
    (happens : Happens slowmodeSeconds runtime gate event next) :
    next.Consistent slowmodeSeconds :=
  ⟨consistent.sound.step consistent.clear happens, consistent.clear.step happens⟩

variable (slowmodeSeconds) in
theorem consistent_initialGate (store : Store World) :
    (initialGate store).Consistent slowmodeSeconds := by
  constructor
  · constructor
    · intro channelId userId cooldown stored
      cases stored
    · intro id request time passed
      cases passed.1
    · intro id request time passed
      cases passed.1
    · intro first second request other firstTime secondTime passed
      cases passed.1
    · intro id request time holder turned
      cases turned
  · intro id request isClear
    cases isClear

end Invariant

section Exact

variable {slowmodeSeconds : ChannelId → Nat} {runtime : Runtime World} {gate next : Gate World}
  {request : SendRequest} {time : Nat} {id holder : RequestId}

/-- The holder has passed; the request that is turned away has not. -/
theorem Gate.Held.ne (held : gate.Held slowmodeSeconds request time holder)
    (unpassed : (gate.phases id).pass = none) : holder ≠ id := by
  rintro rfl
  obtain ⟨original, passedAt, passed, -⟩ := held
  rw [passed.1] at unpassed
  cases unpassed

/-- Only one request has passed within the window that a request is turned away in, the holder of
the cooldown. -/
theorem Gate.Sound.deserved_iff (sound : gate.Sound slowmodeSeconds)
    (turned : (gate.phases id).turnedAway = some (request, time, holder)) :
    gate.Deserved slowmodeSeconds request time ↔ gate.Deserves request holder := by
  obtain ⟨own, ownAt, passed, target, before, within⟩ := sound.held _ _ _ _ turned
  constructor
  · rintro ⟨other, original, passedAt, accepted, gated, otherTarget, otherBefore, otherWithin, new⟩
    suffices same : other = holder by
      subst same
      exact ⟨original, passedAt, accepted, new⟩
    by_contra distinct
    have apart := sound.spaced _ _ _ _ _ _ ⟨pass_of_accepted accepted, gated⟩ passed distinct
      (otherTarget.trans target.symm)
    rw [(Prod.mk.inj otherTarget).1] at apart
    omega
  · rintro ⟨original, passedAt, accepted, new⟩
    obtain ⟨rfl, rfl⟩ : own = original ∧ ownAt = passedAt := by
      simpa [passed.1] using pass_of_accepted accepted
    exact ⟨holder, own, ownAt, accepted, passed.2, target, before, within, new⟩

/-- Each request that was turned away has been held by one that accepts. -/
def Gate.AllDeserve (gate : Gate World) : Prop :=
  ∀ id request time holder, (gate.phases id).turnedAway = some (request, time, holder) →
    gate.Deserves request holder

theorem Gate.Sound.measured_iff (sound : gate.Sound slowmodeSeconds) :
    Measured slowmodeSeconds gate ↔ gate.AllDeserve := by
  constructor
  · intro measured id request time holder turned
    exact (sound.deserved_iff turned).mp (measured.deserved _ _ _ _ turned)
  · intro all
    constructor
    · intro first second request other firstTime secondTime messageId otherMessage firstIs secondIs
        distinct gated otherGated target
      refine sound.spaced _ _ _ _ _ _ ⟨?_, gated⟩ ⟨?_, otherGated⟩ distinct target
      · rw [firstIs]
        rfl
      · rw [secondIs]
        rfl
    · intro id request time holder turned
      exact (sound.deserved_iff turned).mpr (all _ _ _ _ turned)

theorem Gate.Deserves.congr (same : next.phases holder = gate.phases holder) :
    next.Deserves request holder ↔ gate.Deserves request holder := by
  simp only [Gate.Deserves, same]

/-- When a request goes on that has not passed, the law is about that request alone. -/
theorem Gate.Sound.allDeserve_iff (sound : gate.Sound slowmodeSeconds) (all : gate.AllDeserve)
    {phase : Phase} (unpassed : (gate.phases id).pass = none)
    (phases : next.phases = update gate.phases id phase)
    (held : ∀ request time holder, phase.turnedAway = some (request, time, holder) →
      gate.Held slowmodeSeconds request time holder) :
    next.AllDeserve ↔ ∀ request time holder,
      phase.turnedAway = some (request, time, holder) → gate.Deserves request holder := by
  have same : ∀ {holder : RequestId}, holder ≠ id → next.phases holder = gate.phases holder := by
    intro holder distinct
    rw [phases, update_of_ne distinct]
  constructor
  · intro nextAll request time holder turned
    refine (Gate.Deserves.congr (same ((held _ _ _ turned).ne unpassed))).mp
      (nextAll id request time holder ?_)
    rwa [phases, update_self]
  · intro new other request time holder turned
    rw [phases] at turned
    by_cases isNew : other = id
    · subst isNew
      rw [update_self] at turned
      exact (Gate.Deserves.congr (same ((held _ _ _ turned).ne unpassed))).mpr (new _ _ _ turned)
    · rw [update_of_ne isNew] at turned
      exact (Gate.Deserves.congr (same ((sound.held _ _ _ _ turned).ne unpassed))).mpr
        (all _ _ _ _ turned)

/-- A send creates a message when the key is new and the checks, the rules and the transaction let
it through. -/
theorem created_send_iff (call : SendCall) (store : Store World) (args : SendArgs) :
    (∃ message, (send runtime call store args).1 = .ok ⟨message, false⟩) ↔
      cachedMessage store args call = none ∧ validate runtime store args = .ok () ∧
        ∃ contentPlain world messages,
          runtime.enforce store.world args (gatedMentions runtime store args) =
            (.ok contentPlain, world) ∧
          sendTransaction store.messages
            (args.row call store (gatedMentions runtime store args) contentPlain) =
              .ok messages := by
  constructor
  · rintro ⟨message, sent⟩
    have outcome := send_outcome runtime call store args
    generalize send runtime call store args = answer at outcome sent
    cases outcome with
    | refused => cases sent
    | cached | replayed => simp at sent
    | created missed valid enforced created =>
      exact ⟨missed, valid, _, _, _, enforced, created⟩
  · rintro ⟨missed, valid, contentPlain, world, messages, enforced, created⟩
    refine ⟨(args.row call store (gatedMentions runtime store args) contentPlain).message, ?_⟩
    have row : args.row call { store with world := world } (gatedMentions runtime store args)
        contentPlain = args.row call store (gatedMentions runtime store args) contentPlain := rfl
    simp only [send, missed, valid, enforced, row, created]

theorem created_served_iff (store : Store World) (call : SendCall)
    (mentionScopes : MentionScopePermissions) :
    (request.served runtime store time call mentionScopes).1.accepted = some (request, time) ↔
      request.Creates runtime store call mentionScopes := by
  unfold SendRequest.served SendRequest.Creates
  cases validateIdempotencyKey request.idempotencyHeader with
  | error failure => simp [accepted]
  | ok key =>
    simp only [Except.ok.injEq, exists_eq_left']
    rw [← created_send_iff]
    cases answer : send runtime call store (request.sendArgs key mentionScopes) with
    | mk result after =>
      rcases result with failure | ⟨message, replayed⟩
      · simp [accepted]
      · cases replayed <;> simp [accepted]

/-- Whoever has been turned away by a request behind the gate waits for it to create its message. -/
theorem allDeserve_serve_iff (all : gate.AllDeserve)
    (passed : gate.phases id = .passed request time) (call : SendCall)
    (mentionScopes : MentionScopePermissions) :
    (gate.serve runtime id request time call mentionScopes).AllDeserve ↔
      ((∃ other away awayTime, (gate.phases other).turnedAway = some (away, awayTime, id)) →
        request.Creates runtime gate.store call mentionScopes) := by
  have phases : (gate.serve runtime id request time call mentionScopes).phases =
      update gate.phases id (request.served runtime gate.store time call mentionScopes).1 := rfl
  have pass := pass_served runtime request gate.store time call mentionScopes
  have turned : ∀ other, ((gate.serve runtime id request time call mentionScopes).phases
      other).turnedAway = (gate.phases other).turnedAway := by
    intro other
    rw [phases]
    by_cases same : other = id
    · subst same
      rw [update_self, turnedAway_of_pass pass, passed]
      rfl
    · rw [update_of_ne same]
  rw [← created_served_iff]
  constructor
  · rintro nextAll ⟨other, away, awayTime, wasTurned⟩
    obtain ⟨original, passedAt, accepted, -⟩ := nextAll other away awayTime id (by rwa [turned])
    rw [phases, update_self] at accepted
    rw [accepted, ← pass, pass_of_accepted accepted]
  · intro creates other away awayTime holder isTurned
    rw [turned] at isTurned
    obtain ⟨original, passedAt, accepted, new⟩ := all other away awayTime holder isTurned
    refine ⟨original, passedAt, ?_, new⟩
    rw [phases]
    by_cases same : holder = id
    · subst same
      rw [update_self, creates ⟨other, away, awayTime, isTurned⟩]
      rw [passed] at accepted
      exact accepted
    · rwa [update_of_ne same]

/-- The condition says which steps keep the law. -/
theorem Gate.Consistent.measured_step_iff {event : Event}
    (consistent : gate.Consistent slowmodeSeconds)
    (happens : Happens slowmodeSeconds runtime gate event next)
    (measured : Measured slowmodeSeconds gate) :
    Measured slowmodeSeconds next ↔ event.Fits slowmodeSeconds runtime gate := by
  have sound := consistent.sound
  have all := sound.measured_iff.mp measured
  rw [(sound.step consistent.clear happens).measured_iff]
  cases happens with
  | @probe id new request =>
    have unpassed : (gate.phases id).pass = none := by rw [new]; rfl
    unfold Gate.probe Event.Fits
    split
    next gated =>
      split
      next cooldown running =>
        rw [sound.allDeserve_iff all unpassed rfl]
        · simp [turnedAway, gated, running]
        · intro sent time holder turned
          obtain ⟨rfl, rfl, rfl⟩ : request = sent ∧ gate.now = time ∧ cooldown.holder = holder := by
            simpa [turnedAway] using turned
          exact sound.held_of_running running
      next rest =>
        rw [sound.allDeserve_iff all unpassed rfl]
        · simp [turnedAway, rest]
        · intro sent time holder turned
          cases turned
    next free =>
      rw [sound.allDeserve_iff all unpassed rfl]
      · simp [turnedAway, free]
      · intro sent time holder turned
        cases turned
  | @claim id request isClear =>
    have unpassed : (gate.phases id).pass = none := by rw [isClear]; rfl
    simp only [Event.Fits, isClear, clear.injEq, forall_eq']
    unfold Gate.claim
    split
    next cooldown running =>
      rw [sound.allDeserve_iff all unpassed rfl]
      · simp [turnedAway, running]
      · intro sent time holder turned
        obtain ⟨rfl, rfl, rfl⟩ : request = sent ∧ gate.now = time ∧ cooldown.holder = holder := by
          simpa [turnedAway] using turned
        exact sound.held_of_running running
    next rest =>
      rw [sound.allDeserve_iff all unpassed rfl]
      · simp [turnedAway, rest]
      · intro sent time holder turned
        cases turned
  | @remainder id request time holder beaten =>
    have turned : (gate.phases id).turnedAway = some (request, time, holder) := by
      rw [beaten]
      rfl
    refine iff_of_true ?_ trivial
    refine (sound.allDeserve_iff all (by rw [beaten]; rfl) rfl ?_).mpr ?_
    · intro sent sentAt other isTurned
      obtain ⟨rfl, rfl, rfl⟩ : request = sent ∧ time = sentAt ∧ holder = other := by
        simpa [turnedAway] using isTurned
      exact sound.held _ _ _ _ turned
    · intro sent sentAt other isTurned
      obtain ⟨rfl, rfl, rfl⟩ : request = sent ∧ time = sentAt ∧ holder = other := by
        simpa [turnedAway] using isTurned
      exact all _ _ _ _ turned
  | @serve id request time passed call mentionScopes =>
    refine (allDeserve_serve_iff all passed call mentionScopes).trans ⟨?_, ?_⟩
    · intro creates sent sentAt same
      cases passed.symm.trans same
      exact creates
    · intro fits
      exact fits request time passed
  | tick forward | outside step => exact iff_of_true all trivial

end Exact

section Runs

variable {slowmodeSeconds : ChannelId → Nat} {runtime : Runtime World}

/-- Whatever happens, the messages of a user in a slow channel come from requests that have passed
the gate a window apart. -/
theorem sound_of_steps {store : Store World} {events : List Event} {finish : Gate World}
    (steps : Steps (Happens slowmodeSeconds runtime) (initialGate store) events finish) :
    finish.Sound slowmodeSeconds :=
  (steps.preserves (Gate.Consistent slowmodeSeconds)
    (fun happens consistent => consistent.step happens) (consistent_initialGate slowmodeSeconds store)).sound

variable (slowmodeSeconds runtime) in
/-- Slowmode measures accepted messages in the runs in which each cooldown that turns a request away
comes from another request that creates its message. -/
theorem slowmode_measures_messages_iff (store : Store World) (events : List Event)
    (finish : Gate World) :
    Steps (Lawful (Happens slowmodeSeconds runtime) (Measured slowmodeSeconds)) (initialGate store)
        events finish ↔
      Steps (Guarded (Happens slowmodeSeconds runtime)
        fun gate event => event.Fits slowmodeSeconds runtime gate) (initialGate store) events
        finish := by
  have consistent := consistent_initialGate slowmodeSeconds store
  refine Steps.lawful_iff_guarded (Gate.Consistent slowmodeSeconds) ?_ ?_ consistent ?_
  · exact fun happens consistent => consistent.step happens
  · exact fun happens consistent measured => consistent.measured_step_iff happens measured
  · refine consistent.sound.measured_iff.mpr ?_
    intro id request time holder turned
    cases turned

end Runs

/-- A reply to a message that is not there. -/
def strayReply : SendRequest where
  args := {
    workspaceId := some ⟨1⟩
    channelId := ⟨1⟩
    authorId := ⟨1⟩
    content := "hello"
    parentMessageId := some ⟨7⟩ }
  idempotencyHeader := none
  hasBypass := false

/-- The same text as a message of its own. -/
def rootMessage : SendRequest :=
  { strayReply with args := { strayReply.args with parentMessageId := none } }

/-- A channel with one member and no message. -/
def boardGate : Gate Unit :=
  let channel : Channel :=
    { id := ⟨1⟩, workspaceId := some ⟨1⟩, name := "board", position := 0, createdAt := 0 }
  initialGate (initialStore
    (.withoutRoles (.single ⟨⟨1⟩, ⟨1⟩, .member⟩) (.single channel) .empty) .empty ())

/-- A slowmode of ten seconds. -/
def tenSeconds : ChannelId → Nat :=
  fun _ => 10

/-- The gate when the reply has been refused. -/
def refusedGate : Gate Unit :=
  ((boardGate.probe tenSeconds ⟨0⟩ strayReply).claim tenSeconds ⟨0⟩ strayReply).serve quietRuntime
    ⟨0⟩ strayReply 0 { now := 1, createdAt := 1 } {}

/-- A user replies to a message that is gone and is refused; without any message sent, the next
request of the user is turned away. -/
theorem slowmode_without_message : ∃ events finish,
    Steps (Happens tenSeconds quietRuntime) boardGate events finish ∧
      ¬Measured tenSeconds finish := by
  have cleared : (boardGate.probe tenSeconds ⟨0⟩ strayReply).phases ⟨0⟩ = .clear strayReply := rfl
  have passed : ((boardGate.probe tenSeconds ⟨0⟩ strayReply).claim tenSeconds ⟨0⟩
      strayReply).phases ⟨0⟩ = .passed strayReply 0 := rfl
  have steps : Steps (Happens tenSeconds quietRuntime) boardGate _
      (refusedGate.probe tenSeconds ⟨1⟩ rootMessage) :=
    (((Steps.refl.step (.probe rfl strayReply)).step (.claim cleared)).step
      (.serve passed { now := 1, createdAt := 1 } {})).step (.probe rfl rootMessage)
  refine ⟨_, _, steps, fun measured => ?_⟩
  have turned : ((refusedGate.probe tenSeconds ⟨1⟩ rootMessage).phases ⟨1⟩).turnedAway =
      some (rootMessage, 0, ⟨0⟩) := rfl
  have deserved := (sound_of_steps steps).measured_iff.mp measured ⟨1⟩ _ _ _ turned
  obtain ⟨original, passedAt, accepted, -⟩ := deserved
  have refused : ((refusedGate.probe tenSeconds ⟨1⟩ rootMessage).phases ⟨0⟩).accepted = none := rfl
  rw [refused] at accepted
  cases accepted

end Bongtalk.Channels.Slowmode
