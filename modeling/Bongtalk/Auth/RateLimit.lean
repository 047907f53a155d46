import Bongtalk.Common.DomainError
import Bongtalk.Library.System
import Bongtalk.Library.Expiry

/-!
# Rate limits

A call counts itself under the key of each of its rules in turn and goes on while the counts are
within bounds. Every Redis command of a call is a step of its own, and other calls, and the end of
the process, come in between.
-/

namespace Bongtalk.Auth.RateLimit

open Library Common

structure RateLimitRule where
  key : String
  windowSec : Nat
  max : Nat
deriving DecidableEq, Repr

def RateLimitRule.redisKey (rule : RateLimitRule) : String :=
  "rl:" ++ rule.key

/-- The window in milliseconds. -/
def RateLimitRule.duration (rule : RateLimitRule) : Nat :=
  rule.windowSec * 1000

/-- The label of the metric: the first two segments of the key. -/
def RateLimitRule.endpoint (rule : RateLimitRule) : String :=
  let segments := ":".intercalate ((rule.key.splitOn ":").take 2)
  if segments = "" then "unknown" else segments

/-- The answer of `INCR` to a call, and the window the call was counted in. -/
structure Hit where
  rule : RateLimitRule
  count : Nat
  window : Window
deriving DecidableEq, Repr

/-- The next Redis command of a call to `enforce`, and the rules that are left. -/
inductive Call where
  | incr (rule : RateLimitRule) (rest : List RateLimitRule)
  | expire (hit : Hit) (rest : List RateLimitRule)
  | ttl (hit : Hit) (rest : List RateLimitRule)
deriving DecidableEq, Repr

/-- The text and the details of `RATE_LIMITED`. -/
structure RateLimited where
  message : String
  retryAfterSec : Int
deriving DecidableEq, Repr

def RateLimited.code : ErrorCode :=
  .rateLimited

/-- A call that was refused at a time, and what was under its key then. -/
structure Rejection where
  rule : RateLimitRule
  error : RateLimited
  /-- The label under which the rejection is counted. -/
  endpoint : String
  time : Nat
  found : Option WindowCounter
deriving DecidableEq, Repr

/-- Redis and the calls under way, with the hits that have passed and the calls that were refused.
`hits` numbers the `INCR`s. -/
structure State where
  now : Nat
  redis : String → Option WindowCounter
  hits : Nat
  calls : Nat → Option Call
  passed : List Hit
  rejected : List Rejection

def State.initial : State :=
  ⟨0, fun _ => none, 0, fun _ => none, [], []⟩

inductive Event where
  | enforce (caller : Nat) (rules : List RateLimitRule)
  | proceed (caller : Nat)
  /-- The process of the call ends. -/
  | stop (caller : Nat)
  | tick (elapsed : Nat)
deriving DecidableEq, Repr

/-- The loop over the rules. -/
def enter : List RateLimitRule → Option Call
  | [] => none
  | rule :: rest => some (.incr rule rest)

namespace State

variable (rounded : Nat → Nat) (state : State) (caller : Nat)

def setCall (call : Option Call) : State :=
  { state with calls := Function.update state.calls caller call }

def setKey (key : String) (entry : Option WindowCounter) : State :=
  { state with redis := Function.update state.redis key entry }

/-- The window that this `INCR` opens if it finds no counter. -/
def opening (rule : RateLimitRule) : Window :=
  ⟨state.hits, state.now, rule.duration⟩

def incr (rule : RateLimitRule) : WindowCounter :=
  WindowCounter.incr state.now (state.opening rule) (state.redis rule.redisKey)

/-- `INCR`. The call that sees a count of 1 goes on to `EXPIRE`. -/
def hit (rule : RateLimitRule) (rest : List RateLimitRule) : State :=
  let counter := state.incr rule
  let hit : Hit := ⟨rule, counter.count, counter.window⟩
  let counted := { state.setKey rule.redisKey (some counter) with hits := state.hits + 1 }
  counted.setCall caller (some (if counter.count = 1 then .expire hit rest else .ttl hit rest))

/-- `EXPIRE`. -/
def expire (hit : Hit) (rest : List RateLimitRule) : State :=
  let entry := WindowCounter.expire state.now hit.rule.duration (state.redis hit.rule.redisKey)
  (state.setKey hit.rule.redisKey entry).setCall caller (some (.ttl hit rest))

def ttl (hit : Hit) : Int :=
  WindowCounter.ttl rounded state.now (state.redis hit.rule.redisKey)

def rejection (hit : Hit) : Rejection where
  rule := hit.rule
  error := ⟨"rate limited: " ++ hit.rule.key, max (state.ttl rounded hit) 1⟩
  endpoint := hit.rule.endpoint
  time := state.now
  found := state.redis hit.rule.redisKey

/-- `TTL` and the check. -/
def check (hit : Hit) (rest : List RateLimitRule) : State :=
  if hit.rule.max < hit.count then
    { state.setCall caller none with rejected := state.rejection rounded hit :: state.rejected }
  else { state.setCall caller (enter rest) with passed := hit :: state.passed }

def proceed : State :=
  match state.calls caller with
  | none => state
  | some (.incr rule rest) => state.hit caller rule rest
  | some (.expire hit rest) => state.expire caller hit rest
  | some (.ttl hit rest) => state.check rounded caller hit rest

end State

/-- One event. A caller is one call, so that it starts no other while it is under way. `rounded` are
the full seconds that `TTL` answers for the milliseconds that are left. -/
def next (rounded : Nat → Nat) (state : State) : Event → State
  | .enforce caller rules =>
    if (state.calls caller).isSome then state else state.setCall caller (enter rules)
  | .proceed caller => state.proceed rounded caller
  | .stop caller => state.setCall caller none
  | .tick elapsed => { state with now := state.now + elapsed }

def Step (rounded : Nat → Nat) (state : State) (event : Event) (after : State) : Prop :=
  after = next rounded state event

/-- Within each window no more calls than the limit of their rule have passed. -/
def Sound (state : State) : Prop :=
  ∀ window limit,
    state.passed.countP (fun hit => hit.window = window ∧ hit.rule.max = limit) ≤ limit

/-- The call is about to set the end of a window. -/
def State.Opens (state : State) (caller : Nat) (hit : Hit) : Prop :=
  ∃ rest, state.calls caller = some (.expire hit rest)

/-- The end of a window is set to no later than its deadline, or its first call is about to set it
in the very moment in which it has opened the window. -/
def State.Ends (state : State) (counter : WindowCounter) : Prop :=
  match counter.expiresAt with
  | some expiresAt => expiresAt ≤ counter.window.deadline
  | none => state.now = counter.window.openedAt ∧
      ∃ caller hit, state.Opens caller hit ∧ hit.window = counter.window

/-- Each window that is open ends in time. -/
def EndsInTime (state : State) : Prop :=
  ∀ key counter, WindowCounter.read state.now (state.redis key) = some counter → state.Ends counter

/-- When the delay is over and nothing else has come, the key admits the rule again. -/
def Rejection.AdmitsAfterDelay (rejection : Rejection) : Prop :=
  ∀ opening, (WindowCounter.incr (rejection.time + rejection.error.retryAfterSec.toNat * 1000)
    opening rejection.found).count ≤ rejection.rule.max

structure Law (state : State) : Prop where
  sound : Sound state
  endsInTime : EndsInTime state
  retries : ∀ rejection ∈ state.rejected, rejection.AdmitsAfterDelay

/-- The rule allows for a call, and the counter has room by now, or its end is set and the seconds
that are answered are not rounded down below what is left. -/
def State.Answers (rounded : Nat → Nat) (state : State) (hit : Hit) : Prop :=
  0 < hit.rule.max ∧ ∀ counter,
    WindowCounter.read state.now (state.redis hit.rule.redisKey) = some counter →
      counter.count < hit.rule.max ∨ ∃ expiresAt, counter.expiresAt = some expiresAt ∧
        expiresAt - state.now ≤ max (rounded (expiresAt - state.now)) 1 * 1000

/-- No time passes, and no process ends, between the `INCR` that opens a window and its `EXPIRE`. A
call that is refused reads a full answer. -/
def Guard (rounded : Nat → Nat) (state : State) : Event → Prop
  | .enforce _ _ => True
  | .proceed caller => ∀ hit rest, state.calls caller = some (.ttl hit rest) →
      hit.rule.max < hit.count → state.Answers rounded hit
  | .stop caller => ∀ hit, ¬state.Opens caller hit
  | .tick elapsed => 0 < elapsed → ∀ caller hit, ¬state.Opens caller hit

end Bongtalk.Auth.RateLimit
