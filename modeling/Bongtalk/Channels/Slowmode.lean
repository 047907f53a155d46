import Bongtalk.Messages.Cursor
import Bongtalk.Messaging.System
import Bongtalk.Shared.RichText

/-!
# Slowmode

A send to a slow channel first asks for the cooldown of its author there and starts one if there
is none. What comes after the gate (the header, the idempotency key, the checks of the message and
the rules) may still refuse the request, and the cooldown runs all the same.
-/

namespace Bongtalk.Channels.Slowmode

open Channels.Permission Common Messages Messaging
open Prisma Shared

structure RequestId where
  value : Nat
deriving DecidableEq, Repr

/-- A `POST` to the messages of a channel that has reached the gate. The idempotency key and the
mention scopes of `args` are filled in behind it. -/
structure SendRequest where
  args : SendArgs
  idempotencyHeader : Option (List Char)
  /-- The answer of `hasPermission` for `BYPASS_SLOWMODE`. -/
  hasBypass : Bool
deriving DecidableEq, Repr

def validateIdempotencyKey (raw : Option (List Char)) : Except Failure (Option IdempotencyKey) :=
  let trimmed := trim (raw.getD [])
  if trimmed = [] then .ok none
  else if isUuid trimmed then .ok ((uuid trimmed).map IdempotencyKey.mk)
  else failWith .validationFailed "Idempotency-Key must be a UUID"

/-- What the controller passes on to the service. -/
def SendRequest.sendArgs (request : SendRequest) (idempotencyKey : Option IdempotencyKey)
    (mentionScopes : MentionScopePermissions) : SendArgs :=
  { request.args with
    idempotencyKey := idempotencyKey
    hasMentionEveryone := mentionScopes.hasMentionEveryone
    hasMentionChannel := mentionScopes.hasMentionChannel }

/-- The key `slowmode:{channelId}:{userId}` is there until it expires. Its value is always 1; the
request that has set it is noted here. -/
structure Cooldown where
  holder : RequestId
  expiresAt : Nat
deriving DecidableEq, Repr

/-- The text and the details of `CHANNEL_SLOWMODE_ACTIVE`. -/
structure SlowmodeActive where
  message : String
  retryAfterMs : Nat
deriving DecidableEq, Repr

def SlowmodeActive.code : ErrorCode :=
  .channelSlowmodeActive

/-- How far a request is, with the time at which the gate let it pass or turned it away. -/
inductive Phase where
  | absent
  /-- The first command has found no cooldown. -/
  | clear (request : SendRequest)
  /-- The second command has found the cooldown of another request. -/
  | beaten (request : SendRequest) (time : Nat) (holder : RequestId)
  | rejected (request : SendRequest) (time : Nat) (holder : RequestId) (error : SlowmodeActive)
  | passed (request : SendRequest) (time : Nat)
  | created (request : SendRequest) (time : Nat) (messageId : MessageId)
  | replayed (request : SendRequest) (time : Nat) (messageId : MessageId)
  | refused (request : SendRequest) (time : Nat) (failure : Failure)

/-- A request that has passed the gate, with the time. -/
def Phase.pass : Phase → Option (SendRequest × Nat)
  | .passed request time | .created request time _ | .replayed request time _
  | .refused request time _ => some (request, time)
  | _ => none

/-- A request that has created its message, or may still do so. -/
def Phase.accepted : Phase → Option (SendRequest × Nat)
  | .passed request time | .created request time _ => some (request, time)
  | _ => none

/-- A request that has been turned away, with the time and the holder of the cooldown. -/
def Phase.turnedAway : Phase → Option (SendRequest × Nat × RequestId)
  | .beaten request time holder | .rejected request time holder _ => some (request, time, holder)
  | _ => none

/-- The messages and the cooldowns, with the clock of the cooldowns in milliseconds. -/
structure Gate (World : Type) where
  store : Store World
  cooldowns : ChannelId → UserId → Option Cooldown
  phases : RequestId → Phase
  now : Nat

/-- The steps: the commands of the gate (`PTTL`, `SET … NX` and the second `PTTL`), the rest of a
request, the clock and everything else that happens to messages. -/
inductive Event where
  | probe (id : RequestId) (request : SendRequest)
  | claim (id : RequestId)
  | remainder (id : RequestId)
  | serve (id : RequestId) (call : SendCall) (mentionScopes : MentionScopePermissions)
  | tick (later : Nat)
  | outside (event : StoreEvent)

section Commands

variable {World : Type} (gate : Gate World) (channelId : ChannelId) (userId : UserId)

/-- The cooldown that has not expired. -/
def Gate.running : Option Cooldown :=
  (gate.cooldowns channelId userId).filter (gate.now < ·.expiresAt)

/-- The milliseconds that are left of a key; zero stands for no key too. -/
def Gate.pttl : Nat :=
  ((gate.running channelId userId).map (·.expiresAt - gate.now)).getD 0

def Gate.setPhase (id : RequestId) (phase : Phase) : Gate World :=
  { gate with phases := Function.update gate.phases id phase }

end Commands

section Requests

variable {World : Type} (slowmodeSeconds : ChannelId → Nat) (runtime : Runtime World)
variable (gate : Gate World) (id : RequestId) (request : SendRequest)

/-- The window of a channel in milliseconds. -/
def window (channelId : ChannelId) : Nat :=
  slowmodeSeconds channelId * 1000

/-- Whether slowmode applies to a request. -/
def SendRequest.Gated : Prop :=
  0 < slowmodeSeconds request.args.channelId ∧ request.hasBypass = false

instance : Decidable (request.Gated slowmodeSeconds) :=
  inferInstanceAs (Decidable (_ ∧ _))

def Gate.probe : Gate World :=
  if request.Gated slowmodeSeconds then
    match gate.running request.args.channelId request.args.authorId with
    | some cooldown =>
      let pttl := gate.pttl request.args.channelId request.args.authorId
      gate.setPhase id (.rejected request gate.now cooldown.holder
        { message := "slowmode active — retry in " ++ toString ((pttl + 999) / 1000) ++ "s"
          retryAfterMs := pttl })
    | none => gate.setPhase id (.clear request)
  else gate.setPhase id (.passed request gate.now)

def Gate.claim : Gate World :=
  match gate.running request.args.channelId request.args.authorId with
  | some cooldown => gate.setPhase id (.beaten request gate.now cooldown.holder)
  | none =>
    let cooldown := ⟨id, gate.now + window slowmodeSeconds request.args.channelId⟩
    { gate.setPhase id (.passed request gate.now) with
      cooldowns := Function.update gate.cooldowns request.args.channelId
        (Function.update (gate.cooldowns request.args.channelId) request.args.authorId
          (some cooldown)) }

def Gate.remainder (time : Nat) (holder : RequestId) : Gate World :=
  let racePttl := gate.pttl request.args.channelId request.args.authorId
  gate.setPhase id (.rejected request time holder
    { message := "slowmode active"
      retryAfterMs :=
        if 0 < racePttl then racePttl else window slowmodeSeconds request.args.channelId })

/-- How a request that has passed the gate ends, and the store afterwards. -/
def SendRequest.served (store : Store World) (time : Nat) (call : SendCall)
    (mentionScopes : MentionScopePermissions) : Phase × Store World :=
  match validateIdempotencyKey request.idempotencyHeader with
  | .error failure => (.refused request time failure, store)
  | .ok key =>
    match send runtime call store (request.sendArgs key mentionScopes) with
    | (.error failure, after) => (.refused request time failure, after)
    | (.ok ⟨message, true⟩, after) => (.replayed request time message.id, after)
    | (.ok ⟨message, false⟩, after) => (.created request time message.id, after)

def Gate.serve (time : Nat) (call : SendCall) (mentionScopes : MentionScopePermissions) :
    Gate World :=
  let served := request.served runtime gate.store time call mentionScopes
  { gate.setPhase id served.1 with store := served.2 }

end Requests

/-- The steps of requests, in any order, with the clock and the rest of the system between. -/
inductive Happens {World : Type} (slowmodeSeconds : ChannelId → Nat) (runtime : Runtime World) :
    Gate World → Event → Gate World → Prop where
  | probe {gate : Gate World} {id} (new : gate.phases id = .absent) (request : SendRequest) :
      Happens slowmodeSeconds runtime gate (.probe id request)
        (gate.probe slowmodeSeconds id request)
  | claim {gate : Gate World} {id request} (clear : gate.phases id = .clear request) :
      Happens slowmodeSeconds runtime gate (.claim id) (gate.claim slowmodeSeconds id request)
  | remainder {gate : Gate World} {id request time holder}
      (beaten : gate.phases id = .beaten request time holder) :
      Happens slowmodeSeconds runtime gate (.remainder id)
        (gate.remainder slowmodeSeconds id request time holder)
  | serve {gate : Gate World} {id request time} (passed : gate.phases id = .passed request time)
      (call : SendCall) (mentionScopes : MentionScopePermissions) :
      Happens slowmodeSeconds runtime gate (.serve id call mentionScopes)
        (gate.serve runtime id request time call mentionScopes)
  | tick {gate : Gate World} {later : Nat} (forward : gate.now ≤ later) :
      Happens slowmodeSeconds runtime gate (.tick later) { gate with now := later }
  | outside {gate : Gate World} {event store} (step : StoreStep runtime gate.store event store) :
      Happens slowmodeSeconds runtime gate (.outside event) { gate with store := store }

/-- No request has come yet. -/
def initialGate {World : Type} (store : Store World) : Gate World where
  store := store
  cooldowns := fun _ _ => none
  phases := fun _ => .absent
  now := 0

end Bongtalk.Channels.Slowmode
