import Mathlib.Logic.Function.Basic

/-!
# The regex runner

Patterns are matched in a worker thread, under a watchdog of the main thread. All requests share
the worker, the map of pending requests and the handles of the runner. A watchdog that fires
terminates the worker, and the worker's `exit` event is handled some time later.
-/

namespace Bongtalk.Workspaces.AutoMod

open Function

structure CallId where
  value : Nat
deriving DecidableEq, Repr

structure ProbeId where
  value : Nat
deriving DecidableEq, Repr

structure WorkerId where
  value : Nat
deriving DecidableEq, Repr

structure MatchRequest where
  sources : List String
  content : String
deriving DecidableEq, Repr

/-- `{ matched, timedOut }`. -/
structure MatchResult where
  matched : Option String
  timedOut : Bool
deriving DecidableEq, Repr

/-- The regular expressions of the language: what a pattern says of a text, `none` if it does not
compile, and whether the evaluation of a request finishes before its watchdog. -/
structure RegexEngine where
  test : String → String → Option Bool
  withinWatchdog : MatchRequest → Bool

/-- `handleMatch` of the worker. -/
def handleMatch (engine : RegexEngine) (request : MatchRequest) : Option String :=
  request.sources.find? fun source => engine.test source request.content == some true

/-- `handleValidate` of the worker. -/
def handleValidate (engine : RegexEngine) (source probe : String) : Bool :=
  (engine.test source probe).isSome

/-- A message to a worker; the worker answers it under the same id. -/
inductive WorkerRequest where
  | «match» (id : Nat) (request : MatchRequest)
  | validate (id : Nat) (source probe : String)
deriving DecidableEq, Repr

/-- A worker thread: its unanswered messages, the first of them in work. -/
structure WorkerThread where
  queue : List WorkerRequest := []
  online : Bool := false
  terminated : Bool := false
deriving DecidableEq, Repr

/-- A call of `match`: before the worker is ready, between the message and the end of the race, and
returned. `delayed` says that the worker could not start on the message at once. -/
inductive CallState where
  | absent
  | awaiting (request : MatchRequest) (worker : WorkerId)
  | racing (request : MatchRequest) (id : Nat) (worker : WorkerId) (delayed : Bool)
  | returned (request : MatchRequest) (result : MatchResult)
deriving DecidableEq, Repr

/-- A call of `validateSingleProbe`. -/
inductive ProbeState where
  | absent
  | probing (id : Nat) (worker : WorkerId)
  | returned (safe : Bool)
deriving DecidableEq, Repr

/-- The fields of the runner, its worker threads and the calls of its methods. -/
structure Runner where
  matchWorker : Option WorkerId := none
  workerReady : Option WorkerId := none
  resolveFailed : Bool := false
  reqSeq : Nat := 0
  pending : Nat → Option CallId := fun _ => none
  workers : WorkerId → Option WorkerThread := fun _ => none
  spawned : Nat := 0
  calls : CallId → CallState := fun _ => .absent
  probes : ProbeId → ProbeState := fun _ => .absent

/-- What happens on the main thread. -/
inductive Event where
  /-- A call of `match`; `spawns` says whether a worker can be spawned. -/
  | call (callId : CallId) (request : MatchRequest) (spawns : Bool)
  /-- `awaitWorkerReady` resolves. -/
  | ready (callId : CallId)
  | watchdog (callId : CallId)
  | ensure (spawns : Bool)
  | probe (probeId : ProbeId) (source probe : String) (spawns : Bool)
  | probeWatchdog (probeId : ProbeId)
  | online (worker : WorkerId)
  /-- The worker's answer to its first message. -/
  | message (worker : WorkerId)
  | error (worker : WorkerId)
  | exit (worker : WorkerId)
deriving DecidableEq, Repr

namespace Runner

variable (runner : Runner)

/-- `ensureMatchWorker`. -/
def ensureMatchWorker (spawns : Bool) : Runner × Option WorkerId :=
  match runner.matchWorker with
  | some worker => (runner, some worker)
  | none =>
    if runner.resolveFailed then (runner, none)
    else if spawns then
      let worker : WorkerId := ⟨runner.spawned⟩
      ({ runner with
          matchWorker := some worker
          workerReady := some worker
          workers := update runner.workers worker (some {})
          spawned := runner.spawned + 1 }, some worker)
    else ({ runner with resolveFailed := true }, none)

/-- A call returns. -/
def settle (callId : CallId) (request : MatchRequest) (result : MatchResult) : Runner :=
  { runner with calls := update runner.calls callId (.returned request result) }

/-- A call whose resolver is in the map, resolved with `null`. -/
def failed (pending : Nat → Option CallId) (callId : CallId) : CallState → CallState
  | .racing request id worker delayed =>
    if pending id = some callId then .returned request ⟨none, false⟩
    else .racing request id worker delayed
  | state => state

/-- `failAllPending`. -/
def failAllPending : Runner :=
  { runner with
    calls := fun callId => failed runner.pending callId (runner.calls callId)
    pending := fun _ => none }

/-- `worker.terminate()`. -/
def terminate (worker : WorkerId) : Runner :=
  { runner with
    workers := update runner.workers worker
      ((runner.workers worker).map fun thread => { thread with terminated := true }) }

/-- `worker.postMessage`; a worker that is gone or terminated does not receive it. -/
def postMessage (worker : WorkerId) (message : WorkerRequest) : Runner :=
  { runner with
    workers := update runner.workers worker
      ((runner.workers worker).map fun thread =>
        if thread.terminated then thread else { thread with queue := thread.queue ++ [message] }) }

/-- The worker is up and has nothing else to do. -/
def idle (worker : WorkerId) : Bool :=
  (runner.workers worker).any fun thread =>
    thread.online && !thread.terminated && thread.queue.isEmpty

/-- The worker works on its messages. -/
def running (worker : WorkerId) : Bool :=
  (runner.workers worker).any fun thread => !thread.terminated

/-- `match` up to its first `await`. -/
def match_ (callId : CallId) (request : MatchRequest) (spawns : Bool) : Runner :=
  if request.sources.length = 0 then runner.settle callId request ⟨none, false⟩
  else
    match runner.ensureMatchWorker spawns with
    | (next, none) => next.settle callId request ⟨none, false⟩
    | (next, some worker) =>
      { next with calls := update next.calls callId (.awaiting request worker) }

/-- `match` after the worker is ready: the resolver goes into the map, the message to the worker
that the call took, and the watchdog starts. -/
def post (callId : CallId) (request : MatchRequest) (worker : WorkerId) : Runner :=
  let id := runner.reqSeq + 1
  { runner.postMessage worker (.match id request) with
    reqSeq := id
    pending := update runner.pending id (some callId)
    calls := update runner.calls callId (.racing request id worker (!runner.idle worker)) }

/-- `match` after its watchdog has won the race. -/
def timeOut (callId : CallId) (request : MatchRequest) (id : Nat) (worker : WorkerId) : Runner :=
  { runner.terminate worker with
    matchWorker := none
    pending := update runner.pending id none
    calls := update runner.calls callId (.returned request ⟨none, true⟩) }

/-- `validateSingleProbe`. -/
def validateSingleProbe (engine : RegexEngine) (probeId : ProbeId) (source probe : String)
    (spawns : Bool) : Runner :=
  match runner.ensureMatchWorker spawns with
  | (next, none) =>
    { next with
      probes := update next.probes probeId (.returned (handleValidate engine source probe)) }
  | (next, some worker) =>
    let id := next.reqSeq + 1
    { next.postMessage worker (.validate id source probe) with
      reqSeq := id
      probes := update next.probes probeId (.probing id worker) }

/-- The watchdog of `validateSingleProbe`. -/
def probeTimeOut (probeId : ProbeId) (worker : WorkerId) : Runner :=
  let next := runner.failAllPending.terminate worker
  { next with
    matchWorker := none
    probes := update next.probes probeId (.returned false) }

/-- The probes that listen to a worker return. -/
def resolveProbes (concerns : Nat → WorkerId → Bool) (safe : Bool) : Runner :=
  { runner with
    probes := fun probeId =>
      match runner.probes probeId with
      | .probing id worker =>
        if concerns id worker then .returned safe else .probing id worker
      | state => state }

/-- A call whose race is won by its answer. -/
def answered (matched : Option String) : CallState → CallState
  | .racing request _ _ _ => .returned request ⟨matched, false⟩
  | state => state

/-- The `message` handlers. -/
def onMessage (engine : RegexEngine) (worker : WorkerId) : WorkerRequest → Runner
  | .match id request =>
    match runner.pending id with
    | none => runner
    | some callId =>
      { runner with
        pending := update runner.pending id none
        calls := update runner.calls callId
          (answered (handleMatch engine request) (runner.calls callId)) }
  | .validate id source probe =>
    runner.resolveProbes (fun other at_ => other == id && at_ == worker)
      (handleValidate engine source probe)

/-- The `error` handler. -/
def onError : Runner :=
  { runner.failAllPending with matchWorker := none, workerReady := none }

/-- The `exit` handlers, after which the thread is gone. -/
def onExit (worker : WorkerId) : Runner :=
  let next := runner.onError.resolveProbes (fun _ at_ => at_ == worker) false
  { next with workers := update next.workers worker none }

/-- The runner after an event. -/
def after (engine : RegexEngine) : Event → Runner
  | .call callId request spawns => runner.match_ callId request spawns
  | .ready callId =>
    match runner.calls callId with
    | .awaiting request worker => runner.post callId request worker
    | _ => runner
  | .watchdog callId =>
    match runner.calls callId with
    | .racing request id worker _ => runner.timeOut callId request id worker
    | _ => runner
  | .ensure spawns => (runner.ensureMatchWorker spawns).1
  | .probe probeId source probe spawns =>
    runner.validateSingleProbe engine probeId source probe spawns
  | .probeWatchdog probeId =>
    match runner.probes probeId with
    | .probing _ worker => runner.probeTimeOut probeId worker
    | _ => runner
  | .online worker =>
    { runner with
      workers := update runner.workers worker
        ((runner.workers worker).map fun thread => { thread with online := true }) }
  | .message worker =>
    match runner.workers worker with
    | some { queue := first :: rest, online, terminated } =>
      { runner with
        workers := update runner.workers worker
          (some ⟨rest, online, terminated⟩) }.onMessage engine worker first
    | _ => runner
  | .error _ => runner.onError
  | .exit worker => runner.onExit worker

/-- A worker answers a request before the watchdog if the evaluation takes no longer, and after
it otherwise. -/
def mayAnswer (engine : RegexEngine) (thread : WorkerThread) : Bool :=
  match thread.queue with
  | [] => false
  | .match id request :: _ => engine.withinWatchdog request || runner.pending id == none
  | .validate .. :: _ => true

/-- When an event can happen. The watchdog of a request whose evaluation finishes in time fires
only if the worker could not start on it at once or has been terminated since. -/
def Enabled (engine : RegexEngine) : Event → Prop
  | .call callId _ _ => runner.calls callId = .absent
  | .ready callId => ∃ request worker, runner.calls callId = .awaiting request worker
  | .watchdog callId => ∃ request id worker delayed,
      runner.calls callId = .racing request id worker delayed ∧
        (engine.withinWatchdog request = false ∨ delayed = true ∨ runner.running worker = false)
  | .ensure _ => True
  | .probe probeId _ _ _ => runner.probes probeId = .absent
  | .probeWatchdog probeId => ∃ id worker, runner.probes probeId = .probing id worker
  | .online worker => (runner.workers worker).isSome
  | .message worker => (runner.workers worker).any (runner.mayAnswer engine)
  | .error worker => (runner.workers worker).isSome
  | .exit worker => (runner.workers worker).isSome

end Runner

/-- One event. -/
def Happens (engine : RegexEngine) (runner : Runner) (event : Event) (next : Runner) : Prop :=
  runner.Enabled engine event ∧ next = runner.after engine event

end Bongtalk.Workspaces.AutoMod
