import Bongtalk.Library.EventLoop
import Bongtalk.Library.JobSlot
import Bongtalk.Prisma.Schema

/-!
# Eviction of temporary members

A temporary member stays while one of their sockets is connected. The connected sockets are counted
in a Redis set with a time to live, and the last one to disconnect leaves a job that evicts the
member a little later, unless a socket connects and removes the job.
-/

namespace Bongtalk.Queue

open Library EventLoop Prisma List

structure SocketId where
  value : Nat
deriving DecidableEq, Repr

/-- `TEMP_EVICT_DEBOUNCE_MS`. -/
def tempEvictDebounceMs : Nat := 2000

/-- `TEMP_EVICT_SOCKETS_TTL_SEC`, in milliseconds. -/
def tempEvictSocketsTtlMs : Nat := 60 * 60 * 1000

/-- The statement that a run of `TempEvictProcessor.process` has reached. -/
inductive EvictRun where
  | countSockets
  | findMember
  | deleteMember
  | ending
deriving DecidableEq, Repr

/-- One user in one workspace. -/
structure EvictState where
  now : DateTime
  /-- The column `isTemporary` of the member row, if there is one. -/
  isTemporary : Option Bool
  /-- The Redis set, which is there unless it is empty. -/
  sockets : List SocketId := []
  socketsExpireAt : Option DateTime := none
  job : JobSlot EvictRun := none
  /-- The sockets that are connected. No code reads this or what follows. -/
  connected : List SocketId := []
  /-- The sockets that have disconnected and are not yet removed from the set. -/
  leaving : List SocketId := []
  /-- All sockets that have ever connected. -/
  known : List SocketId := []
  /-- The sockets that are not yet added to the set. -/
  ahead : List SocketId := []
  /-- The sockets that the set has lost by expiring. -/
  dropped : List SocketId := []
  /-- The sockets that the last count has missed, and those that have connected since. -/
  unseen : List SocketId := []
  /-- Which sockets were connected, for each eviction. -/
  evictions : List (List SocketId) := []

/-- A statement of `onSocketConnect` or `onSocketDisconnect`. -/
inductive EvictTask where
  | sadd (socketId : SocketId)
  | expire
  | cancelEvict
  | srem (socketId : SocketId)
  | scard
  | armRemove
  | armAdd
deriving DecidableEq, Repr

namespace EvictState

variable (state : EvictState)

def sadd (socketId : SocketId) : EvictState :=
  { state with
    sockets := socketId :: state.sockets.filter (· != socketId)
    ahead := state.ahead.filter (· != socketId) }

def expire : EvictState :=
  { state with
    socketsExpireAt :=
      if state.sockets = [] then none else some (state.now + tempEvictSocketsTtlMs) }

def srem (socketId : SocketId) : EvictState :=
  let sockets := state.sockets.filter (· != socketId)
  { state with
    sockets := sockets
    socketsExpireAt := if sockets = [] then none else state.socketsExpireAt
    leaving := state.leaving.filter (· != socketId) }

def tick (elapsed : Nat) : EvictState :=
  let now := state.now + elapsed
  if state.socketsExpireAt.any fun expiresAt => decide (expiresAt ≤ now) then
    { state with
      now := now, sockets := [], socketsExpireAt := none
      dropped := state.sockets ++ state.dropped }
  else { state with now := now }

/-- One statement of a run of the processor. -/
def process : EvictRun → EvictState
  | .countSockets =>
    if 0 < state.sockets.length then { state with job := some (.active .ending) }
    else { state with
      job := some (.active .findMember), unseen := state.ahead ++ state.dropped }
  | .findMember =>
    { state with
      job := some (.active (if state.isTemporary = some true then .deleteMember else .ending)) }
  | .deleteMember =>
    match state.isTemporary with
    | none => { state with job := some (.active .ending) }
    | some _ =>
      { state with
        job := some (.active .ending), isTemporary := none
        evictions := state.connected :: state.evictions }
  | .ending => { state with job := some .finished }

end EvictState

/-- One statement of a call. -/
def EvictTask.resume (state : EvictState) : EvictTask → EvictState × List EvictTask
  | .sadd socketId => (state.sadd socketId, [.expire])
  | .expire => (state.expire, [.cancelEvict])
  | .cancelEvict => ({ state with job := state.job.remove }, [])
  | .srem socketId => (state.srem socketId, [.scard])
  | .scard => (state, if 0 < state.sockets.length then [] else [.armRemove])
  | .armRemove => ({ state with job := state.job.remove }, [.armAdd])
  | .armAdd => ({ state with job := state.job.add (state.now + tempEvictDebounceMs) }, [])

inductive EvictInput where
  | connect (socketId : SocketId)
  | disconnect (socketId : SocketId)
  /-- A worker takes the job up. -/
  | startJob
  | process (run : EvictRun)
  /-- The member leaves, or is removed by another. -/
  | leave
  | tick (elapsed : Nat)
deriving DecidableEq, Repr

/-- Each connection has an id of its own, and ends once. -/
def EvictInput.Allowed (state : EvictState) : EvictInput → Prop
  | .connect socketId => socketId ∉ state.known
  | .disconnect socketId => socketId ∈ state.connected
  | .process run => state.job = some (.active run)
  | .startJob | .leave | .tick _ => True

instance (state : EvictState) : DecidablePred (EvictInput.Allowed state)
  | .connect socketId => inferInstanceAs (Decidable (socketId ∉ state.known))
  | .disconnect socketId => inferInstanceAs (Decidable (socketId ∈ state.connected))
  | .process run => inferInstanceAs (Decidable (state.job = some (.active run)))
  | .startJob | .leave | .tick _ => .isTrue trivial

def EvictInput.after (state : EvictState) : EvictInput → EvictState
  | .connect socketId =>
    { state with
      connected := socketId :: state.connected, known := socketId :: state.known
      ahead := socketId :: state.ahead, unseen := socketId :: state.unseen }
  | .disconnect socketId =>
    { state with
      connected := state.connected.filter (· != socketId)
      leaving := socketId :: state.leaving }
  | .startJob => { state with job := state.job.start state.now .countSockets }
  | .process run => state.process run
  | .leave => { state with isTemporary := none }
  | .tick elapsed => state.tick elapsed

def EvictInput.starts : EvictInput → List EvictTask
  | .connect socketId => [.sadd socketId]
  | .disconnect socketId => [.srem socketId]
  | .startJob | .process _ | .leave | .tick _ => []

def evictLoop : EventLoop EvictState EvictTask EvictInput where
  resume := EvictTask.resume
  Accepts state input next spawned :=
    input.Allowed state ∧ next = input.after state ∧ spawned = input.starts

/-- A member without sockets. -/
def EvictState.initial (now : DateTime) (isTemporary : Option Bool) : EvictState :=
  { now := now, isTemporary := isTemporary }

/-- The job is still there, and may still evict. -/
def Pending (job : JobSlot EvictRun) : Prop :=
  job ≠ none ∧ job ≠ some .finished

/-- Nobody is evicted with a socket connected. When all sockets have disconnected and their calls are
through, a temporary member is removed already or a job is pending. -/
structure EvictsWhenGone (state : State EvictState EvictTask) : Prop where
  unconnected : ∀ connected ∈ state.shared.evictions, connected = []
  pending : state.tasks = [] → state.shared.known ≠ [] → state.shared.connected = [] →
    state.shared.isTemporary = some true → Pending state.shared.job

/-- A call that will get to add the job, unless a socket is in the set. -/
def EvictTask.Arms : EvictTask → Prop
  | .scard | .armRemove | .armAdd => True
  | .sadd _ | .expire | .cancelEvict | .srem _ => False

instance : DecidablePred EvictTask.Arms
  | .scard | .armRemove | .armAdd => .isTrue trivial
  | .sadd _ | .expire | .cancelEvict | .srem _ => .isFalse id

/-- The job has counted sockets, or is over. -/
def Spent (job : JobSlot EvictRun) : Prop :=
  job = some (.active .ending) ∨ job = some .finished

/-- The member is left without sockets by all calls but some. -/
structure Left (state : EvictState) (tasks : List EvictTask) : Prop where
  temporary : state.isTemporary = some true
  connected : state.connected = []
  leaving : state.leaving = []
  unarmed : ∀ task ∈ tasks, ¬task.Arms

instance (state : EvictState) (tasks : List EvictTask) : Decidable (Left state tasks) :=
  decidable_of_iff (state.isTemporary = some true ∧ state.connected = [] ∧ state.leaving = [] ∧
      ∀ task ∈ tasks, ¬task.Arms)
    ⟨fun ⟨temporary, connected, leaving, unarmed⟩ => ⟨temporary, connected, leaving, unarmed⟩,
      fun left => ⟨left.temporary, left.connected, left.leaving, left.unarmed⟩⟩

/-- The steps in order: a socket is added to the set before it is removed; a connect removes no job
that nobody adds again, and a disconnect does not find the id of its job taken by one that is
spent; and the processor deletes nobody with a socket that its count has missed. -/
def InOrder (state : State EvictState EvictTask) : Label EvictTask EvictInput → Prop
  | .resume _ (.sadd socketId) _ =>
    socketId ∈ state.shared.connected ∨ socketId ∈ state.shared.leaving
  | .resume before .cancelEvict after =>
    state.shared.job.remove ≠ state.shared.job → ¬Left state.shared (before ++ after)
  | .resume before .armAdd after => Spent state.shared.job → ¬Left state.shared (before ++ after)
  | .accept (.process .deleteMember) =>
    ∀ socketId ∈ state.shared.unseen, socketId ∉ state.shared.connected
  | _ => True

instance (state : State EvictState EvictTask) : DecidablePred (InOrder state)
  | .resume _ (.sadd socketId) _ =>
    inferInstanceAs (Decidable (socketId ∈ state.shared.connected ∨ _))
  | .resume before .cancelEvict after =>
    inferInstanceAs (Decidable (state.shared.job.remove ≠ _ → ¬Left _ (before ++ after)))
  | .resume before .armAdd after =>
    inferInstanceAs (Decidable (_ ∨ _ → ¬Left state.shared (before ++ after)))
  | .accept (.process .deleteMember) =>
    inferInstanceAs (Decidable (∀ socketId ∈ state.shared.unseen, _))
  | .resume _ .expire _ | .resume _ (.srem _) _ | .resume _ .scard _ | .resume _ .armRemove _
  | .accept (.process .countSockets) | .accept (.process .findMember)
  | .accept (.process .ending) | .accept (.connect _) | .accept (.disconnect _)
  | .accept .startJob | .accept .leave | .accept (.tick _) => .isTrue trivial

/-- The invariant behind the law. -/
structure EvictSound (state : State EvictState EvictTask) : Prop where
  known : ∀ socketId ∈ state.shared.connected, socketId ∈ state.shared.known
  /-- A socket is in the set, or is not yet added, or was lost. -/
  counted : ∀ socketId ∈ state.shared.connected,
    socketId ∈ state.shared.ahead ∨ socketId ∈ state.shared.sockets ∨
      socketId ∈ state.shared.dropped
  /-- A run that has counted no socket has missed those that are connected. -/
  missed : state.shared.job = some (.active .findMember) ∨
      state.shared.job = some (.active .deleteMember) →
    ∀ socketId ∈ state.shared.connected, socketId ∈ state.shared.unseen
  /-- The set has no socket that is gone. -/
  live : ∀ socketId ∈ state.shared.sockets,
    socketId ∈ state.shared.connected ∨ socketId ∈ state.shared.leaving
  leaving : ∀ socketId ∈ state.shared.leaving, .srem socketId ∈ state.tasks
  gone : ∀ socketId, .srem socketId ∈ state.tasks →
    socketId ∈ state.shared.known ∧ socketId ∉ state.shared.connected
  /-- When all sockets are gone, a job that may still evict is there or on its way. -/
  covered : state.shared.known ≠ [] → Left state.shared state.tasks →
    state.shared.job ≠ none ∧ ¬Spent state.shared.job
  evictions : ∀ connected ∈ state.shared.evictions, connected = []

section Resume

variable {shared : EvictState} {before after spawned : List EvictTask} {task : EvictTask}

variable {socketId : SocketId}

/-- A task that neither removes a socket nor arms the job has no part in the facts about tasks. -/
theorem srem_mem_resumed (notSrem : ∀ socketId, task ≠ .srem socketId)
    (fresh : ∀ socketId, .srem socketId ∉ spawned) :
    .srem socketId ∈ before ++ spawned ++ after ↔ .srem socketId ∈ before ++ task :: after := by
  rw [mem_resumed, mem_pending]
  constructor
  · rintro (waits | isNew)
    · exact .inr waits
    · exact absurd isNew (fresh socketId)
  · rintro (same | waits)
    · exact absurd same.symm (notSrem socketId)
    · exact .inl waits

theorem Left.waiting (left : Left shared (before ++ spawned ++ after)) :
    Left shared (before ++ after) :=
  ⟨left.temporary, left.connected, left.leaving,
    fun other waits => left.unarmed other (mem_resumed.mpr (.inl waits))⟩

theorem Left.of_resumed (left : Left shared (before ++ spawned ++ after))
    (harmless : ¬task.Arms) : Left shared (before ++ task :: after) := by
  refine ⟨left.temporary, left.connected, left.leaving, fun other pending => ?_⟩
  rcases mem_pending.mp pending with rfl | waits
  · exact harmless
  · exact left.waiting.unarmed other waits

/-- A statement that writes only the job and the time to live. -/
theorem EvictSound.resume_job (sound : EvictSound ⟨shared, before ++ task :: after⟩)
    (notSrem : ∀ socketId, task ≠ .srem socketId)
    (fresh : ∀ socketId, .srem socketId ∉ spawned) {expiresAt : Option DateTime}
    {job : JobSlot EvictRun}
    (runs : ∀ run, job = some (.active run) → shared.job = some (.active run))
    (covered : shared.known ≠ [] → Left shared (before ++ spawned ++ after) →
      job ≠ none ∧ ¬Spent job) :
    EvictSound ⟨{ shared with socketsExpireAt := expiresAt, job := job },
      before ++ spawned ++ after⟩ where
  known := sound.known
  counted := sound.counted
  missed := fun counting => sound.missed (counting.imp (runs _) (runs _))
  live := sound.live
  leaving := fun socketId isLeaving =>
    (srem_mem_resumed notSrem fresh).mpr (sound.leaving socketId isLeaving)
  gone := fun socketId pending => sound.gone socketId ((srem_mem_resumed notSrem fresh).mp pending)
  covered := fun someKnown left =>
    covered someKnown ⟨left.temporary, left.connected, left.leaving, left.unarmed⟩
  evictions := sound.evictions

theorem EvictSound.sadd (sound : EvictSound ⟨shared, before ++ .sadd socketId :: after⟩)
    (inOrder : socketId ∈ shared.connected ∨ socketId ∈ shared.leaving) :
    EvictSound ⟨shared.sadd socketId, before ++ [.expire] ++ after⟩ := by
  have notSrem (other : SocketId) : EvictTask.sadd socketId ≠ .srem other := by simp
  have fresh (other : SocketId) : EvictTask.srem other ∉ [EvictTask.expire] := by simp
  refine ⟨sound.known, fun other isConnected => ?_, sound.missed, fun other inSet => ?_,
    fun other isLeaving => (srem_mem_resumed notSrem fresh).mpr (sound.leaving other isLeaving),
    fun other pending => sound.gone other ((srem_mem_resumed notSrem fresh).mp pending),
    fun someKnown left => ?_, sound.evictions⟩
  · by_cases same : other = socketId
    · exact .inr (.inl (same ▸ mem_cons_self))
    rcases sound.counted other isConnected with isAhead | inSet | isDropped
    · exact .inl (mem_filter.mpr ⟨isAhead, by simpa using same⟩)
    · exact .inr (.inl (mem_cons_of_mem _ (mem_filter.mpr ⟨inSet, by simpa using same⟩)))
    · exact .inr (.inr isDropped)
  · rcases mem_cons.mp inSet with rfl | wasInSet
    · exact inOrder
    · exact sound.live other (mem_filter.mp wasInSet).1
  · have leftNow : Left shared (before ++ [.expire] ++ after) :=
      ⟨left.temporary, left.connected, left.leaving, left.unarmed⟩
    exact sound.covered someKnown (leftNow.of_resumed (by simp [EvictTask.Arms]))

theorem EvictSound.srem (sound : EvictSound ⟨shared, before ++ .srem socketId :: after⟩) :
    EvictSound ⟨shared.srem socketId, before ++ [.scard] ++ after⟩ := by
  have waiting {other : SocketId} (pending : .srem other ∈ before ++ [.scard] ++ after) :
      .srem other ∈ before ++ .srem socketId :: after := by
    rcases mem_resumed.mp pending with waits | isNew
    · exact mem_pending.mpr (.inr waits)
    · simp at isNew
  have notConnected := (sound.gone socketId (mem_pending.mpr (.inl rfl))).2
  refine ⟨sound.known, fun other isConnected => ?_, sound.missed, fun other inSet => ?_,
    fun other isLeaving => ?_, fun other pending => sound.gone other (waiting pending),
    fun _ left => absurd (left.unarmed .scard mem_left) (by simp [EvictTask.Arms]),
    sound.evictions⟩
  · have different : other ≠ socketId := fun same => notConnected (same ▸ isConnected)
    refine (sound.counted other isConnected).imp_right (Or.imp_left fun inSet => ?_)
    exact mem_filter.mpr ⟨inSet, by simpa using different⟩
  · obtain ⟨wasInSet, different⟩ := mem_filter.mp inSet
    exact (sound.live other wasInSet).imp_right fun isLeaving =>
      mem_filter.mpr ⟨isLeaving, different⟩
  · obtain ⟨wasLeaving, different⟩ := mem_filter.mp isLeaving
    rcases mem_pending.mp (sound.leaving other wasLeaving) with same | waits
    · cases same
      simp at different
    · exact mem_resumed.mpr (.inl waits)

/-- No socket is left in the set when all are gone. -/
theorem EvictSound.sockets_eq_nil {tasks others : List EvictTask}
    (sound : EvictSound ⟨shared, tasks⟩) (left : Left shared others) : shared.sockets = [] := by
  refine eq_nil_iff_forall_not_mem.mpr fun socketId inSet => ?_
  rcases sound.live socketId inSet with isConnected | isLeaving
  · exact not_mem_nil (left.connected ▸ isConnected)
  · exact not_mem_nil (left.leaving ▸ isLeaving)

theorem evictSound_resume (sound : EvictSound ⟨shared, before ++ task :: after⟩)
    (inOrder : InOrder ⟨shared, before ++ task :: after⟩ (.resume before task after)) :
    EvictSound ⟨(task.resume shared).1, before ++ (task.resume shared).2 ++ after⟩ := by
  cases task with
  | sadd socketId => exact sound.sadd inOrder
  | srem socketId => exact sound.srem
  | expire =>
    refine sound.resume_job (by simp) (by simp [EvictTask.resume]) (fun _ => id)
      fun someKnown left => ?_
    exact sound.covered someKnown (left.of_resumed (by simp [EvictTask.Arms]))
  | cancelEvict =>
    refine sound.resume_job (by simp) (by simp [EvictTask.resume])
      (fun _ => JobSlot.eq_active_of_remove) fun someKnown left => ?_
    obtain ⟨isThere, notSpent⟩ :=
      sound.covered someKnown (left.of_resumed (by simp [EvictTask.Arms]))
    match found : shared.job with
    | none => exact absurd found isThere
    | some (.active run) => simpa [found] using notSpent
    | some (.delayed due) => exact absurd left.waiting (inOrder (by simp [found]))
    | some .finished => exact absurd left.waiting (inOrder (by simp [found]))
  | scard =>
    refine sound.resume_job (by simp) (fun socketId isNew => ?_) (fun _ => id) fun _ left => ?_
    · simp only [EvictTask.resume] at isNew
      split at isNew
      · cases isNew
      · simp at isNew
    · have counted : (EvictTask.scard.resume shared).2 = [.armRemove] := by
        simp [EvictTask.resume, sound.sockets_eq_nil left]
      rw [counted] at left
      exact absurd (left.unarmed .armRemove mem_left) (by simp [EvictTask.Arms])
  | armRemove =>
    refine sound.resume_job (by simp) (by simp [EvictTask.resume])
      (fun _ => JobSlot.eq_active_of_remove) fun _ left => ?_
    exact absurd (left.unarmed .armAdd mem_left) (by simp [EvictTask.Arms])
  | armAdd =>
    refine sound.resume_job (by simp) (by simp [EvictTask.resume])
      (fun _ => JobSlot.eq_active_of_add) fun someKnown left => ?_
    have notSpent : ¬Spent shared.job := fun spent => inOrder spent left.waiting
    match found : shared.job with
    | none => simp [Spent]
    | some job => simpa [found] using notSpent

end Resume

section Accept

variable {shared : EvictState} {tasks : List EvictTask}

variable (sound : EvictSound ⟨shared, tasks⟩)

include sound

theorem EvictSound.connect {socketId : SocketId} (isNew : socketId ∉ shared.known) :
    EvictSound ⟨EvictInput.after shared (.connect socketId), tasks ++ [.sadd socketId]⟩ where
  known := forall_mem_cons.mpr ⟨mem_cons_self,
    fun other isConnected => mem_cons_of_mem _ (sound.known other isConnected)⟩
  counted := forall_mem_cons.mpr ⟨.inl mem_cons_self,
    fun other isConnected => (sound.counted other isConnected).imp_left (mem_cons_of_mem _)⟩
  missed := fun counting => forall_mem_cons.mpr ⟨mem_cons_self,
    fun other isConnected => mem_cons_of_mem _ (sound.missed counting other isConnected)⟩
  live := fun other inSet => (sound.live other inSet).imp_left (mem_cons_of_mem _)
  leaving := fun other isLeaving => mem_append_left _ (sound.leaving other isLeaving)
  gone := by
    intro other pending
    have waits : .srem other ∈ tasks := by simpa using pending
    obtain ⟨isKnown, notConnected⟩ := sound.gone other waits
    refine ⟨mem_cons_of_mem _ isKnown, fun isConnected => ?_⟩
    rcases mem_cons.mp isConnected with rfl | wasConnected
    · exact isNew isKnown
    · exact notConnected wasConnected
  covered := fun _ left => absurd left.connected (cons_ne_nil _ _)
  evictions := sound.evictions

theorem EvictSound.disconnect {socketId : SocketId} (isConnected : socketId ∈ shared.connected) :
    EvictSound ⟨EvictInput.after shared (.disconnect socketId), tasks ++ [.srem socketId]⟩ where
  known := fun other stays => sound.known other (mem_filter.mp stays).1
  counted := fun other stays => sound.counted other (mem_filter.mp stays).1
  missed := fun counting other stays => sound.missed counting other (mem_filter.mp stays).1
  live := by
    intro other inSet
    rcases sound.live other inSet with wasConnected | isLeaving
    · by_cases same : other = socketId
      · exact .inr (same ▸ mem_cons_self)
      · exact .inl (mem_filter.mpr ⟨wasConnected, by simpa using same⟩)
    · exact .inr (mem_cons_of_mem _ isLeaving)
  leaving := forall_mem_cons.mpr ⟨mem_append_right _ (mem_singleton_self _),
    fun other isLeaving => mem_append_left _ (sound.leaving other isLeaving)⟩
  gone := by
    intro other pending
    rcases mem_append.mp pending with waits | isNew
    · obtain ⟨isKnown, notConnected⟩ := sound.gone other waits
      exact ⟨isKnown, fun stays => notConnected (mem_filter.mp stays).1⟩
    · obtain rfl := EvictTask.srem.inj (mem_singleton.mp isNew)
      refine ⟨sound.known other isConnected, fun stays => ?_⟩
      simpa using (mem_filter.mp stays).2
  covered := fun _ left => absurd left.leaving (cons_ne_nil _ _)
  evictions := sound.evictions

/-- An input that writes only the job, and what a count has missed. -/
theorem EvictSound.accept_job {job : JobSlot EvictRun} {unseen : List SocketId}
    (missed : job = some (.active .findMember) ∨ job = some (.active .deleteMember) → ∀ socketId ∈
      shared.connected, socketId ∈ unseen)
    (covered : shared.known ≠ [] → Left shared tasks → job ≠ none ∧ ¬Spent job) :
    EvictSound ⟨{ shared with job := job, unseen := unseen }, tasks⟩ where
  known := sound.known
  counted := sound.counted
  missed := missed
  live := sound.live
  leaving := sound.leaving
  gone := sound.gone
  covered := fun someKnown left =>
    covered someKnown ⟨left.temporary, left.connected, left.leaving, left.unarmed⟩
  evictions := sound.evictions

theorem EvictSound.startJob :
    EvictSound ⟨EvictInput.after shared .startJob, tasks⟩ := by
  refine sound.accept_job (fun counting => sound.missed ?_) fun someKnown left => ?_
  · exact counting.imp (fun started => JobSlot.eq_active_of_start started (by decide))
      fun started => JobSlot.eq_active_of_start started (by decide)
  · obtain ⟨isThere, notSpent⟩ := sound.covered someKnown left
    match found : shared.job with
    | none => exact absurd found isThere
    | some (.delayed due) =>
      rw [JobSlot.start]
      split <;> simp [Spent]
    | some (.active _) | some .finished => simpa [found, JobSlot.start] using notSpent

theorem EvictSound.process {run : EvictRun} (atRun : shared.job = some (.active run))
    (inOrder : InOrder ⟨shared, tasks⟩ (.accept (.process run))) :
    EvictSound ⟨shared.process run, tasks⟩ := by
  cases run with
  | countSockets =>
    rw [EvictState.process]
    split
    next some =>
      refine sound.accept_job (by simp) fun _ left => ?_
      rw [sound.sockets_eq_nil left] at some
      exact absurd some (by decide)
    next none =>
      refine sound.accept_job (fun _ socketId isConnected => ?_) fun _ _ => by simp [Spent]
      have empty : shared.sockets = [] := by simpa using none
      rcases sound.counted socketId isConnected with isAhead | inSet | isDropped
      · exact mem_append_left _ isAhead
      · exact absurd inSet (by simp [empty])
      · exact mem_append_right _ isDropped
  | findMember =>
    refine sound.accept_job (fun _ => sound.missed (.inl atRun)) fun _ left => ?_
    simp [left.temporary, Spent]
  | deleteMember =>
    rw [EvictState.process]
    split
    next missing =>
      refine sound.accept_job (by simp) fun _ left => ?_
      exact absurd (left.temporary.symm.trans missing) (by simp)
    next =>
      refine ⟨sound.known, sound.counted, by simp, sound.live, sound.leaving, sound.gone,
        fun _ left => absurd left.temporary (by simp), forall_mem_cons.mpr ⟨?_, sound.evictions⟩⟩
      refine eq_nil_iff_forall_not_mem.mpr fun socketId isConnected => ?_
      exact inOrder socketId (sound.missed (.inr atRun) socketId isConnected) isConnected
  | ending =>
    refine sound.accept_job (by simp) fun someKnown left => ?_
    exact absurd (.inl atRun) (sound.covered someKnown left).2

theorem EvictSound.tick (elapsed : Nat) :
    EvictSound ⟨shared.tick elapsed, tasks⟩ := by
  rw [EvictState.tick]
  split
  · refine ⟨sound.known, fun socketId isConnected => ?_, sound.missed, forall_mem_nil _,
      sound.leaving, sound.gone, fun someKnown left => ?_, sound.evictions⟩
    · rcases sound.counted socketId isConnected with isAhead | inSet | isDropped
      · exact .inl isAhead
      · exact .inr (.inr (mem_append_left _ inSet))
      · exact .inr (.inr (mem_append_right _ isDropped))
    · exact sound.covered someKnown ⟨left.temporary, left.connected, left.leaving, left.unarmed⟩
  · refine ⟨sound.known, sound.counted, sound.missed, sound.live, sound.leaving, sound.gone,
      fun someKnown left => ?_, sound.evictions⟩
    exact sound.covered someKnown ⟨left.temporary, left.connected, left.leaving, left.unarmed⟩

theorem evictSound_accept {input : EvictInput} (allowed : input.Allowed shared)
    (inOrder : InOrder ⟨shared, tasks⟩ (.accept input)) :
    EvictSound ⟨input.after shared, tasks ++ input.starts⟩ := by
  cases input with
  | connect socketId => exact sound.connect allowed
  | disconnect socketId => exact sound.disconnect allowed
  | startJob => simpa [EvictInput.starts] using sound.startJob
  | process run => simpa [EvictInput.starts, EvictInput.after] using sound.process allowed inOrder
  | leave =>
    refine ⟨sound.known, sound.counted, sound.missed, sound.live, ?_, ?_,
      fun _ left => absurd left.temporary (by simp [EvictInput.after]), sound.evictions⟩
    · simpa [EvictInput.starts, EvictInput.after] using sound.leaving
    · simpa [EvictInput.starts, EvictInput.after] using sound.gone
  | tick elapsed => simpa [EvictInput.starts, EvictInput.after] using sound.tick elapsed

end Accept

/-- With its steps in order, a run evicts nobody who is connected and loses no eviction. -/
theorem evicts_when_gone {now : DateTime} {isTemporary : Option Bool}
    {labels : List (EventLoop.Label EvictTask EvictInput)} {finish : State EvictState EvictTask}
    (steps : Steps (Guarded (Step evictLoop) InOrder) ⟨.initial now isTemporary, []⟩ labels finish) :
    EvictsWhenGone finish := by
  have sound : EvictSound finish := by
    refine steps.preserves EvictSound ?_ ⟨by simp [EvictState.initial], by simp [EvictState.initial],
      by simp [EvictState.initial], by simp [EvictState.initial], by simp [EvictState.initial],
      by simp, fun someKnown => absurd rfl someKnown, by simp [EvictState.initial]⟩
    rintro state label next ⟨transition, inOrder⟩ sound
    cases transition with
    | resume before task after => exact evictSound_resume sound inOrder
    | accept accepted =>
      obtain ⟨allowed, rfl, rfl⟩ := accepted
      exact evictSound_accept sound allowed inOrder
  refine ⟨sound.evictions, fun through someKnown connected temporary => ?_⟩
  have leaving : finish.shared.leaving = [] := by
    refine eq_nil_iff_forall_not_mem.mpr fun socketId isLeaving => ?_
    exact not_mem_nil (through ▸ sound.leaving socketId isLeaving)
  obtain ⟨isThere, notSpent⟩ := sound.covered someKnown
    ⟨temporary, connected, leaving, fun task pending => absurd (through ▸ pending) not_mem_nil⟩
  exact ⟨isThere, fun finished => notSpent (.inr finished)⟩

/-- The member's device connects and disconnects, and the job evicts the member in time. -/
def connectAndLeave : List (Move EvictInput) :=
  [.accept (.connect ⟨1⟩), .run 0, .run 0, .run 0,
    .accept (.tick 60000), .accept (.disconnect ⟨1⟩), .run 0, .run 0, .run 0, .run 0,
    .accept (.tick 2000), .accept .startJob, .accept (.process .countSockets),
    .accept (.process .findMember), .accept (.process .deleteMember)]

/-- A first device stays connected for longer than the set lives, a second one comes and goes. -/
def connectForLong : List (Move EvictInput) :=
  [.accept (.connect ⟨1⟩), .run 0, .run 0, .run 0, .accept (.tick 3600000),
    .accept (.connect ⟨2⟩), .run 0, .run 0, .run 0,
    .accept (.disconnect ⟨2⟩), .run 0, .run 0, .run 0, .run 0,
    .accept (.tick 2000), .accept .startJob, .accept (.process .countSockets),
    .accept (.process .findMember), .accept (.process .deleteMember)]

/-- A device disconnects before its connect has removed the job of an earlier disconnect. -/
def cancelLate : List (Move EvictInput) :=
  [.accept (.connect ⟨1⟩), .run 0, .run 0, .accept (.disconnect ⟨1⟩), .run 1, .run 1, .run 1, .run 1,
    .run 0]

/-- A script of inputs that can happen, and of steps in order if need be. -/
def accepted (inOrder : Bool) (state : State EvictState EvictTask)
    (label : EventLoop.Label EvictTask EvictInput) : Bool :=
  (match label with
    | .accept input => decide (input.Allowed state.shared)
    | .resume _ _ _ => true) &&
  (!inOrder || decide (InOrder state label))

theorem accepts_of_accepted {inOrder : Bool} (state : State EvictState EvictTask)
    (input : EvictInput) (passed : accepted inOrder state (.accept input) = true) :
    evictLoop.Accepts state.shared input (input.after state.shared) input.starts := by
  rw [accepted, Bool.and_eq_true, decide_eq_true_iff] at passed
  exact ⟨passed.1, rfl, rfl⟩

def playEvict (inOrder : Bool) (moves : List (Move EvictInput)) :
    Option (State EvictState EvictTask) :=
  evictLoop.play (fun state input => (input.after state, input.starts)) (accepted inOrder)
    ⟨.initial 0 (some true), []⟩ moves

theorem exists_run_of_playEvict (inOrder : Bool) {P : State EvictState EvictTask → Prop}
    (moves : List (Move EvictInput)) (played : ∃ finish ∈ playEvict inOrder moves, P finish) :
    ∃ labels finish,
      Steps (Guarded (Step evictLoop) fun state label => inOrder = true → InOrder state label)
        ⟨.initial 0 (some true), []⟩ labels finish ∧ P finish := by
  refine exists_run_of_play accepts_of_accepted (fun state label passed ordered => ?_) id moves played
  simpa [ordered] using (Bool.and_eq_true_iff.mp passed).2

/-- A member whose one device disconnects is evicted. -/
theorem connect_and_leave_evicts : ∃ labels finish,
    Steps (Guarded (Step evictLoop) InOrder) ⟨.initial 0 (some true), []⟩ labels finish ∧
      EvictsWhenGone finish ∧ finish.shared.evictions = [[]] := by
  obtain ⟨labels, finish, steps, evicted⟩ := exists_run_of_playEvict true connectAndLeave
    (P := fun finish => finish.shared.evictions = [[]]) (by decide +kernel)
  have inOrder := steps.mono fun step => And.imp_right (fun ordered => ordered rfl) step
  exact ⟨labels, finish, inOrder, evicts_when_gone inOrder, evicted⟩

/-- A member is evicted with a device connected, after the set has expired under it; and an
eviction is lost when a connect removes the job of its own disconnect. -/
theorem evicted_and_not_evicted :
    (∃ labels finish, Steps (Step evictLoop) ⟨.initial 0 (some true), []⟩ labels finish ∧
      finish.shared.evictions = [[⟨1⟩]] ∧ ¬EvictsWhenGone finish) ∧
    ∃ labels finish, Steps (Step evictLoop) ⟨.initial 0 (some true), []⟩ labels finish ∧
      finish.shared.isTemporary = some true ∧ finish.shared.job = none ∧
        ¬EvictsWhenGone finish := by
  constructor
  · obtain ⟨labels, finish, steps, evictions⟩ := exists_run_of_playEvict false connectForLong
      (P := fun finish => finish.shared.evictions = [[⟨1⟩]]) (by decide +kernel)
    refine ⟨labels, finish, steps.mono And.left, evictions, fun law => ?_⟩
    have unconnected := law.unconnected [⟨1⟩] (by simp [evictions])
    cases unconnected
  · obtain ⟨labels, finish, steps, through, someKnown, connected, temporary, noJob⟩ :=
      exists_run_of_playEvict false cancelLate
        (P := fun finish => finish.tasks = [] ∧ finish.shared.known ≠ [] ∧
          finish.shared.connected = [] ∧ finish.shared.isTemporary = some true ∧
          finish.shared.job = none) (by decide +kernel)
    refine ⟨labels, finish, steps.mono And.left, temporary, noJob, fun law => ?_⟩
    exact (law.pending through someKnown connected temporary).1 noJob

end Bongtalk.Queue
