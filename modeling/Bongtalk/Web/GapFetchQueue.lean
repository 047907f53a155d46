import Bongtalk.Library.System
import Bongtalk.Prisma.Schema

/-!
# The queue of gap fetches

After a reconnect each channel fetches what it has missed: so many at once, the others in turn.
-/

namespace Bongtalk.Web

open Library List Prisma

/-- The queue, with the channels taken and those begun, the last one last. -/
structure GapFetchQueue where
  concurrency : Nat
  queue : List ChannelId := []
  active : List ChannelId := []
  /-- The keys of the promises. -/
  inflight : List ChannelId := []
  taken : List ChannelId := []
  started : List ChannelId := []

namespace GapFetchQueue

inductive Event where
  | enqueue (channelId : ChannelId)
  /-- A fetch ends, with or without an error. -/
  | finish (channelId : ChannelId)
  | delete (channelId : ChannelId)

/-- `pump`, with the tasks that wait. -/
def pump (state : GapFetchQueue) : List ChannelId → GapFetchQueue
  | [] => { state with queue := [] }
  | task :: rest =>
    if state.active.length < state.concurrency then
      pump { state with
        active := state.active.insert task
        started := state.started ++ [task] } rest
    else { state with queue := task :: rest }

def enqueue (state : GapFetchQueue) (channelId : ChannelId) : GapFetchQueue :=
  if channelId ∈ state.inflight then state
  else
    -- The key is set behind `pump`, which does not look at it.
    pump { state with
      inflight := channelId :: state.inflight
      taken := state.taken ++ [channelId] } (state.queue ++ [channelId])

def finish (state : GapFetchQueue) (channelId : ChannelId) : GapFetchQueue :=
  pump { state with
    active := state.active.erase channelId } state.queue

def delete (state : GapFetchQueue) (channelId : ChannelId) : GapFetchQueue :=
  { state with inflight := state.inflight.filter (· ≠ channelId) }

inductive Step (state : GapFetchQueue) : Event → GapFetchQueue → Prop where
  | enqueue (channelId) : Step state (.enqueue channelId) (state.enqueue channelId)
  | finish {channelId} (fetches : channelId ∈ state.active) :
      Step state (.finish channelId) (state.finish channelId)
  /-- The promise of the key is settled. -/
  | delete {channelId} (isSettled : channelId ∉ state.queue ++ state.active) :
      Step state (.delete channelId) (state.delete channelId)

/-- What holds while the given tasks wait. -/
structure Orderly (state : GapFetchQueue) (waiting : List ChannelId) : Prop where
  apart : (waiting ++ state.active).Nodup
  known : waiting ++ state.active ⊆ state.inflight
  bounded : state.active.length ≤ state.concurrency
  inTurn : state.started ++ waiting = state.taken

/-- Nothing waits while a place is free. -/
structure Sound (state : GapFetchQueue) : Prop where
  orderly : state.Orderly state.queue
  busy : state.queue ≠ [] → state.active.length = state.concurrency

variable {state next : GapFetchQueue} {waiting : List ChannelId}

theorem Orderly.pump (orderly : state.Orderly waiting) : (state.pump waiting).Sound := by
  induction waiting generalizing state with
  | nil =>
    obtain ⟨apart, known, bounded, inTurn⟩ := orderly
    exact ⟨⟨apart, known, bounded, inTurn⟩, fun waits => absurd rfl waits⟩
  | cons task rest ih =>
    obtain ⟨apart, known, bounded, inTurn⟩ := orderly
    unfold GapFetchQueue.pump
    split
    next free =>
      have idle : task ∉ state.active := by
        intro fetches
        exact (nodup_cons.mp apart).1 (mem_append_right _ fetches)
      rw [insert_of_not_mem idle]
      have moved : (rest ++ task :: state.active).Perm (task :: rest ++ state.active) :=
        perm_middle
      apply ih
      constructor
      · exact moved.nodup_iff.mpr apart
      · exact Subset.trans moved.subset known
      · exact free
      · rw [append_assoc]
        exact inTurn
    next full =>
      exact ⟨⟨apart, known, bounded, inTurn⟩, fun _ => Nat.le_antisymm bounded (Nat.not_lt.mp full)⟩

theorem Sound.step {event : Event} (sound : state.Sound) (step : Step state event next) :
    next.Sound := by
  have ⟨apart, known, bounded, inTurn⟩ := sound.orderly
  cases step with
  | enqueue channelId =>
    unfold GapFetchQueue.enqueue
    split
    next => exact sound
    next isNew =>
      have moved : (state.queue ++ [channelId] ++ state.active).Perm
          (channelId :: (state.queue ++ state.active)) := by
        rw [append_assoc]
        exact perm_middle
      apply Orderly.pump
      constructor
      · rw [moved.nodup_iff, nodup_cons]
        exact ⟨fun listed => isNew (known listed), apart⟩
      · exact Subset.trans moved.subset (cons_subset_cons channelId known)
      · exact bounded
      · rw [← append_assoc, inTurn]
  | @finish channelId fetches =>
    have fewer : state.queue ++ state.active.erase channelId <+ state.queue ++ state.active :=
      erase_sublist.append_left state.queue
    exact Orderly.pump ⟨apart.sublist fewer, Subset.trans fewer.subset known,
      erase_sublist.length_le.trans bounded, inTurn⟩
  | delete isSettled =>
    refine ⟨⟨apart, fun id listed => ?_, bounded, inTurn⟩, sound.busy⟩
    apply mem_filter.mpr
    exact ⟨known listed, decide_eq_true fun same => isSettled (same ▸ listed)⟩

/-- In every run at most so many channels fetch at once, none of them twice, and they begin in the
order in which they were taken. A channel waits only while all places are taken. -/
theorem fetches_in_turn {concurrency : Nat} {events : List Event} {finish : GapFetchQueue}
    (steps : Steps Step { concurrency } events finish) :
    finish.active.length ≤ finish.concurrency ∧ (finish.queue ++ finish.active).Nodup ∧
      finish.started ++ finish.queue = finish.taken ∧
      (finish.queue ≠ [] → finish.active.length = finish.concurrency) := by
  have initially : Sound { concurrency } :=
    ⟨⟨nodup_nil, nofun, Nat.zero_le _, rfl⟩, fun waits => absurd rfl waits⟩
  have sound := steps.preserves Sound (fun step sound => sound.step step) initially
  exact ⟨sound.orderly.bounded, sound.orderly.apart, sound.orderly.inTurn, sound.busy⟩

theorem second_channel_waits : ∃ finish : GapFetchQueue, finish.started = [⟨1⟩, ⟨2⟩] ∧
    finish.started ++ finish.queue = finish.taken := by
  have steps : Steps Step { concurrency := 1 } _ _ :=
    .step (.step (.step .refl (.enqueue ⟨1⟩)) (.enqueue ⟨2⟩)) (.finish mem_cons_self)
  exact ⟨_, rfl, (fetches_in_turn steps).2.2.1⟩

end GapFetchQueue

end Bongtalk.Web
