import Mathlib.Data.List.Induction

/-!
# The replay buffer

The stream of a channel holds the latest of what was emitted to it. A client that comes back names the
last event it has received, and gets what the stream holds behind that event.
-/

namespace Bongtalk.Realtime.ReplayBuffer

open List

/-- The fields of an entry; the payload is JSON text. -/
structure Entry where
  id : String
  type : String
  occurredAt : String
  payload : String
deriving DecidableEq, Repr

/-- What a client gets of an entry. -/
structure ReplayEvent (Json : Type) where
  id : String
  type : String
  occurredAt : String
  payload : Option Json
deriving DecidableEq, Repr

structure ReplayRange (Json : Type) where
  events : List (ReplayEvent Json)
  truncated : Bool
deriving DecidableEq, Repr

structure ReplayStream where
  /-- All that has been appended so far. -/
  appended : List Entry := []
  /-- What `XRANGE - +` returns. -/
  entries : List Entry := []
deriving DecidableEq, Repr

inductive Change where
  | append (event : Entry)
  /-- `MAXLEN ~` drops the oldest entries. -/
  | trim (count : Nat)
deriving DecidableEq, Repr

def ReplayStream.change (stream : ReplayStream) : Change → ReplayStream
  | .append event => ⟨stream.appended ++ [event], stream.entries ++ [event]⟩
  | .trim count => { stream with entries := stream.entries.drop count }

def run (changes : List Change) : ReplayStream :=
  changes.foldl .change {}

section Range

variable {Json : Type} (parse : String → Option Json)

def safeJson (text : String) : Option Json :=
  if text = "" then none else parse text

def fieldsToObj (entry : Entry) : ReplayEvent Json :=
  ⟨entry.id, entry.type, entry.occurredAt, safeJson parse entry.payload⟩

def rangeAfter (raw : List Entry) (lastEventId : Option String) : ReplayRange Json :=
  if raw = [] then ⟨[], lastEventId.isSome⟩
  else
    let parsed := raw.map (fieldsToObj parse)
    match lastEventId with
    | none => ⟨[], false⟩
    | some lastEventId =>
      match parsed.findIdx? (·.id == lastEventId) with
      | none => ⟨[], true⟩
      | some idx => ⟨parsed.drop (idx + 1), false⟩

/-- What comes after the first entry of an event. -/
def after (id : String) (entries : List Entry) : List Entry :=
  (entries.dropWhile (·.id != id)).tail

/-- An answer that is not truncated is all that the stream holds behind the event, and has every other
event that was emitted after it. -/
def Complete (stream : ReplayStream) (lastEventId : String) (range : ReplayRange Json) : Prop :=
  range.truncated = false →
    range.events = (after lastEventId stream.entries).map (fieldsToObj parse) ∧
      ∀ entry ∈ after lastEventId stream.appended, entry.id ≠ lastEventId →
        ∃ event ∈ range.events, event.id = entry.id

end Range

/-- What the stream has lost. -/
def ReplayStream.trimmed (stream : ReplayStream) : List Entry :=
  stream.appended.take (stream.appended.length - stream.entries.length)

/-- If the first entry of an event is lost and another one is left, then each event emitted between
the two has been appended again. -/
def Recovers (stream : ReplayStream) (id : String) : Prop :=
  (∃ lost ∈ stream.trimmed, lost.id = id) → (∃ left ∈ stream.entries, left.id = id) →
    ∀ entry ∈ after id stream.trimmed ++ stream.entries.takeWhile (·.id != id), entry.id ≠ id →
      ∃ later ∈ after id stream.entries, later.id = entry.id

/-- A stream only loses what came first. -/
theorem entries_suffix (changes : List Change) : (run changes).entries <:+ (run changes).appended := by
  induction changes using reverseRecOn with
  | nil => exact suffix_rfl
  | append_singleton changes change ih =>
    rw [run, foldl_append]
    cases change with
    | append event =>
      obtain ⟨lost, split⟩ := ih
      refine ⟨lost, (append_assoc _ _ _).symm.trans ?_⟩
      exact congrArg (· ++ [event]) split
    | trim count => exact (drop_suffix _ _).trans ih

theorem trimmed_append (changes : List Change) :
    (run changes).trimmed ++ (run changes).entries = (run changes).appended := by
  obtain ⟨lost, split⟩ := entries_suffix changes
  rw [ReplayStream.trimmed, ← split, length_append, Nat.add_sub_cancel, take_left]

section Lookup

variable {Json : Type} {parse : String → Option Json} {id : String} {entries : List Entry}

theorem exists_first (present : ∃ entry ∈ entries, entry.id = id) :
    ∃ front first rest, entries = front ++ first :: rest ∧ (∀ entry ∈ front, entry.id ≠ id) ∧
      first.id = id := by
  obtain ⟨entry, entryMem, named⟩ := present
  have found : (entries.find? (·.id == id)).isSome = true :=
    find?_isSome.mpr ⟨entry, entryMem, beq_iff_eq.mpr named⟩
  obtain ⟨first, isFirst⟩ := Option.isSome_iff_exists.mp found
  obtain ⟨isIt, front, rest, split, noneBefore⟩ := find?_eq_some_iff_append.mp isFirst
  exact ⟨front, first, rest, split, fun other otherMem => by simpa using noneBefore other otherMem,
    beq_iff_eq.mp isIt⟩

variable {front rest : List Entry} {first : Entry}

theorem takeWhile_first (noneBefore : ∀ entry ∈ front, entry.id ≠ id) (isFirst : first.id = id) :
    (front ++ first :: rest).takeWhile (·.id != id) = front := by
  rw [takeWhile_append_of_pos (by simpa using noneBefore), takeWhile_cons_of_neg (by simp [isFirst]),
    append_nil]

theorem after_first (noneBefore : ∀ entry ∈ front, entry.id ≠ id) (isFirst : first.id = id) :
    after id (front ++ first :: rest) = rest := by
  rw [after, dropWhile_append_of_pos (by simpa using noneBefore),
    dropWhile_cons_of_neg (by simp [isFirst]), tail_cons]

theorem rangeAfter_of_absent (absent : ∀ entry ∈ entries, entry.id ≠ id) :
    rangeAfter parse entries (some id) = ⟨[], true⟩ := by
  have unknown : (entries.map (fieldsToObj parse)).findIdx? (·.id == id) = none := by
    simpa [fieldsToObj] using absent
  rw [rangeAfter]
  split
  · rfl
  · simp only [unknown]

theorem rangeAfter_first (noneBefore : ∀ entry ∈ front, entry.id ≠ id) (isFirst : first.id = id) :
    rangeAfter parse (front ++ first :: rest) (some id) = ⟨rest.map (fieldsToObj parse), false⟩ := by
  have none : front.findIdx? (fun entry => entry.id == id) = .none := by
    simpa using noneBefore
  have found : ((front ++ first :: rest).map (fieldsToObj parse)).findIdx? (·.id == id) =
      some front.length := by
    rw [findIdx?_map, findIdx?_append]
    simp [Function.comp_def, fieldsToObj, none, findIdx?_cons, isFirst]
  rw [rangeAfter, if_neg (append_ne_nil_of_right_ne_nil _ (cons_ne_nil _ _))]
  simp only [found]
  rw [← map_drop, append_cons, drop_left' (by simp)]

end Lookup

variable {Json : Type} (parse : String → Option Json)

/-- Replay is complete exactly when an event whose first entry is lost is not looked up by a later
one, with events lost in between. -/
theorem rangeAfter_complete_iff (changes : List Change) (lastEventId : String) :
    Complete parse (run changes) lastEventId
        (rangeAfter parse (run changes).entries (some lastEventId)) ↔
      Recovers (run changes) lastEventId := by
  have split := trimmed_append changes
  generalize run changes = stream at split
  by_cases present : ∃ entry ∈ stream.entries, entry.id = lastEventId
  swap
  · rw [rangeAfter_of_absent (by simpa using present)]
    exact iff_of_true (fun shown => nomatch shown) fun _ left => absurd left present
  obtain ⟨front, first, rest, entries, noneBefore, isFirst⟩ := exists_first present
  have shown : Complete parse stream lastEventId
      (rangeAfter parse stream.entries (some lastEventId)) ↔
        ∀ entry ∈ after lastEventId stream.appended, entry.id ≠ lastEventId →
          ∃ later ∈ rest, later.id = entry.id := by
    simp [entries, Complete, rangeAfter_first noneBefore isFirst, after_first noneBefore isFirst,
      fieldsToObj]
  rw [shown, Recovers, entries, after_first noneBefore isFirst, takeWhile_first noneBefore isFirst,
    ← split, entries]
  by_cases lost : ∃ entry ∈ stream.trimmed, entry.id = lastEventId
  · obtain ⟨before, named, lostAfter, trimmed, noneLost, isNamed⟩ := exists_first lost
    rw [trimmed, append_assoc, cons_append, after_first noneLost isNamed,
      after_first noneLost isNamed]
    constructor
    · intro complete _ _ entry between
      refine complete entry ?_
      rw [← append_assoc]
      exact mem_append_left _ between
    · intro recovers entry entryMem other
      rw [← append_assoc] at entryMem
      rcases mem_append.mp entryMem with between | behind
      · exact recovers (trimmed ▸ lost) (entries ▸ present) entry between other
      rcases mem_cons.mp behind with rfl | behind
      · exact absurd isFirst other
      · exact ⟨entry, behind, rfl⟩
  · refine iff_of_true ?_ fun isLost => absurd isLost lost
    rw [← append_assoc, after_first ?_ isFirst]
    · exact fun entry behind _ => ⟨entry, behind, rfl⟩
    · exact forall_mem_append.mpr ⟨by simpa using lost, noneBefore⟩

/-- A message is appended once more after a second one, and the stream then loses the two: a client
that has received the first message gets nothing, and is not told so. -/
theorem second_message_missed :
    let first : Entry := ⟨"1", "message.created", "2026-01-01T00:00:00.000Z", "\x7b\x7d"⟩
    let second : Entry := ⟨"2", "message.created", "2026-01-01T00:00:01.000Z", "\x7b\x7d"⟩
    let stream := run [.append first, .append second, .append first, .trim 2]
    ¬Complete some stream "1" (rangeAfter some stream.entries (some "1")) := by
  intro first second stream complete
  obtain ⟨event, present, -⟩ := (complete rfl).2 second (by decide) (by decide)
  exact not_mem_nil present

end Bongtalk.Realtime.ReplayBuffer
