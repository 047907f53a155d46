import Bongtalk.Reactions.ReactionsService

/-!
# The limit of reaction kinds

New reactions lock the message until their transaction ends, so that the kinds counted under the
lock can only become fewer. Removals do not lock it: a toggle that finds its row at the insert
may commit when the row is gone.
-/

namespace Bongtalk.Reactions

open Library Common Prisma Function Changes

/-- A call that is rejected for the number of kinds. -/
def Phase.limitReached : Phase → Bool
  | .failed (.domain error) => error.code == .reactionLimitReached
  | _ => false

/-- The key of the row that a call has answered to be there. -/
def Phase.answered : Phase → Option (UserId × Emoji)
  | .toggled call summary => if summary.byMe then some (call.userId, summary.emoji) else none
  | _ => none

/-- What a step has to leave behind: no more kinds than allowed, and one row at most for each user
and emoji. A call is rejected only under the lock, for as many other kinds, and changes nothing; and
whoever is told to have reacted has a row. -/
structure Truthful (before after : Board) : Prop where
  limited : kinds after.rows.rows ≤ maxReactionKinds
  distinct : (after.rows.rows.map Reaction.key).Nodup
  rejected : ∀ id, (after.calls id).limitReached = true → before.calls id ≠ after.calls id →
    ∃ call emoji entry, before.calls id = .counting call emoji entry ∧ before.lock = some id ∧
      maxReactionKinds ≤ kinds (before.rows.rows.filter (·.emoji ≠ emoji)) ∧
      after.rows = before.rows
  present : ∀ id key, (after.calls id).answered = some key → before.calls id ≠ after.calls id →
    ∃ row ∈ after.rows, row.key = key

/-- A step that leaves the truth behind. -/
def HappensTruthfully (before : Board) (event : Event) (after : Board) : Prop :=
  Happens before event after ∧ Truthful before after

/-- The condition on a step: a toggle that has found its row at the insert commits while this row is
still there. -/
def Event.Fits (board : Board) : Event → Prop
  | .advance id => ∀ call row summary,
      board.calls id = .committing call (.added (.found row)) summary → row ∈ board.rows
  | _ => True

/-- The call has the lock on the message. -/
def Phase.holdsLock : Phase → Bool
  | .inserting _ _ _ | .counting _ _ _ | .answering _ _ (.added _) | .committing _ (.added _) _ =>
    true
  | _ => false

/-- The call is about to commit with a row that it has found. -/
def Phase.commitsFound : Phase → Bool
  | .committing _ (.added (.found _)) _ => true
  | _ => false

/-- What is known of an insert while the lock is held: the key is free for a row of its own, and
only the row that was found can have it otherwise. -/
def Entry.Fits (rows : List Reaction) (key : UserId × Emoji) : Entry → Prop
  | .own row => row.key = key ∧ ∀ other ∈ rows, other.key ≠ key
  | .found row => row.key = key ∧ ∀ other ∈ rows, other.key = key → other = row

/-- What is known of a call. -/
def Phase.Fact (rows : List Reaction) : Phase → Prop
  | .counting call emoji entry => entry.Fits rows (call.userId, emoji)
  | .answering call emoji (.added entry) =>
    entry.Fits rows (call.userId, emoji) ∧ kinds ((added entry).view rows) ≤ maxReactionKinds
  | .committing call (.added entry) summary =>
    summary.byMe = true ∧ entry.Fits rows (call.userId, summary.emoji) ∧
      kinds ((added entry).view rows) ≤ maxReactionKinds
  | .committing _ (.taken _) summary => summary.byMe = false
  | _ => True

structure Board.Sound (board : Board) : Prop where
  held : ∀ id, (board.calls id).holdsLock = true → board.lock = some id
  facts : ∀ id, (board.calls id).Fact board.rows.rows
  limited : kinds board.rows.rows ≤ maxReactionKinds

section Kinds

variable {rows fewer : List Reaction}

theorem kinds_mono (subset : ∀ row ∈ fewer, row ∈ rows) : kinds fewer ≤ kinds rows := by
  apply Finset.card_le_card
  intro emoji
  simp only [List.mem_toFinset, List.mem_map]
  rintro ⟨row, present, rfl⟩
  exact ⟨row, subset row present, rfl⟩

/-- One more row is one more kind at most, next to the kinds of the others. -/
theorem kinds_cons_le (row : Reaction) (rows : List Reaction) :
    kinds (row :: rows) ≤ kinds (rows.filter (·.emoji ≠ row.emoji)) + 1 := by
  refine le_trans (Finset.card_le_card ?_) (Finset.card_insert_le row.emoji _)
  intro emoji
  simp only [List.mem_toFinset, List.mem_map, List.mem_cons, Finset.mem_insert, List.mem_filter,
    decide_eq_true_eq]
  rintro ⟨other, rfl | present, rfl⟩
  · exact .inl rfl
  · by_cases same : other.emoji = row.emoji
    · exact .inl same
    · exact .inr ⟨other, ⟨present, same⟩, rfl⟩

theorem view_mono (subset : ∀ row ∈ fewer, row ∈ rows) (entry : Entry) :
    kinds ((added entry).view fewer) ≤ kinds ((added entry).view rows) := by
  apply kinds_mono
  cases entry with
  | own row =>
    intro other present
    rcases List.mem_cons.mp present with rfl | old
    · exact .head _
    · exact .tail _ (subset other old)
  | found row => exact subset

theorem Entry.Fits.mono {key : UserId × Emoji} {entry : Entry} (fits : entry.Fits rows key)
    (subset : ∀ row ∈ fewer, row ∈ rows) : entry.Fits fewer key := by
  cases entry with
  | own row | found row => exact ⟨fits.1, fun other present => fits.2 other (subset other present)⟩

/-- Rows that go take no fact away. -/
theorem Phase.Fact.mono {phase : Phase} (fact : phase.Fact rows)
    (subset : ∀ row ∈ fewer, row ∈ rows) : phase.Fact fewer := by
  cases phase with
  | counting call emoji entry => exact Entry.Fits.mono fact subset
  | answering call emoji changes =>
    cases changes with
    | added entry => exact ⟨fact.1.mono subset, (view_mono subset entry).trans fact.2⟩
    | taken deleted => trivial
  | committing call changes summary =>
    cases changes with
    | added entry =>
      exact ⟨fact.1, fact.2.1.mono subset, (view_mono subset entry).trans fact.2.2⟩
    | taken deleted => exact fact
  | _ => trivial

/-- Without the lock nothing is known of the rows. -/
theorem Phase.Fact.of_free {phase : Phase} (fact : phase.Fact rows) (free : phase.holdsLock = false)
    (others : List Reaction) : phase.Fact others := by
  cases phase with
  | counting | inserting => cases free
  | answering call emoji changes =>
    cases changes with
    | added entry => cases free
    | taken deleted => trivial
  | committing call changes summary =>
    cases changes with
    | added entry => cases free
    | taken deleted => exact fact
  | _ => trivial

end Kinds

section Invariant

variable {board next : Board} {id : CallId} {phase : Phase}

/-- A step of one call. The rows become fewer, or the call has the lock. -/
theorem Board.Sound.update (sound : board.Sound) (calls : next.calls = update board.calls id phase)
    (rows : (∀ row ∈ next.rows.rows, row ∈ board.rows.rows) ∨ board.lock = some id)
    (lock : ∀ other, other ≠ id → board.lock = some other → next.lock = some other)
    (held : phase.holdsLock = true → next.lock = some id) (fact : phase.Fact next.rows.rows)
    (limited : kinds next.rows.rows ≤ maxReactionKinds) : next.Sound where
  held := by
    intro other holds
    rw [calls] at holds
    by_cases same : other = id
    · subst same
      rw [update_self] at holds
      exact held holds
    · rw [update_of_ne same] at holds
      exact lock other same (sound.held other holds)
  facts := by
    intro other
    rw [calls]
    by_cases same : other = id
    · subst same
      rw [update_self]
      exact fact
    · rw [update_of_ne same]
      rcases rows with fewer | own
      · exact (sound.facts other).mono fewer
      refine (sound.facts other).of_free ?_ _
      by_contra holds
      rw [Bool.not_eq_false] at holds
      have locked := sound.held other holds
      rw [own] at locked
      exact same (Option.some.inj locked).symm
  limited := limited

/-- A step that changes no row and no lock. -/
theorem Board.Sound.setPhase (sound : board.Sound) (free : phase.holdsLock = false)
    (fact : phase.Fact board.rows.rows) : (board.setPhase id phase).Sound := by
  refine sound.update rfl (.inl fun _ present => present) (fun _ _ locked => locked) ?_ fact
    sound.limited
  intro holds
  rw [free] at holds
  cases holds

/-- A step of a call that has the lock and keeps it. -/
theorem Board.Sound.keep (sound : board.Sound) (locked : board.lock = some id)
    (fact : phase.Fact board.rows.rows) : (board.setPhase id phase).Sound :=
  sound.update rfl (.inl fun _ present => present) (fun _ _ locked => locked) (fun _ => locked) fact
    sound.limited

@[simp]
theorem finish_calls_self : (board.finish id phase).calls id = phase := by
  simp [Board.finish, Board.setPhase]

theorem finish_lock (phase : Phase) {other : CallId} (distinct : other ≠ id)
    (locked : board.lock = some other) :
    (board.finish id phase).lock = some other := by
  have notOwn : board.lock ≠ some id := by
    rw [locked]
    exact fun same => distinct (Option.some.inj same)
  exact (if_neg notOwn).trans locked

/-- A transaction that ends without a change. -/
theorem Board.Sound.finish (sound : board.Sound) (free : phase.holdsLock = false)
    (fact : phase.Fact board.rows.rows) : (board.finish id phase).Sound := by
  refine sound.update rfl (.inl fun _ present => present) (fun _ => finish_lock phase) ?_ fact
    sound.limited
  intro holds
  rw [free] at holds
  cases holds

variable {rows : Table Reaction Reaction.key}

theorem mem_taken {deleted : List Reaction} {row : Reaction} :
    row ∈ (taken deleted).apply rows ↔ row ∈ rows ∧ row ∉ deleted := by
  simp [Changes.apply, Table.mem_deleteMany]

/-- A transaction that commits a removal. -/
theorem Board.Sound.commit_taken (sound : board.Sound) (deleted : List Reaction)
    (free : phase.holdsLock = false) (fact : ∀ rows, phase.Fact rows) :
    (board.commit id (.taken deleted) phase).Sound := by
  have fewer : ∀ row ∈ ((taken deleted).apply board.rows).rows, row ∈ board.rows.rows :=
    fun row present => (mem_taken.mp present).1
  refine sound.update rfl (.inl fewer) (fun _ => finish_lock phase) ?_ (fact _)
    ((kinds_mono fewer).trans sound.limited)
  intro holds
  rw [free] at holds
  cases holds

/-- An insert whose key is free goes through. -/
theorem rows_added {row : Reaction} (fresh : ∀ other ∈ rows.rows, other.key ≠ row.key) :
    ∃ next, rows.insert? row = some next ∧ (added (.own row)).apply rows = next := by
  cases inserted : rows.insert? row with
  | none =>
    obtain ⟨other, present, same⟩ := Table.insert?_eq_none_iff.mp inserted
    exact absurd same (fresh other present)
  | some next =>
    refine ⟨next, rfl, ?_⟩
    rw [Changes.apply, inserted, Option.getD_some]

/-- A toggle that commits its new reaction, or the one that it has found. -/
theorem Board.Sound.commit_added (sound : board.Sound) {call : AddCall} {entry : Entry}
    {summary : ReactionSummary}
    (committing : board.calls id = .committing call (.added entry) summary) :
    (board.commit id (.added entry) (.toggled call summary)).Sound := by
  have locked : board.lock = some id := sound.held id (by rw [committing]; rfl)
  have fact := sound.facts id
  rw [committing] at fact
  obtain ⟨-, fits, limited⟩ := fact
  refine sound.update rfl (.inr locked) (fun _ => finish_lock (.toggled call summary))
    (fun holds => by cases holds) trivial ?_
  cases entry with
  | own row =>
    obtain ⟨key, fresh⟩ := fits
    rw [← key] at fresh
    obtain ⟨next, inserted, same⟩ := rows_added fresh
    have rows : ((added (.own row)).apply board.rows).rows = row :: board.rows.rows := by
      rw [same, (Table.insert?_eq_some_iff.mp inserted).2]
    exact (congrArg kinds rows).trans_le limited
  | found row => exact sound.limited

end Invariant

section Steps

variable {board next : Board} {id : CallId} {phase : Phase}

theorem eq_of_changed {other : CallId}
    (changed : board.calls other ≠ update board.calls id phase other) : other = id := by
  by_contra different
  exact changed (update_of_ne different _ _).symm

/-- A step after which the call has neither been rejected for the limit nor answered. -/
theorem truthful_of_quiet (sound : next.Sound) (calls : next.calls = update board.calls id phase)
    (unlimited : phase.limitReached = false) (silent : phase.answered = none) :
    Truthful board next where
  limited := sound.limited
  distinct := next.rows.keysNodup
  rejected := by
    intro other reached changed
    rw [calls] at reached changed
    obtain rfl := eq_of_changed changed
    rw [update_self, unlimited] at reached
    cases reached
  present := by
    intro other key answered changed
    rw [calls] at answered changed
    obtain rfl := eq_of_changed changed
    rw [update_self, silent] at answered
    cases answered

/-- A step that has no condition. -/
theorem exact_of_fits {event : Event} (fits : event.Fits board) (sound : next.Sound)
    (calls : next.calls = update board.calls id phase)
    (unlimited : phase.limitReached = false) (silent : phase.answered = none) :
    next.Sound ∧ (Truthful board next ↔ event.Fits board) :=
  ⟨sound, iff_of_true (truthful_of_quiet sound calls unlimited silent) fits⟩

/-- A step into a given phase, from one that does not commit a found row. -/
theorem exact_of_quiet {before : Phase} (was : board.calls id = before)
    (notFound : before.commitsFound = false)
    (sound : next.Sound) (calls : next.calls = update board.calls id phase)
    (unlimited : phase.limitReached = false) (silent : phase.answered = none) :
    next.Sound ∧ (Truthful board next ↔ (Event.advance id).Fits board) := by
  refine exact_of_fits ?_ sound calls unlimited silent
  intro call row summary committing
  obtain rfl := was.symm.trans committing
  cases notFound

/-- A step that only moves the call on. -/
theorem Board.Sound.moves {before : Phase} (sound : board.Sound) (was : board.calls id = before)
    (advanced : some (board.setPhase id phase) = some next) (notFound : before.commitsFound = false)
    (free : phase.holdsLock = false) (fact : phase.Fact board.rows.rows)
    (unlimited : phase.limitReached = false) (silent : phase.answered = none) :
    next.Sound ∧ (Truthful board next ↔ (Event.advance id).Fits board) := by
  cases advanced
  exact exact_of_quiet was notFound (sound.setPhase free fact) rfl unlimited silent

variable {failure : Failure}

/-- A step that ends the transaction without a change. -/
theorem Board.Sound.ends {before : Phase} (sound : board.Sound) (was : board.calls id = before)
    (advanced : some (board.fail id failure) = some next) (notFound : before.commitsFound = false)
    (unlimited : (Phase.failed failure).limitReached = false) :
    next.Sound ∧ (Truthful board next ↔ (Event.advance id).Fits board) := by
  cases advanced
  exact exact_of_quiet was notFound (sound.finish rfl trivial) rfl unlimited rfl

/-- The gates of the insert branch refuse for reasons of their own. -/
theorem unlimited_of_admission {call : AddCall} {emoji : Emoji}
    (refused : call.admit emoji = .error failure) :
    (Phase.failed failure).limitReached = false := by
  unfold AddCall.admit failWith at refused
  split at refused
  · cases refused
    rfl
  · split at refused
    · cases refused
      rfl
    · split at refused
      · cases refused
        rfl
      · split at refused
        · cases refused
        · cases refused
          rfl
        · cases refused

theorem unlimited_of_validateEmoji {raw : List Char}
    (refused : validateEmoji raw = .error failure) :
    (Phase.failed failure).limitReached = false := by
  unfold validateEmoji failWith at refused
  dsimp only at refused
  split at refused
  · cases refused
    rfl
  · split at refused
    · cases refused
      rfl
    · split at refused
      · cases refused
      split at refused
      · cases refused
        rfl
      · cases refused

section

variable (sound : board.Sound)

include sound

variable {call : AddCall}

/-- The toggle after its lookup. -/
theorem Board.Sound.toggle {emoji : Emoji} (was : board.calls id = .toggling call emoji) :
    (board.toggle id call emoji).Sound ∧
      (Truthful board (board.toggle id call emoji) ↔ (Event.advance id).Fits board) := by
  unfold Board.toggle
  split
  · exact sound.moves was rfl rfl rfl trivial rfl rfl
  split
  next failure refused =>
    exact sound.ends was rfl rfl (unlimited_of_admission refused)
  · exact sound.moves was rfl rfl rfl trivial rfl rfl
  · exact sound.moves was rfl rfl rfl trivial rfl rfl

/-- The insert under the lock. -/
theorem Board.Sound.insert {emoji : Emoji} {customEmojiId : Option CustomEmojiId}
    (was : board.calls id = .inserting call emoji customEmojiId)
    (advanced : board.insert id call emoji customEmojiId = some next) :
    next.Sound ∧ (Truthful board next ↔ (Event.advance id).Fits board) := by
  have locked : board.lock = some id := sound.held id (by rw [was]; rfl)
  unfold Board.insert at advanced
  split at advanced
  next row found =>
    split at advanced
    · cases advanced
    cases advanced
    obtain ⟨present, key⟩ := Table.mem_of_findUnique found
    refine exact_of_quiet was rfl (sound.keep locked ⟨key, ?_⟩) rfl
      rfl rfl
    exact fun other otherMem same => Table.eq_of_key_eq otherMem present (same.trans key.symm)
  next missing =>
    cases advanced
    have fresh := Table.findUnique_eq_none_iff.mp missing
    have kept : (board.setPhase id (.counting call emoji
        (.own ⟨⟨board.nextReactionId⟩, call.userId, emoji, customEmojiId⟩))).Sound :=
      sound.keep locked ⟨rfl, fresh⟩
    exact exact_of_quiet was rfl
      ⟨kept.held, kept.facts, kept.limited⟩ rfl rfl rfl

/-- The count under the lock: a rejected reaction is one kind too many beside those of the others. -/
theorem Board.Sound.checkKinds {emoji : Emoji} {entry : Entry}
    (was : board.calls id = .counting call emoji entry) :
    (board.checkKinds id call emoji entry).Sound ∧
      (Truthful board (board.checkKinds id call emoji entry) ↔ (Event.advance id).Fits board) := by
  have locked : board.lock = some id := sound.held id (by rw [was]; rfl)
  have fact := sound.facts id
  rw [was] at fact
  unfold Board.checkKinds
  split
  next tooMany =>
    refine ⟨sound.finish rfl trivial, iff_of_true ?_ ?_⟩
    · refine ⟨sound.limited, board.rows.keysNodup, ?_, ?_⟩
      · intro other _ changed
        obtain rfl := eq_of_changed changed
        refine ⟨call, emoji, entry, was, locked, ?_, rfl⟩
        cases entry with
        | own row =>
          have emojiEq : row.emoji = emoji := congrArg Prod.snd fact.1
          have atMost := kinds_cons_le row board.rows.rows
          rw [emojiEq] at atMost
          exact Nat.le_of_lt_succ (Nat.lt_of_lt_of_le tooMany atMost)
        | found row => exact absurd sound.limited (Nat.not_le_of_lt tooMany)
      · intro other key answered changed
        obtain rfl := eq_of_changed changed
        rw [finish_calls_self] at answered
        cases answered
    · intro other row summary committing
      rw [was] at committing
      cases committing
  next atMost =>
    exact exact_of_quiet was rfl (sound.keep locked ⟨fact, Nat.le_of_not_lt atMost⟩) rfl rfl rfl

/-- The commit of a toggle: a row of its own is there afterwards, and one that was found is there
unless it has been removed in between. -/
theorem Board.Sound.commit {changes : Changes} {summary : ReactionSummary}
    (was : board.calls id = .committing call changes summary) :
    (board.commit id changes (.toggled call summary)).Sound ∧
      (Truthful board (board.commit id changes (.toggled call summary)) ↔
        (Event.advance id).Fits board) := by
  have fact := sound.facts id
  rw [was] at fact
  cases changes with
  | taken deleted =>
    refine exact_of_quiet was rfl (sound.commit_taken deleted rfl fun _ => trivial) rfl rfl ?_
    have silent : summary.byMe = false := fact
    rw [Phase.answered, silent]
    rfl
  | added entry =>
    have after := sound.commit_added was
    obtain ⟨byMe, fits, -⟩ := fact
    refine ⟨after, ?_⟩
    -- The rest of the truth holds in any case; what is left is the row of the answer.
    have exact : Truthful board (board.commit id (.added entry) (.toggled call summary)) ↔
        ∃ row ∈ (Changes.added entry).apply board.rows, row.key = (call.userId, summary.emoji) := by
      constructor
      · intro truthful
        apply truthful.present id (call.userId, summary.emoji)
        · change ((board.finish id (.toggled call summary)).calls id).answered = _
          rw [finish_calls_self, Phase.answered, byMe]
          rfl
        · change board.calls id ≠ (board.finish id (.toggled call summary)).calls id
          rw [finish_calls_self, was]
          intro same
          cases same
      · intro hasRow
        refine ⟨after.limited, Table.keysNodup _, ?_, ?_⟩
        · intro other reached changed
          change ((board.finish id (.toggled call summary)).calls other).limitReached = true
            at reached
          obtain rfl := eq_of_changed changed
          rw [finish_calls_self] at reached
          cases reached
        · intro other key answered changed
          change ((board.finish id (.toggled call summary)).calls other).answered = some key
            at answered
          obtain rfl := eq_of_changed changed
          rw [finish_calls_self, Phase.answered, byMe] at answered
          cases answered
          exact hasRow
    rw [exact]
    cases entry with
    | own row =>
      obtain ⟨key, fresh⟩ := fits
      rw [← key] at fresh
      obtain ⟨next, inserted, same⟩ := rows_added fresh
      refine iff_of_true ⟨row, ?_, key⟩ ?_
      · rw [same]
        exact (Table.mem_insert? inserted).mpr (.inl rfl)
      · intro other found otherSummary committing
        rw [was] at committing
        cases committing
    | found row =>
      obtain ⟨key, only⟩ := fits
      constructor
      · rintro ⟨other, present, same⟩ otherCall found otherSummary committing
        rw [was] at committing
        cases committing
        obtain rfl := only other present same
        exact present
      · intro stays
        exact ⟨row, stays call row summary was, key⟩

/-- A delete statement. -/
theorem Board.Sound.removeNext {purpose : Purpose} {remaining deleted : List Reaction}
    (was : board.calls id = .removing purpose remaining deleted)
    (advanced : board.removeNext id purpose remaining deleted = some next) :
    next.Sound ∧ (Truthful board next ↔ (Event.advance id).Fits board) := by
  unfold Board.removeNext at advanced
  split at advanced
  next row rest =>
    split at advanced
    · split at advanced
      · cases advanced
      cases advanced
      have kept : (board.setPhase id (.removing purpose rest (row :: deleted))).Sound :=
        sound.setPhase rfl trivial
      exact exact_of_quiet was rfl
        ⟨kept.held, kept.facts, kept.limited⟩ rfl rfl rfl
    · exact sound.moves was advanced rfl rfl trivial rfl rfl
  next =>
    split at advanced
    · split at advanced
      · exact sound.ends was advanced rfl rfl
      · exact sound.moves was advanced rfl rfl trivial rfl rfl
    · cases advanced
      exact exact_of_quiet was rfl (sound.commit_taken deleted rfl fun _ => trivial) rfl rfl rfl
    · cases advanced
      exact exact_of_quiet was rfl (sound.commit_taken deleted rfl fun _ => trivial) rfl rfl rfl

/-- Each statement of a call keeps the board sound, and leaves the truth behind exactly under the
condition. -/
theorem Board.Sound.advance (advanced : board.advance id = some next) :
    next.Sound ∧ (Truthful board next ↔ (Event.advance id).Fits board) := by
  unfold Board.advance at advanced
  split at advanced
  · cases advanced
  · cases advanced
  · cases advanced
  · cases advanced
  next workspaceId actorId targetUserId emoji was =>
    split at advanced
    · exact sound.moves was advanced rfl rfl trivial rfl rfl
    · exact sound.moves was advanced rfl rfl trivial rfl rfl
    · exact sound.moves was advanced rfl rfl trivial rfl rfl
  next call emoji was =>
    split at advanced
    · exact sound.moves was advanced rfl rfl trivial rfl rfl
    · exact sound.ends was advanced rfl rfl
  next call emoji was =>
    cases advanced
    exact sound.toggle was
  next call emoji workspaceId name was =>
    split at advanced
    · exact sound.ends was advanced rfl rfl
    · exact sound.moves was advanced rfl rfl trivial rfl rfl
  next call emoji customEmojiId was =>
    unfold Board.lockMessage at advanced
    split at advanced
    · cases advanced
    next free =>
      cases advanced
      refine exact_of_quiet was rfl
        (sound.update rfl (.inl fun _ present => present) ?_ (fun _ => rfl) trivial sound.limited)
        rfl rfl rfl
      intro other distinct locked
      rw [locked] at free
      exact absurd (bne_iff_ne.mpr distinct) free
  next call emoji customEmojiId was => exact sound.insert was advanced
  next call emoji entry was =>
    cases advanced
    exact sound.checkKinds was
  next call emoji changes was =>
    cases advanced
    have fact := sound.facts id
    rw [was] at fact
    cases changes with
    | added entry =>
      have locked : board.lock = some id := sound.held id (by rw [was]; rfl)
      exact exact_of_quiet was rfl (sound.keep locked ⟨rfl, fact⟩) rfl rfl rfl
    | taken deleted =>
      exact sound.moves was rfl rfl rfl rfl rfl rfl
  next call changes summary was =>
    cases advanced
    exact sound.commit was
  next purpose was =>
    exact sound.moves was advanced rfl rfl trivial rfl rfl
  next purpose remaining deleted was => exact sound.removeNext was advanced

end

/-- No call begins with the lock. -/
theorem free_of_starts {call : Call} (starts : call.starts = .ok phase) (rows : List Reaction) :
    phase.holdsLock = false ∧ phase.Fact rows ∧ phase.limitReached = false ∧
      phase.answered = none := by
  cases call with
  | add call | remove userId rawEmoji =>
    obtain ⟨emoji, -, same⟩ := bind_eq_ok.mp starts
    cases same
    exact ⟨rfl, trivial, rfl, rfl⟩
  | removeByActor workspaceId actorId targetUserId rawEmoji =>
    obtain ⟨emoji, -, same⟩ := bind_eq_ok.mp starts
    split at same
    · cases same
      exact ⟨rfl, trivial, rfl, rfl⟩
    · split at same
      · exact absurd same failWith_ne_ok
      cases same
      exact ⟨rfl, trivial, rfl, rfl⟩
  | clearAll =>
    cases starts
    exact ⟨rfl, trivial, rfl, rfl⟩

theorem unlimited_of_starts {call : Call} (refused : call.starts = .error failure) :
    (Phase.failed failure).limitReached = false := by
  cases call with
  | add call | remove userId rawEmoji =>
    rcases bind_eq_error.mp refused with invalid | ⟨emoji, -, same⟩
    · exact unlimited_of_validateEmoji invalid
    · cases same
  | removeByActor workspaceId actorId targetUserId rawEmoji =>
    rcases bind_eq_error.mp refused with invalid | ⟨emoji, -, same⟩
    · exact unlimited_of_validateEmoji invalid
    split at same
    · cases same
    split at same
    · cases same
      rfl
    · cases same
  | clearAll => cases refused

/-- The database aborts with errors of its own. -/
theorem unlimited_of_internal (internal : ∀ error, failure ≠ .domain error) :
    (Phase.failed failure).limitReached = false := by
  cases failure with
  | domain error => exact absurd rfl (internal error)
  | _ => rfl

/-- Each step keeps the board sound, and leaves the truth behind exactly under the condition. -/
theorem Board.Sound.step {event : Event} (sound : board.Sound)
    (happens : Happens board event next) :
    next.Sound ∧ (Truthful board next ↔ event.Fits board) := by
  cases happens with
  | start new call starts =>
    obtain ⟨free, fact, unlimited, silent⟩ := free_of_starts starts board.rows.rows
    exact exact_of_fits trivial (sound.setPhase free fact) rfl unlimited silent
  | refuse new call refused =>
    exact exact_of_fits trivial (sound.setPhase rfl trivial) rfl (unlimited_of_starts refused) rfl
  | advance advanced => exact sound.advance advanced
  | abort isOpen internal =>
    exact exact_of_fits trivial (sound.finish rfl trivial) rfl (unlimited_of_internal internal) rfl
  | outside live customEmojis memberRole =>
    refine ⟨⟨sound.held, sound.facts, sound.limited⟩, iff_of_true ?_ trivial⟩
    exact ⟨sound.limited, board.rows.keysNodup, fun _ _ changed => absurd rfl changed,
      fun _ _ _ changed => absurd rfl changed⟩

/-- A toggle that commits with a row it has found tells the truth as long as the row is there. -/
theorem Board.Sound.stays_of_truthful (sound : board.Sound)
    (found : (board.calls id).commitsFound = true) (advanced : board.advance id = some next)
    (truthful : Truthful board next) : ∃ row, row ∈ board.rows := by
  have fits := (sound.advance advanced).2.mp truthful
  unfold Phase.commitsFound at found
  split at found
  next call row summary was => exact ⟨row, fits call row summary was⟩
  · cases found

end Steps

section Runs

variable (live : Bool) (customEmojis : WorkspaceId → List Char → Option CustomEmojiId)
  (memberRole : WorkspaceId → UserId → Option WorkspaceRole)

theorem sound_initialBoard : (initialBoard live customEmojis memberRole).Sound where
  held := fun _ holds => by cases holds
  facts := fun _ => trivial
  limited := Nat.zero_le _

/-- In every run the board is sound: the limit of kinds needs no condition. -/
theorem sound_of_steps {live customEmojis memberRole} {events : List Event} {finish : Board}
    (steps : Steps Happens (initialBoard live customEmojis memberRole) events finish) :
    finish.Sound :=
  steps.preserves Board.Sound (fun happens sound => (sound.step happens).1)
    (sound_initialBoard live customEmojis memberRole)

/-- The runs that leave the truth behind at each step are those in which every toggle that finds its
row at the insert commits while this row is there. -/
theorem reactions_truthful_iff (events : List Event) (finish : Board) :
    Steps HappensTruthfully (initialBoard live customEmojis memberRole) events finish ↔
      Steps (Guarded Happens fun board event => event.Fits board)
        (initialBoard live customEmojis memberRole) events finish := by
  refine Steps.congr_within Board.Sound ?_ ?_ (sound_initialBoard live customEmojis memberRole)
  · exact fun transition sound => (sound.step transition.1).1
  · intro board event next sound
    exact and_congr_right fun happens => (sound.step happens).2

end Runs

/-- The calls advance in a given order. -/
def Board.advanceAll (board : Board) (ids : List CallId) : Option Board :=
  ids.foldlM (fun board id => board.advance id) board

theorem steps_of_advanceAll {start board finish : Board} {events : List Event} (ids : List CallId)
    (steps : Steps Happens start events board) (advanced : board.advanceAll ids = some finish) :
    ∃ events, Steps Happens start events finish := by
  induction ids generalizing board events with
  | nil =>
    cases advanced
    exact ⟨events, steps⟩
  | cons id ids ih =>
    obtain ⟨next, first, rest⟩ := Option.bind_eq_some_iff.mp advanced
    exact ih (steps.step (.advance first)) rest

def quietBoard : Board :=
  initialBoard true (fun _ _ => none) fun _ _ => none

/-- A click on a reaction. -/
def click : AddCall where
  workspaceId := none
  userId := ⟨1⟩
  rawEmoji := ['x']
  canAddReaction := true

/-- The user clicks twice and takes the reaction back. -/
def clickedTwice : Board :=
  ((quietBoard.setPhase ⟨1⟩ (.finding click ['x'])).setPhase ⟨2⟩ (.finding click ['x'])).setPhase ⟨3⟩
    (.deleting (.remove ⟨1⟩ ['x']))

/-- Both clicks find no row before the lock. The first adds the row, the second finds it at the
insert, and the row is removed before the second commits. -/
def removedBetween : List CallId :=
  [⟨1⟩, ⟨2⟩, ⟨1⟩, ⟨2⟩, ⟨1⟩, ⟨1⟩, ⟨1⟩, ⟨1⟩, ⟨1⟩, ⟨2⟩, ⟨2⟩, ⟨2⟩, ⟨2⟩, ⟨3⟩, ⟨3⟩, ⟨3⟩]

/-- The second click answers that the user has reacted, and no row is left. -/
theorem reacted_without_row : ∃ events before after,
    Steps Happens quietBoard events before ∧ Happens before (.advance ⟨2⟩) after ∧
      ¬Truthful before after := by
  have clicked : Steps Happens quietBoard _ clickedTwice :=
    ((Steps.refl.step (.start rfl (.add click) rfl)).step (.start rfl (.add click) rfl)).step
      (.start rfl (.remove ⟨1⟩ ['x']) rfl)
  have reached : (clickedTwice.advanceAll removedBetween).any (fun board =>
      decide ((board.calls ⟨2⟩).commitsFound = true ∧ board.rows.rows = [] ∧
        (board.advance ⟨2⟩).isSome = true)) = true := by
    decide +kernel
  obtain ⟨before, advanced, good⟩ := (Option.any_eq_true _ _).mp reached
  obtain ⟨found, noRow, moves⟩ := of_decide_eq_true good
  obtain ⟨events, steps⟩ := steps_of_advanceAll removedBetween clicked advanced
  obtain ⟨after, last⟩ := Option.isSome_iff_exists.mp moves
  refine ⟨events, before, after, steps, .advance last, fun truthful => ?_⟩
  obtain ⟨row, present⟩ := (sound_of_steps steps).stays_of_truthful found last truthful
  rw [Table.mem_def, noRow] at present
  cases present

end Bongtalk.Reactions
