import Bongtalk.Library.System
import Bongtalk.Web.MessageList

/-!
# The order of message events

Delivery is at least once, and a replay may bring events in another order. The list should show
each message at most once, with the content of the highest version that has come, and not as alive
after its deletion.
-/

namespace Bongtalk.Web

open Library Prisma List

/-- The content of each version of each message. A new message has version 0. -/
abbrev Contents := MessageId → Nat → String

structure NewMessage where
  id : MessageId
  authorId : UserId
  createdAt : DateTime := 0
  parentMessageId : Option MessageId := none
deriving DecidableEq, Repr

def NewMessage.row (contents : Contents) (message : NewMessage) : Row where
  id := .message message.id
  authorId := .user message.authorId
  content := some (contents message.id 0)
  createdAt := message.createdAt
  parentMessageId := message.parentMessageId

inductive MessageEvent where
  | created (message : NewMessage) (nonce : Option ClientNonce)
  | broadcast (message : NewMessage)
  | updated (messageId : MessageId) (version : Nat)
  | deleted (messageId : MessageId) (version : Option Nat)
deriving DecidableEq, Repr

namespace MessageEvent

/-- The version that comes with an event. -/
def versions : MessageEvent → List (MessageId × Nat)
  | created message _ => [(message.id, 0)]
  | broadcast message => [(message.id, 0)]
  | updated messageId version => [(messageId, version)]
  | deleted _ _ => []

def deletions : MessageEvent → List MessageId
  | deleted messageId _ => [messageId]
  | _ => []

end MessageEvent

/-- The handlers of the four events on the list of the channel. -/
def MessageListCache.dispatch (contents : Contents) (cache : MessageListCache) :
    MessageEvent → MessageListCache
  | .created message nonce =>
    if message.parentMessageId.isSome then cache
    else cache.created (message.row contents) nonce
  | .broadcast message => cache.broadcast (message.row contents)
  | .updated messageId version => cache.updated messageId (contents messageId version) version
  | .deleted messageId version => cache.deleted messageId version

/-- The highest version of a message among those that have come. -/
def highestVersion (messageId : MessageId) : List (MessageId × Nat) → Option Nat
  | [] => none
  | (other, version) :: versions =>
    if other = messageId then
      some ((highestVersion messageId versions).elim version (max version))
    else highestVersion messageId versions

/-- A list with what has come to it so far, in rows and events. -/
structure Replica where
  cache : MessageListCache
  versions : List (MessageId × Nat)
  deletions : List MessageId
deriving DecidableEq, Repr

def Replica.deliver (contents : Contents) (replica : Replica) (event : MessageEvent) : Replica where
  cache := replica.cache.dispatch contents event
  versions := event.versions ++ replica.versions
  deletions := event.deletions ++ replica.deletions

def Delivers (contents : Contents) (replica : Replica) (event : MessageEvent) (next : Replica) :
    Prop :=
  next = replica.deliver contents event

/-- The content is that of the highest version. -/
def Shows (contents : Contents) (versions : List (MessageId × Nat)) (messageId : MessageId)
    (content : Option String) : Prop :=
  ∃ highest, highestVersion messageId versions = some highest ∧
    content = some (contents messageId highest)

/-- A version that is not behind another one, at least by its content. -/
def NotBehind (contents : Contents) (versions : List (MessageId × Nat)) (messageId : MessageId)
    (version : Nat) : Prop :=
  ∀ highest, highestVersion messageId versions = some highest →
    highest ≤ version ∨ contents messageId version = contents messageId highest

/-- A deleted row shows nothing. A live one has not been deleted and shows the highest version. -/
def Faithful (contents : Contents) (versions : List (MessageId × Nat))
    (deletions : List MessageId) (row : Row) : Prop :=
  if row.deleted then row.content = none
  else ∀ messageId, row.id = .message messageId →
    messageId ∉ deletions ∧ Shows contents versions messageId row.content

structure Converged (contents : Contents) (replica : Replica) : Prop where
  once : (replica.cache.rows.map Row.id).Nodup
  faithful : ∀ row ∈ replica.cache.rows, Faithful contents replica.versions replica.deletions row

/-- A list as it has been loaded. -/
structure LoadedList (contents : Contents) where
  cache : MessageListCache
  once : (cache.rows.map Row.id).Nodup
  /-- The content goes with the version, and the server masks what is deleted. -/
  served : ∀ row ∈ cache.rows, if row.deleted then row.content = none else
    ∀ messageId, row.id = .message messageId →
      row.content = some (contents messageId (row.version.getD 0))

/-- The versions and the deletions that rows tell of. -/
def Row.told (row : Row) : List (MessageId × Nat) × List MessageId :=
  match row.id with
  | .optimistic _ => ([], [])
  | .message messageId =>
    if row.deleted then ([], [messageId]) else ([(messageId, row.version.getD 0)], [])

def LoadedList.replica {contents : Contents} (loaded : LoadedList contents) : Replica where
  cache := loaded.cache
  versions := loaded.cache.rows.flatMap fun row => row.told.1
  deletions := loaded.cache.rows.flatMap fun row => row.told.2

/-- A new row is welcome when its message is in the first page, or in no page, neither deleted
nor edited so far. -/
def Welcome (contents : Contents) (replica : Replica) (messageId : MessageId) : Prop :=
  .message messageId ∈ replica.cache.first.items.map Row.id ∨
    .message messageId ∉ replica.cache.laterRows.map Row.id ∧
      messageId ∉ replica.deletions ∧ NotBehind contents replica.versions messageId 0

/-- The events that a list can take as they come. -/
def StaysConverged (contents : Contents) (replica : Replica) : MessageEvent → Prop
  | .created message _ =>
    message.parentMessageId = none → Welcome contents replica message.id
  | .broadcast message => Welcome contents replica message.id
  | .updated messageId version => ∀ row ∈ replica.cache.rows, row.id = .message messageId →
      row.deleted = false ∧ NotBehind contents replica.versions messageId version
  | .deleted _ _ => True

section Versions

variable {contents : Contents} {versions : List (MessageId × Nat)} {messageId other : MessageId}
  {version : Nat} {content : Option String}

theorem highestVersion_cons_self : highestVersion messageId ((messageId, version) :: versions) =
    some ((highestVersion messageId versions).elim version (max version)) :=
  if_pos rfl

theorem highestVersion_cons_of_ne (different : other ≠ messageId) :
    highestVersion messageId ((other, version) :: versions) = highestVersion messageId versions :=
  if_neg different

theorem shows_cons_of_ne (different : other ≠ messageId) :
    Shows contents ((other, version) :: versions) messageId content ↔
      Shows contents versions messageId content := by
  rw [Shows, highestVersion_cons_of_ne different, ← Shows]

/-- What comes is shown rightly when it is not behind. -/
theorem shows_cons_self_iff :
    Shows contents ((messageId, version) :: versions) messageId
        (some (contents messageId version)) ↔
      NotBehind contents versions messageId version := by
  rw [Shows, NotBehind, highestVersion_cons_self]
  cases highestVersion messageId versions with
  | none => simp
  | some highest =>
    simp only [Option.elim_some, Option.some.injEq, exists_eq_left', forall_eq']
    rcases Nat.le_total highest version with le | le
    · simp [le]
    rw [Nat.max_eq_right le]
    constructor
    · exact .inr
    · rintro (ge | same)
      · rw [Nat.le_antisymm ge le]
      · exact same

/-- The first version changes nothing where a version is known. -/
theorem shows_cons_zero (shown : Shows contents versions messageId content) :
    Shows contents ((messageId, 0) :: versions) messageId content := by
  obtain ⟨highest, isHighest, rfl⟩ := shown
  refine ⟨highest, ?_, rfl⟩
  rw [highestVersion_cons_self, isHighest, Option.elim_some, Nat.max_eq_right (Nat.zero_le _)]

theorem highestVersion_append_of_forall_ne {more : List (MessageId × Nat)}
    (others : ∀ entry ∈ more, entry.1 ≠ messageId) :
    highestVersion messageId (more ++ versions) = highestVersion messageId versions := by
  induction more with
  | nil => rfl
  | cons entry more ih =>
    obtain ⟨isOther, others⟩ := forall_mem_cons.mp others
    exact (highestVersion_cons_of_ne isOther).trans (ih others)

end Versions

section Loading

variable {contents : Contents} {rows : List Row} {row : Row} {messageId : MessageId}

theorem told_of_live (same : row.id = .message messageId) (live : row.deleted = false) :
    row.told = ([(messageId, row.version.getD 0)], []) := by
  rw [Row.told, same]
  simp [live]

theorem told_versions_of_ne (other : row.id ≠ .message messageId) :
    ∀ entry ∈ row.told.1, entry.1 ≠ messageId := by
  intro entry told
  rw [Row.told] at told
  split at told
  · cases told
  next otherId same =>
    split at told
    · cases told
    obtain rfl := mem_singleton.mp told
    rintro rfl
    exact other same

theorem eq_of_told_deletion (told : messageId ∈ row.told.2) :
    row.id = .message messageId ∧ row.deleted = true := by
  rw [Row.told] at told
  split at told
  · cases told
  next otherId same =>
    split at told
    next deleted =>
      obtain rfl := mem_singleton.mp told
      exact ⟨same, deleted⟩
    · cases told

/-- Of rows with different ids, each live one tells the highest version of its message. -/
theorem highestVersion_told (once : (rows.map Row.id).Nodup) (present : row ∈ rows)
    (same : row.id = .message messageId) (live : row.deleted = false) :
    highestVersion messageId (rows.flatMap fun row => row.told.1) =
      some (row.version.getD 0) := by
  induction rows with
  | nil => cases present
  | cons head rest ih =>
    rw [map_cons, nodup_cons] at once
    obtain ⟨fresh, onceRest⟩ := once
    rw [flatMap_cons]
    rcases mem_cons.mp present with rfl | inRest
    · have noneInRest : ∀ entry ∈ rest.flatMap fun row => row.told.1, entry.1 ≠ messageId := by
        intro entry told
        obtain ⟨other, otherMem, otherTold⟩ := mem_flatMap.mp told
        refine told_versions_of_ne (fun otherSame => fresh ?_) entry otherTold
        rw [same, ← otherSame]
        exact mem_map_of_mem otherMem
      have restNone : highestVersion messageId ((rest.flatMap fun row => row.told.1) ++ []) =
          none := highestVersion_append_of_forall_ne noneInRest
      rw [append_nil] at restNone
      rw [told_of_live same live, singleton_append, highestVersion_cons_self, restNone]
      rfl
    · have headOther : head.id ≠ .message messageId := by
        intro headSame
        apply fresh
        rw [headSame, ← same]
        exact mem_map_of_mem inRest
      rw [highestVersion_append_of_forall_ne (told_versions_of_ne headOther)]
      exact ih onceRest inRest

theorem converged_loaded (loaded : LoadedList contents) : Converged contents loaded.replica where
  once := loaded.once
  faithful := by
    intro row present
    have served := loaded.served row present
    rw [Faithful]
    split
    next deleted => rwa [if_pos deleted] at served
    next live =>
      rw [if_neg live] at served
      intro messageId same
      have isLive := eq_false_of_ne_true live
      refine ⟨fun told => ?_, _, highestVersion_told loaded.once present same isLive,
        served messageId same⟩
      obtain ⟨other, otherMem, otherTold⟩ := mem_flatMap.mp told
      obtain ⟨otherSame, otherDeleted⟩ := eq_of_told_deletion otherTold
      obtain rfl := inj_on_of_nodup_map loaded.once otherMem present (otherSame.trans same.symm)
      exact live otherDeleted

end Loading

section Frames

variable {contents : Contents} {versions : List (MessageId × Nat)} {deletions : List MessageId}
  {row : Row} {messageId : MessageId} {version : Nat}

/-- What comes for one message says nothing about the rows of the others. -/
theorem faithful_cons_version_of_ne (other : row.id ≠ .message messageId) :
    Faithful contents ((messageId, version) :: versions) deletions row ↔
      Faithful contents versions deletions row := by
  rw [Faithful, Faithful]
  split
  · rfl
  refine forall₂_congr fun otherId same => and_congr_right fun _ => ?_
  apply shows_cons_of_ne
  rintro rfl
  exact other same

theorem faithful_cons_deletion_of_ne (other : row.id ≠ .message messageId) :
    Faithful contents versions (messageId :: deletions) row ↔
      Faithful contents versions deletions row := by
  rw [Faithful, Faithful]
  split
  · rfl
  refine forall₂_congr fun otherId same => and_congr_left fun _ => not_congr ?_
  refine mem_cons.trans (or_iff_right ?_)
  rintro rfl
  exact other same

theorem faithful_cons_zero (faithful : Faithful contents versions deletions row) :
    Faithful contents ((messageId, 0) :: versions) deletions row := by
  by_cases same : row.id = .message messageId
  · rw [Faithful] at faithful ⊢
    split at faithful
    next deleted => rwa [if_pos deleted]
    next live =>
      rw [if_neg live]
      intro otherId otherSame
      cases same.symm.trans otherSame
      obtain ⟨kept, shown⟩ := faithful messageId same
      exact ⟨kept, shows_cons_zero shown⟩
  · exact (faithful_cons_version_of_ne same).mpr faithful

theorem faithful_live_iff (same : row.id = .message messageId) (live : row.deleted = false) :
    Faithful contents versions deletions row ↔
      messageId ∉ deletions ∧ Shows contents versions messageId row.content := by
  rw [Faithful, if_neg (by simp [live])]
  constructor
  · exact fun faithful => faithful messageId same
  · intro faithful otherId otherSame
    cases same.symm.trans otherSame
    exact faithful

theorem faithful_of_deleted (deleted : row.deleted = true) (masked : row.content = none) :
    Faithful contents versions deletions row := by
  rwa [Faithful, if_pos deleted]

/-- A row that takes a version is faithful when it is alive and the version is not behind. -/
theorem faithful_merge_iff (same : row.id = .message messageId) :
    Faithful contents ((messageId, version) :: versions) deletions
        (row.merge (contents messageId version) version) ↔
      row.deleted = false ∧ messageId ∉ deletions ∧
        NotBehind contents versions messageId version := by
  have sameMerged : (row.merge (contents messageId version) version).id = .message messageId := same
  cases live : row.deleted with
  | true =>
    refine iff_of_false ?_ (by simp)
    rw [Faithful]
    split
    next => exact Option.some_ne_none _
    next notDeleted => exact absurd live notDeleted
  | false =>
    have liveMerged : (row.merge (contents messageId version) version).deleted = false := live
    rw [faithful_live_iff sameMerged liveMerged]
    rw [and_iff_right rfl]
    exact and_congr_right fun _ => shows_cons_self_iff

end Frames

section Delivery

variable {contents : Contents} {replica : Replica} {messageId : MessageId}

variable (law : Converged contents replica)

include law

/-- A page that takes in a new message keeps the list converged exactly when the later pages lack
the message, and it has neither been deleted nor edited. -/
theorem converged_inserted_iff {message : Row} (isMessage : message.id = .message messageId)
    (live : message.deleted = false) (content : message.content = some (contents messageId 0))
    (fresh : message.id ∉ replica.cache.first.items.map Row.id) {items : List Row}
    (inserts : Inserts replica.cache.first.items items message) :
    Converged contents ⟨replica.cache.withFirst items, (messageId, 0) :: replica.versions,
        replica.deletions⟩ ↔
      .message messageId ∉ replica.cache.laterRows.map Row.id ∧
        messageId ∉ replica.deletions ∧ NotBehind contents replica.versions messageId 0 := by
  have shown : Faithful contents ((messageId, 0) :: replica.versions) replica.deletions message ↔
      messageId ∉ replica.deletions ∧ NotBehind contents replica.versions messageId 0 := by
    rw [faithful_live_iff isMessage live, content, shows_cons_self_iff]
  have split := law.once
  rw [MessageListCache.rows, map_append, nodup_append'] at split
  obtain ⟨firstOnce, laterOnce, apart⟩ := split
  constructor
  · intro after
    have once := after.once
    rw [rows_withFirst, map_append, nodup_append'] at once
    have notLater := once.2.2 (mem_map_of_mem inserts.present)
    rw [isMessage] at notLater
    exact ⟨notLater, shown.mp (after.faithful message (mem_rows.mpr (.inl inserts.present)))⟩
  · rintro ⟨notLater, welcome⟩
    constructor
    · rw [rows_withFirst, map_append, nodup_append']
      refine ⟨inserts.once firstOnce, laterOnce, fun id inItems inLater => ?_⟩
      obtain ⟨row, present, rfl⟩ := mem_map.mp inItems
      rcases inserts.others row present with rfl | inFirst
      · rw [isMessage] at inLater
        exact notLater inLater
      · exact apart (mem_map_of_mem inFirst) inLater
    · have frame {row : Row} (present : row ∈ replica.cache.rows)
          (other : row.id ≠ .message messageId) :
          Faithful contents ((messageId, 0) :: replica.versions) replica.deletions row :=
        (faithful_cons_version_of_ne other).mpr (law.faithful row present)
      intro row present
      rcases mem_rows.mp present with inItems | inLater
      · rcases inserts.others row inItems with rfl | inFirst
        · exact shown.mpr welcome
        refine frame (mem_rows.mpr (.inl inFirst)) fun same => fresh ?_
        rw [isMessage, ← same]
        exact mem_map_of_mem inFirst
      · refine frame (mem_rows.mpr (.inr inLater)) fun same => notLater ?_
        rw [← same]
        exact mem_map_of_mem inLater

theorem Converged.cons_zero :
    Converged contents ⟨replica.cache, (messageId, 0) :: replica.versions, replica.deletions⟩ :=
  ⟨law.once, fun row present => faithful_cons_zero (law.faithful row present)⟩

/-- The update of a message keeps the list converged exactly when its row is alive and the version
is not behind. -/
theorem converged_updated_iff {version : Nat} :
    Converged contents ⟨replica.cache.updated messageId (contents messageId version) version,
        (messageId, version) :: replica.versions, replica.deletions⟩ ↔
      ∀ row ∈ replica.cache.rows, row.id = .message messageId →
        row.deleted = false ∧ NotBehind contents replica.versions messageId version := by
  have sameRows : (replica.cache.updated messageId (contents messageId version) version).rows =
      replica.cache.rows.map (Row.patchAt messageId fun row =>
        row.merge (contents messageId version) version) := rows_mapItems
  constructor
  · intro after row present same
    have isMerged := mem_map_of_mem (f := Row.patchAt messageId fun row =>
      row.merge (contents messageId version) version) present
    rw [patchAt_of_eq same, ← sameRows] at isMerged
    have merged := (faithful_merge_iff same).mp (after.faithful _ isMerged)
    exact ⟨merged.1, merged.2.2⟩
  · intro welcome
    constructor
    · rw [sameRows, map_id_patchAt (id_merge _ _)]
      exact law.once
    · intro row present
      rw [sameRows] at present
      obtain ⟨before, beforeMem, rfl⟩ := mem_map.mp present
      have faithful := law.faithful before beforeMem
      by_cases same : before.id = .message messageId
      · obtain ⟨live, notBehind⟩ := welcome before beforeMem same
        rw [faithful_live_iff same live] at faithful
        rw [patchAt_of_eq same]
        exact (faithful_merge_iff same).mpr ⟨live, faithful.1, notBehind⟩
      · rw [patchAt_of_ne same]
        exact (faithful_cons_version_of_ne same).mpr faithful

/-- A deletion keeps the list converged. -/
theorem Converged.deleted {version : Option Nat} :
    Converged contents ⟨replica.cache.deleted messageId version, replica.versions,
      messageId :: replica.deletions⟩ where
  once := sublist_rows_deleted.nodup law.once
  faithful := by
    intro row present
    by_cases same : row.id = .message messageId
    · obtain ⟨deleted, masked⟩ := deleted_of_mem_deleted present same
      exact faithful_of_deleted deleted masked
    · have kept : row ∈ replica.cache.rows.filter fun row => row.id ≠ .message messageId := by
        rw [← filter_rows_deleted]
        exact mem_filter.mpr ⟨present, decide_eq_true same⟩
      exact (faithful_cons_deletion_of_ne same).mpr (law.faithful row (mem_filter.mp kept).1)

/-- A new message keeps the list converged exactly when it is welcome. -/
theorem converged_created_iff {next : MessageListCache} {message : Row}
    (isMessage : message.id = .message messageId) (live : message.deleted = false)
    (content : message.content = some (contents messageId 0))
    (effect : message.id ∈ replica.cache.first.items.map Row.id ∧ next = replica.cache ∨ message.id
      ∉ replica.cache.first.items.map Row.id ∧ ∃ items, next = replica.cache.withFirst items ∧
      Inserts replica.cache.first.items items message) :
    Converged contents ⟨next, (messageId, 0) :: replica.versions, replica.deletions⟩ ↔
      Welcome contents replica messageId := by
  rcases effect with ⟨held, rfl⟩ | ⟨fresh, items, rfl, inserts⟩
  · rw [isMessage] at held
    exact iff_of_true law.cons_zero (.inl held)
  · rw [converged_inserted_iff law isMessage live content fresh inserts, Welcome, ← isMessage]
    exact (or_iff_right fresh).symm

/-- One event keeps the list converged exactly when the list can take it as it comes. -/
theorem converged_deliver_iff (event : MessageEvent) :
    Converged contents (replica.deliver contents event) ↔
      StaysConverged contents replica event := by
  cases event with
  | created message nonce =>
    cases isReply : message.parentMessageId with
    | some parent =>
      have same : replica.cache.dispatch contents (.created message nonce) = replica.cache := by
        rw [MessageListCache.dispatch, isReply]
        rfl
      rw [Replica.deliver, same]
      refine iff_of_true law.cons_zero fun isRoot => ?_
      rw [isReply] at isRoot
      cases isRoot
    | none =>
      have dispatched : replica.cache.dispatch contents (.created message nonce) =
          replica.cache.created (message.row contents) nonce := by
        rw [MessageListCache.dispatch, isReply]
        rfl
      rw [Replica.deliver, dispatched, StaysConverged, isReply, imp_iff_right rfl]
      exact converged_created_iff law rfl rfl rfl createdEffect_created.inserts
  | broadcast message =>
    have isMessage : ({ message.row contents with isBroadcast := true } : Row).id =
        .message message.id := rfl
    exact converged_created_iff law isMessage rfl rfl (broadcast_inserts _ _)
  | updated messageId version => exact converged_updated_iff law
  | deleted messageId version => exact iff_of_true law.deleted trivial

end Delivery

/-- A list stays converged along a run of events exactly when it can take each of them as it comes:
a new message that is in the first page, or in no page and neither deleted nor edited so far, an
update that is not behind and meets no placeholder, and any deletion. -/
theorem events_converge_iff (contents : Contents) (loaded : LoadedList contents)
    {events : List MessageEvent} {finish : Replica} :
    Steps (Lawful (Delivers contents) (Converged contents)) loaded.replica events finish ↔
      Steps (Guarded (Delivers contents) (StaysConverged contents)) loaded.replica events
        finish := by
  refine Steps.lawful_iff_guarded (fun _ => True) (fun _ _ => trivial) ?_ trivial
    (converged_loaded loaded)
  rintro replica event next rfl - law
  exact converged_deliver_iff law event

/-- Three versions of each message. -/
def threeVersions : Contents := fun _ version =>
  match version with
  | 0 => "first"
  | 1 => "second"
  | _ => "third"

def newMessage (id : Nat) : NewMessage where
  id := ⟨id⟩
  authorId := ⟨0⟩

def emptyList : LoadedList threeVersions where
  cache := ⟨⟨[], none⟩, []⟩
  once := by decide
  served := forall_mem_nil _

/-- The first message is on the second page. -/
def twoPages : LoadedList threeVersions where
  cache := ⟨⟨[(newMessage 1).row threeVersions], none⟩,
    [⟨[(newMessage 0).row threeVersions], none⟩]⟩
  once := by decide
  served := by
    have served (id : Nat) : ((newMessage id).row threeVersions).content =
        some (threeVersions ⟨id⟩ 0) := rfl
    refine forall_mem_cons.mpr ⟨?_, forall_mem_cons.mpr ⟨?_, forall_mem_nil _⟩⟩
    all_goals
      rintro messageId same
      obtain rfl := RowId.message.inj same
      rfl

/-- A message on the second page comes again and is shown twice. A deletion that overtakes its
message leaves it alive. An update that is overtaken by the next one brings the older content
back. -/
theorem message_events_do_not_commute :
    (∃ finish, Steps (Delivers threeVersions) twoPages.replica
        [.created (newMessage 0) none] finish ∧
      finish.cache.rows.map Row.id = [.message ⟨0⟩, .message ⟨1⟩, .message ⟨0⟩] ∧
      ¬Converged threeVersions finish) ∧
    (∃ finish, Steps (Delivers threeVersions) emptyList.replica
        [.deleted ⟨0⟩ none, .created (newMessage 0) none] finish ∧
      finish.cache.rows = [(newMessage 0).row threeVersions] ∧ finish.deletions = [⟨0⟩] ∧
      ¬Converged threeVersions finish) ∧
    ∃ finish, Steps (Delivers threeVersions) emptyList.replica
        [.created (newMessage 0) none, .updated ⟨0⟩ 2, .updated ⟨0⟩ 1] finish ∧
      finish.cache.rows.map Row.content = [some "second"] ∧
      highestVersion ⟨0⟩ finish.versions = some 2 ∧ ¬Converged threeVersions finish := by
  have delivers (replica : Replica) (event : MessageEvent) :
      Delivers threeVersions replica event (replica.deliver threeVersions event) := rfl
  refine ⟨⟨_, Steps.of_foldl delivers _ _, by decide, fun law => ?_⟩,
    ⟨_, Steps.of_foldl delivers _ _, by decide, by decide, fun law => ?_⟩,
    _, Steps.of_foldl delivers _ _, by decide, by decide, fun law => ?_⟩
  · exact absurd law.once (by decide)
  · have live := law.faithful ((newMessage 0).row threeVersions) mem_cons_self ⟨0⟩ rfl
    exact live.1 mem_cons_self
  · obtain ⟨-, highest, isHighest, content⟩ :=
      law.faithful (((newMessage 0).row threeVersions).merge "second" 1) mem_cons_self ⟨0⟩ rfl
    cases isHighest
    exact absurd content (by decide)

end Bongtalk.Web
