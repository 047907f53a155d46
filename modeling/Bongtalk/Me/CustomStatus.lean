import Bongtalk.Common.DomainError
import Bongtalk.Library.EventLoop
import Bongtalk.Prisma.Notifications
import Bongtalk.Shared.Text

/-!
# Custom status

A request may write a text, an emoji and the time at which they expire. They are three columns of
the user row. A read that finds them expired answers with an empty status and clears them behind the
answer, whatever they hold by then; if the user wants so, it then switches the user to
do-not-disturb.
-/

namespace Bongtalk.Me

open Library EventLoop Common Prisma Shared List

inductive StatusPreset where
  | dontClear
  | thirtyMin
  | oneHour
  | fourHours
  | today
  | thisWeek
deriving DecidableEq, Repr

/-- A wall clock; the day of the week counts from Sunday. -/
structure ZonedParts where
  year : Nat
  month : Nat
  day : Nat
  hour : Nat
  minute : Nat
  second : Nat
  dayOfWeek : Nat
deriving DecidableEq, Repr

/-- What the runtime knows of dates. -/
structure DateRuntime where
  /-- `new Date(text)`, unless it is invalid. -/
  parse : List Char → Option DateTime
  /-- `new Intl.DateTimeFormat` for a time zone, which throws for an unknown one. -/
  format : String → Option (DateTime → ZonedParts)

/-- The body of the request. A field may be left out, and some may be null. -/
structure SetStatusBody where
  text : Option (Option (List Char)) := none
  emoji : Option (Option (List Char)) := none
  expiresAt : Option (Option (List Char)) := none
  preset : Option StatusPreset := none
  timezone : Option String := none
  dndDuringStatus : Option Bool := none
deriving DecidableEq, Repr

structure NormalizedStatus where
  text : Option (List Char)
  emoji : Option (List Char)
  expiresAt : Option DateTime
  timezone : Option String
deriving DecidableEq, Repr

def isControlChar (char : Char) : Bool :=
  char.toNat ≤ 0x1f || (0x7f ≤ char.toNat && char.toNat ≤ 0x9f)

def stripControlChars (value : List Char) : List Char :=
  value.filter fun char => !isControlChar char

/-- A text of at most so many units, or null when nothing is left of it. -/
def normalizeField (limit : Nat) (tooLong : String) (raw : Option (Option (List Char))) :
    Except Failure (Option (List Char)) :=
  let text := trim (stripControlChars ((raw.getD none).getD []))
  if text = [] then .ok none
  else if limit < utf16Length text then failWith .validationFailed tooLong
  else .ok (some text)

def textMax : Nat := 100

def emojiMax : Nat := 64

def tzMax : Nat := 64

def normalizeText : Option (Option (List Char)) → Except Failure (Option (List Char)) :=
  normalizeField textMax "text too long (max 100)"

def normalizeEmoji : Option (Option (List Char)) → Except Failure (Option (List Char)) :=
  normalizeField emojiMax "emoji too long (max 64)"

section Presets

/-- `Date.UTC`; days behind the end of the month run on. -/
def dateUtc (year month day hour minute second : Nat) : Int :=
  let sinceMarch := if 2 < month then month - 3 else month + 9
  let years := if 2 < month then year else year - 1
  let days : Int := (365 * years + years / 4 - years / 100 + years / 400 : Nat) +
    ((153 * sinceMarch + 2) / 5 : Nat) + day - 1 - 719468
  ((days * 24 + hour) * 60 + minute) * 60000 + second * 1000

example : dateUtc 1970 1 1 0 0 0 = 0 := by decide

variable (runtime : DateRuntime)

def zonedParts (now : DateTime) (timezone : String) : Except Failure ZonedParts :=
  match runtime.format timezone with
  | none => .error (.range ⟨"Invalid time zone specified: " ++ timezone⟩)
  | some format => .ok (format now)

/-- The offset in minutes; some engines write midnight as hour 24. -/
def tzOffsetMinutes (now : DateTime) (parts : ZonedParts) : Int :=
  let hour := if parts.hour = 24 then 0 else parts.hour
  let asUtc := dateUtc parts.year parts.month parts.day hour parts.minute parts.second
  (asUtc - now + 30000) / 60000

def nextMidnightUtc (now : DateTime) (parts : ZonedParts) (addDays : Nat) : DateTime :=
  (dateUtc parts.year parts.month (parts.day + 1 + addDays) 0 0 0 -
    tzOffsetMinutes now parts * 60000).toNat

def computePreset (preset : StatusPreset) (now : DateTime) (timezone : Option String) :
    Except Failure (Option DateTime) :=
  match preset with
  | .dontClear => .ok none
  | .thirtyMin => .ok (some (now + 30 * 60000))
  | .oneHour => .ok (some (now + 60 * 60000))
  | .fourHours => .ok (some (now + 4 * 60 * 60000))
  | .today => do
    let parts ← zonedParts runtime now (timezone.getD "UTC")
    return some (nextMidnightUtc now parts 0)
  | .thisWeek => do
    let parts ← zonedParts runtime now (timezone.getD "UTC")
    let totalDays := if parts.dayOfWeek = 0 then 7 else 7 - parts.dayOfWeek
    return some (nextMidnightUtc now parts (totalDays - 1))

end Presets

section Normalize

variable (runtime : DateRuntime)

def normalizeTimezone (raw : Option String) : Except Failure (Option String) :=
  match raw with
  | none => .ok none
  | some timezone =>
    if timezone = "" then .ok none
    else if tzMax < utf16Length timezone.toList then
      failWith .validationFailed "timezone invalid (max 64)"
    else if (runtime.format timezone).isNone then
      failWith .validationFailed "timezone is not a valid IANA zone"
    else .ok (some timezone)

/-- A time that is given counts more than a preset. -/
def normalizeExpiry (now : DateTime) (rawExpiry : Option (Option (List Char)))
    (preset : Option StatusPreset) (timezone : Option String) :
    Except Failure (Option DateTime) :=
  match rawExpiry.getD none with
  | some text =>
    match runtime.parse text with
    | none => failWith .validationFailed "expiresAt is not a valid ISO date"
    | some expiresAt =>
      if expiresAt ≤ now then failWith .validationFailed "expiresAt must be in the future"
      else .ok (some expiresAt)
  | none =>
    match preset with
    | none => .ok none
    | some preset => computePreset runtime preset now timezone

def normalizeInput (body : SetStatusBody) (now : DateTime) : Except Failure NormalizedStatus := do
  let text ← normalizeText body.text
  let emoji ← normalizeEmoji body.emoji
  let timezone ← normalizeTimezone runtime body.timezone
  let expiresAt ← normalizeExpiry runtime now body.expiresAt body.preset timezone
  return { text, emoji, expiresAt, timezone }

end Normalize

/-- The columns of a status. -/
structure StatusColumns where
  customStatus : Option (List Char) := none
  customStatusEmoji : Option (List Char) := none
  customStatusExpiresAt : Option DateTime := none
deriving DecidableEq, Repr

def StatusColumns.isExpired (columns : StatusColumns) (now : DateTime) : Bool :=
  columns.customStatusExpiresAt.any fun expiresAt => decide (expiresAt ≤ now)

structure CustomStatusView where
  text : Option (List Char) := none
  emoji : Option (List Char) := none
  expiresAt : Option DateTime := none
  dndDuringStatus : Bool
deriving DecidableEq, Repr

/-- A clear behind a read: which status the read had found expired, what the clear found, and
which status that was. -/
structure Erasure where
  read : Nat
  found : StatusColumns
  version : Nat
deriving DecidableEq, Repr

/-- A write that switches to do-not-disturb: on behalf of which status, and which one is the last. -/
structure Switch where
  read : Nat
  version : Nat
deriving DecidableEq, Repr

/-- One user, in the database and in Redis. -/
structure StatusState where
  now : DateTime
  columns : StatusColumns := {}
  timezone : Option String := none
  dndDuringStatus : Bool := false
  presencePreference : PresencePreference := .auto
  /-- The live workspaces that the user is a member of. -/
  workspaceIds : List WorkspaceId := []
  preferenceKey : Option PresencePreference := none
  /-- The workspaces with the user in their set of those who are not to be disturbed. -/
  dndIn : List WorkspaceId := []
  /-- The workspaces that are told of a change of presence. -/
  broadcasts : List WorkspaceId := []
  views : List CustomStatusView := []
  refused : List Failure := []
  /-- How many statuses `set` has written. No code reads this or what follows. -/
  version : Nat := 0
  /-- What the last `set` or `clear` has written. -/
  written : StatusColumns := {}
  erasures : List Erasure := []
  switches : List Switch := []

inductive StatusTask where
  | findUnique (now : DateTime)
  | clearExpired (dndDuringStatus : Bool) (read : Nat)
  | setPreference (read : Nat)
  | findMemberships (read : Nat)
  | setPreferenceKey (workspaceIds : List WorkspaceId) (read : Nat)
  | addToDnd (workspaceIds : List WorkspaceId) (read : Nat)
  | update (status : NormalizedStatus) (hasStatusInput : Bool) (dndOpt : Option Bool)
  | clear
deriving DecidableEq, Repr

namespace StatusState

variable (state : StatusState)

def view : CustomStatusView :=
  { text := state.columns.customStatus
    emoji := state.columns.customStatusEmoji
    expiresAt := state.columns.customStatusExpiresAt
    dndDuringStatus := state.dndDuringStatus }

def answer (view : CustomStatusView) : StatusState :=
  { state with views := state.views ++ [view] }

/-- The `user.update` of `set`. -/
def update (status : NormalizedStatus) (hasStatusInput : Bool) (dndOpt : Option Bool) :
    StatusState :=
  let columns : StatusColumns :=
    ⟨status.text, status.emoji, status.expiresAt⟩
  { state with
    columns := if hasStatusInput then columns else state.columns
    timezone := status.timezone <|> state.timezone
    dndDuringStatus := dndOpt.getD state.dndDuringStatus
    version := if hasStatusInput then state.version + 1 else state.version
    written := if hasStatusInput then columns else state.written }

/-- The `user.update` of `clear`. -/
def clear : StatusState :=
  { state with columns := {}, written := {} }

/-- The `user.update` of `clearAndMaybeDnd`. -/
def clearExpired (read : Nat) : StatusState :=
  { state with
    columns := {}
    erasures := ⟨read, state.columns, state.version⟩ :: state.erasures }

/-- A write of the switch to do-not-disturb. -/
def switchFor (read : Nat) : StatusState :=
  { state with switches := ⟨read, state.version⟩ :: state.switches }

end StatusState

/-- One statement of a call, or of what a read leaves behind. -/
def StatusTask.resume (state : StatusState) : StatusTask → StatusState × List StatusTask
  | .findUnique now =>
    if state.columns.isExpired now then
      (state.answer { dndDuringStatus := state.dndDuringStatus },
        [.clearExpired state.dndDuringStatus state.version])
    else (state.answer state.view, [])
  | .clearExpired dndDuringStatus read =>
    (state.clearExpired read, if dndDuringStatus then [.setPreference read] else [])
  | .setPreference read =>
    ({ state.switchFor read with presencePreference := .dnd }, [.findMemberships read])
  | .findMemberships read => (state, [.setPreferenceKey state.workspaceIds read])
  | .setPreferenceKey workspaceIds read =>
    ({ state.switchFor read with preferenceKey := some .dnd },
      if workspaceIds = [] then [] else [.addToDnd workspaceIds read])
  | .addToDnd workspaceIds read =>
    ({ state.switchFor read with
        dndIn := state.dndIn ++ workspaceIds
        broadcasts := state.broadcasts ++ workspaceIds }, [])
  | .update status hasStatusInput dndOpt =>
    let updated := state.update status hasStatusInput dndOpt
    (updated.answer
      { text := if hasStatusInput then status.text else updated.columns.customStatus
        emoji := if hasStatusInput then status.emoji else updated.columns.customStatusEmoji
        expiresAt :=
          if hasStatusInput then status.expiresAt else updated.columns.customStatusExpiresAt
        dndDuringStatus := dndOpt.getD updated.dndDuringStatus }, [])
  | .clear => (state.clear, [])

inductive StatusInput where
  | getEffective
  | set (body : SetStatusBody)
  | clear
  /-- Another route sets the preference. -/
  | setPresence (preference : PresencePreference) (dndIn : List WorkspaceId)
  | setWorkspaces (workspaceIds : List WorkspaceId)
  | tick (elapsed : Nat)
deriving DecidableEq, Repr

def SetStatusBody.hasStatusInput (body : SetStatusBody) : Bool :=
  body.text.isSome || body.emoji.isSome || body.expiresAt.isSome || body.preset.isSome

/-- What an input changes, and the statements it leaves. -/
def StatusInput.accept (runtime : DateRuntime) (state : StatusState) :
    StatusInput → StatusState × List StatusTask
  | .getEffective => (state, [.findUnique state.now])
  | .set body =>
    match normalizeInput runtime body state.now with
    | .error failure => ({ state with refused := state.refused ++ [failure] }, [])
    | .ok status => (state, [.update status body.hasStatusInput body.dndDuringStatus])
  | .clear => (state, [.clear])
  | .setPresence preference dndIn =>
    ({ state with
        presencePreference := preference, preferenceKey := some preference, dndIn := dndIn }, [])
  | .setWorkspaces workspaceIds => ({ state with workspaceIds := workspaceIds }, [])
  | .tick elapsed => ({ state with now := state.now + elapsed }, [])

def statusLoop (runtime : DateRuntime) :
    EventLoop StatusState StatusTask StatusInput where
  resume := StatusTask.resume
  Accepts state input next spawned := (next, spawned) = input.accept runtime state

/-- A state as a run begins with it: the stored status is the one that was written last. -/
def StatusState.begin (state : StatusState) : StatusState :=
  { state with version := 0, written := state.columns, erasures := [], switches := [] }

/-- What was written last is stored until it expires. A clear behind a read finds nothing, or the
status that the read had found expired, and no switch to do-not-disturb is for a status that was
replaced. -/
structure FreshStatusSurvives (state : StatusState) : Prop where
  stored : state.columns = state.written ∨
    state.columns = {} ∧ state.written.isExpired state.now = true
  erased : ∀ erasure ∈ state.erasures, erasure.found = {} ∨ erasure.version = erasure.read
  switched : ∀ switch ∈ state.switches, switch.version = switch.read

/-- No `set` has replaced the status since it was read, or a clear has nothing to erase. -/
def NotReplaced (state : StatusState) : StatusTask → Prop
  | .clearExpired _ read => state.columns = {} ∨ state.version = read
  | .setPreference read | .setPreferenceKey _ read | .addToDnd _ read => state.version = read
  | _ => True

/-- A clear is for a status that has expired, or has been replaced or erased since. -/
def ReadExpired (state : StatusState) : StatusTask → Prop
  | .findUnique now => now ≤ state.now
  | .clearExpired _ read => read ≤ state.version ∧
      (state.version = read → state.columns = {} ∨ state.columns.isExpired state.now = true)
  | _ => True

section Steps

variable {state next : StatusState} {task : StatusTask}

theorem StatusColumns.isExpired_later {columns : StatusColumns} {now later : DateTime}
    (notBefore : now ≤ later) (expired : columns.isExpired now = true) :
    columns.isExpired later = true := by
  simp only [isExpired, Option.any_eq_true, decide_eq_true_eq] at expired ⊢
  obtain ⟨expiresAt, found, reached⟩ := expired
  exact ⟨expiresAt, found, reached.trans notBefore⟩

/-- Time goes on, and without a new status the stored one stays or is erased. -/
structure Later (state next : StatusState) : Prop where
  now : state.now ≤ next.now
  grown : state.version ≤ next.version
  same : next.version = state.version → next.columns = {} ∨ next.columns = state.columns

theorem Later.of_same (now : state.now ≤ next.now) (version : next.version = state.version)
    (columns : next.columns = state.columns) : Later state next :=
  ⟨now, version.ge, fun _ => .inr columns⟩

theorem ReadExpired.later (later : Later state next) (read : ReadExpired state task) :
    ReadExpired next task := by
  cases task with
  | findUnique now => exact read.trans later.now
  | clearExpired dndDuringStatus seen =>
    refine ⟨read.1.trans later.grown, fun isSeen => ?_⟩
    have grown := later.grown
    have unwritten : next.version = state.version := by
      have before := read.1
      omega
    rcases later.same unwritten with erased | kept
    · exact .inl erased
    rw [kept]
    exact (read.2 (unwritten.symm.trans isSeen)).imp_right (StatusColumns.isExpired_later later.now)
  | _ => trivial

theorem later_update (state : StatusState) (status : NormalizedStatus) (hasStatusInput : Bool)
    (dndOpt : Option Bool) : Later state (state.update status hasStatusInput dndOpt) := by
  cases hasStatusInput with
  | false => exact .of_same (le_refl _) rfl rfl
  | true => exact ⟨le_refl _, Nat.le_succ _, fun same => absurd same (Nat.succ_ne_self _)⟩

/-- Each step leaves later facts to the tasks that wait, and its own to those that it leaves. -/
theorem readExpired_resume (read : ReadExpired state task) :
    Later state (task.resume state).1 ∧
      ∀ new ∈ (task.resume state).2, ReadExpired (task.resume state).1 new := by
  have same (next : StatusState) (now : next.now = state.now)
      (version : next.version = state.version) (columns : next.columns = state.columns) :
      Later state next :=
    .of_same now.ge version columns
  cases task with
  | findUnique now =>
    rw [StatusTask.resume]
    split
    next expired =>
      refine ⟨same _ rfl rfl rfl, forall_mem_singleton.mpr ⟨le_refl _, fun _ => .inr ?_⟩⟩
      exact StatusColumns.isExpired_later read expired
    · exact ⟨same _ rfl rfl rfl, forall_mem_nil _⟩
  | clearExpired dndDuringStatus seen =>
    refine ⟨⟨le_refl _, le_refl _, fun _ => .inl rfl⟩, fun new newMem => ?_⟩
    simp only [StatusTask.resume] at newMem
    split at newMem
    · obtain rfl := mem_singleton.mp newMem
      trivial
    · cases newMem
  | setPreference seen =>
    exact ⟨same _ rfl rfl rfl, forall_mem_singleton.mpr trivial⟩
  | findMemberships seen => exact ⟨same _ rfl rfl rfl, forall_mem_singleton.mpr trivial⟩
  | setPreferenceKey workspaceIds seen =>
    refine ⟨same _ rfl rfl rfl, fun new newMem => ?_⟩
    simp only [StatusTask.resume] at newMem
    split at newMem
    · cases newMem
    obtain rfl := mem_singleton.mp newMem
    trivial
  | addToDnd workspaceIds seen => exact ⟨same _ rfl rfl rfl, forall_mem_nil _⟩
  | update status hasStatusInput dndOpt =>
    have later := later_update state status hasStatusInput dndOpt
    exact ⟨⟨later.now, later.grown, later.same⟩, forall_mem_nil _⟩
  | clear => exact ⟨⟨le_refl _, le_refl _, fun _ => .inl rfl⟩, forall_mem_nil _⟩

theorem readExpired_accept {runtime : DateRuntime} {input : StatusInput} :
    Later state (input.accept runtime state).1 ∧
      ∀ new ∈ (input.accept runtime state).2, ReadExpired (input.accept runtime state).1 new := by
  cases input with
  | getEffective =>
    exact ⟨.of_same (le_refl _) rfl rfl, forall_mem_singleton.mpr (le_refl _)⟩
  | set body =>
    rw [StatusInput.accept]
    split
    · exact ⟨.of_same (le_refl _) rfl rfl, forall_mem_nil _⟩
    · exact ⟨.of_same (le_refl _) rfl rfl, forall_mem_singleton.mpr trivial⟩
  | clear => exact ⟨.of_same (le_refl _) rfl rfl, forall_mem_singleton.mpr trivial⟩
  | setPresence preference dndIn | setWorkspaces workspaceIds =>
    exact ⟨.of_same (le_refl _) rfl rfl, forall_mem_nil _⟩
  | tick elapsed => exact ⟨.of_same (Nat.le_add_right _ _) rfl rfl, forall_mem_nil _⟩

variable (survives : FreshStatusSurvives state)

include survives

/-- A write of the switch keeps the law exactly when the status was not replaced. -/
theorem freshStatusSurvives_switchFor (read : Nat) :
    FreshStatusSurvives (state.switchFor read) ↔ state.version = read := by
  constructor
  · exact fun law => law.switched _ mem_cons_self
  · exact fun same => ⟨survives.stored, survives.erased,
      forall_mem_cons.mpr ⟨same, survives.switched⟩⟩

/-- So does a clear behind a read, of a status that has expired. -/
theorem freshStatusSurvives_clearExpired {read : Nat}
    (expired : state.version = read → state.columns = {} ∨ state.columns.isExpired state.now =
      true) :
    FreshStatusSurvives (state.clearExpired read) ↔ state.columns = {} ∨ state.version = read := by
  constructor
  · exact fun law => law.erased _ mem_cons_self
  · intro unreplaced
    refine ⟨?_, forall_mem_cons.mpr ⟨unreplaced, survives.erased⟩, survives.switched⟩
    change ({} : StatusColumns) = state.written ∨
      ({} : StatusColumns) = {} ∧ state.written.isExpired state.now = true
    have isErased : state.columns = {} ∨ state.columns.isExpired state.now = true := by
      rcases unreplaced with erased | same
      · exact .inl erased
      · exact expired same
    rcases survives.stored with isWritten | ⟨-, writtenExpired⟩
    · rw [← isWritten]
      exact isErased.imp Eq.symm fun columnsExpired => ⟨rfl, columnsExpired⟩
    · exact .inr ⟨rfl, writtenExpired⟩

theorem FreshStatusSurvives.update (status : NormalizedStatus) (hasStatusInput : Bool)
    (dndOpt : Option Bool) :
    FreshStatusSurvives (state.update status hasStatusInput dndOpt) := by
  refine ⟨?_, survives.erased, survives.switched⟩
  cases hasStatusInput with
  | false => exact survives.stored
  | true => exact .inl rfl

/-- A step keeps the law exactly when it does not run behind a newer status. -/
theorem freshStatusSurvives_resume (read : ReadExpired state task) :
    FreshStatusSurvives (task.resume state).1 ↔ NotReplaced state task := by
  cases task with
  | findUnique now =>
    refine iff_of_true ?_ trivial
    rw [StatusTask.resume]
    split
    · exact ⟨survives.stored, survives.erased, survives.switched⟩
    · exact ⟨survives.stored, survives.erased, survives.switched⟩
  | clearExpired dndDuringStatus seen => exact freshStatusSurvives_clearExpired survives read.2
  | findMemberships seen => exact iff_of_true survives trivial
  | setPreference seen | setPreferenceKey workspaceIds seen | addToDnd workspaceIds seen =>
    refine Iff.trans ?_ (freshStatusSurvives_switchFor survives seen)
    exact ⟨fun law => ⟨law.stored, law.erased, law.switched⟩,
      fun law => ⟨law.stored, law.erased, law.switched⟩⟩
  | update status hasStatusInput dndOpt =>
    have law := survives.update status hasStatusInput dndOpt
    exact iff_of_true ⟨law.stored, law.erased, law.switched⟩ trivial
  | clear => exact iff_of_true ⟨.inl rfl, survives.erased, survives.switched⟩ trivial

theorem FreshStatusSurvives.accept {runtime : DateRuntime} {input : StatusInput} :
    FreshStatusSurvives (input.accept runtime state).1 := by
  cases input with
  | set body =>
    rw [StatusInput.accept]
    split
    · exact ⟨survives.stored, survives.erased, survives.switched⟩
    · exact survives
  | tick elapsed =>
    refine ⟨survives.stored.imp_right fun ⟨erased, expired⟩ => ⟨erased, ?_⟩, survives.erased,
      survives.switched⟩
    exact StatusColumns.isExpired_later (Nat.le_add_right _ _) expired
  | _ => exact ⟨survives.stored, survives.erased, survives.switched⟩

end Steps

/-- A status survives until it expires, and nothing is done for one that was replaced, along the
runs in which no clear behind a read, and no switch after it, runs behind a newer status. -/
theorem fresh_status_survives_iff (runtime : DateRuntime) (state : StatusState)
    (labels : List (Label StatusTask StatusInput))
    (finish : State StatusState StatusTask) :
    Steps (Lawful (Step (statusLoop runtime)) fun state =>
        FreshStatusSurvives state.shared) ⟨state.begin, []⟩ labels finish ↔
      Steps (Guarded (Step (statusLoop runtime)) (OnResume NotReplaced))
        ⟨state.begin, []⟩ labels finish := by
  have resume {state : StatusState} {task : StatusTask} (_ : True) (read : ReadExpired state task) :
      Keeps (fun _ => True) ReadExpired state (task.resume state).1 (task.resume state).2 := by
    obtain ⟨later, fresh⟩ := readExpired_resume read
    exact ⟨trivial, fun _ waits => waits.later later, fresh⟩
  have accept {state next : StatusState} {input : StatusInput} {spawned : List StatusTask}
      (accepted : (statusLoop runtime).Accepts state input next spawned) (_ : True) :
      Keeps (fun _ => True) ReadExpired state next spawned := by
    obtain ⟨rfl, rfl⟩ := Prod.mk.inj accepted
    obtain ⟨later, fresh⟩ := readExpired_accept
    exact ⟨trivial, fun _ waits => waits.later later, fresh⟩
  refine lawful_iff_guarded resume accept
    (fun _ read survives => freshStatusSurvives_resume survives read) ?_ trivial
    ⟨.inl rfl, forall_mem_nil _, forall_mem_nil _⟩
  intro state input next spawned accepted survives
  obtain ⟨rfl, rfl⟩ := Prod.mk.inj accepted
  exact survives.accept

/-- Dates that a test reads; every text is the same time. -/
def constantDates : DateRuntime where
  parse _ := some 1000
  format _ := none

/-- A status that has expired, of a user who wants not to be disturbed afterwards. -/
def expiredStatus : StatusState where
  now := 10
  columns := ⟨some ['b', 'r', 'b'], none, some 5⟩
  dndDuringStatus := true
  workspaceIds := [⟨1⟩]

/-- A status without expiry. -/
def meetingStatus : NormalizedStatus :=
  ⟨some ['m', 'e', 'e', 't', 'i', 'n', 'g'], none, none, none⟩

/-- A read clears the expired status and switches to do-not-disturb. -/
theorem expired_status_cleared : ∃ labels finish,
    Steps (Lawful (Step (statusLoop constantDates)) fun state =>
        FreshStatusSurvives state.shared) ⟨expiredStatus.begin, []⟩ labels finish ∧
      finish.shared.columns = {} ∧ finish.shared.presencePreference = .dnd ∧
      finish.shared.dndIn = [⟨1⟩] := by
  have asked : Guarded (Step (statusLoop constantDates)) (OnResume NotReplaced)
      ⟨expiredStatus.begin, []⟩ (.accept .getEffective)
      ⟨expiredStatus.begin, [.findUnique 10]⟩ :=
    ⟨.accept rfl, trivial⟩
  obtain ⟨labels, steps⟩ := exists_guarded_runFirst 6 (Steps.singleton_iff.mpr asked)
    ⟨trivial, .inr rfl, rfl, trivial, rfl, rfl, trivial⟩
  exact ⟨labels, _, (fresh_status_survives_iff constantDates expiredStatus labels _).mpr steps,
    rfl, rfl, rfl⟩

/-- A device reads the expired status, another one sets a new one, and the clear behind the read
erases it and switches to do-not-disturb. -/
theorem new_status_erased : ∃ labels finish,
    Steps (Step (statusLoop constantDates)) ⟨expiredStatus.begin, []⟩ labels finish ∧
      finish.shared.written = ⟨meetingStatus.text, none, none⟩ ∧ finish.shared.columns = {} ∧
      finish.shared.presencePreference = .dnd ∧ ¬FreshStatusSurvives finish.shared := by
  let body : SetStatusBody := { text := some meetingStatus.text }
  obtain ⟨labels, steps⟩ := (statusLoop constantDates).exists_steps_played
    (fun state input => input.accept constantDates state) (fun _ _ => true)
    ⟨expiredStatus.begin, []⟩ (fun _ _ _ => rfl) .refl
    [.accept .getEffective, .run 0, .accept (.set body), .run 1, .run 0, .run 0] rfl
  refine ⟨labels, _, steps, rfl, rfl, rfl, fun survives => ?_⟩
  rcases survives.stored with isWritten | ⟨-, expired⟩
  · cases isWritten
  · cases expired

end Bongtalk.Me
