import Bongtalk.Workspaces.Membership
import Bongtalk.Workspaces.Onboarding.Rules
import Bongtalk.Workspaces.Roles.PrivilegeEscalation

/-!
# Onboarding

Admins write questions whose options name channels and roles; a member who completes the onboarding
joins the channels and gets the roles of the options it has chosen. The calls run statement by
statement and the transaction of a completion at once; roles and members change in between.
-/

namespace Bongtalk.Workspaces.Onboarding

open Library EventLoop Common Prisma Shared Roles

/-- `ONBOARDING_QUESTIONS_MAX` -/
def onboardingQuestionsMax : Nat :=
  5

structure QuestionId where
  value : Nat
deriving DecidableEq, Repr

inductive QuestionType where
  | single
  | multi
  | shortText
deriving DecidableEq, Repr

structure QuestionOption where
  id : String
  label : String
  channelIds : List ChannelId := []
  roleId : Option RoleId := none
deriving DecidableEq, Repr

structure UpsertQuestionRequest where
  type : QuestionType
  isRequired : Bool := false
  label : String
  options : List QuestionOption := []
deriving DecidableEq, Repr

/-- A question row, with the moderator who has written its options last. The row has no column for
the author. -/
structure OnboardingQuestion where
  id : QuestionId
  workspaceId : WorkspaceId
  position : Nat
  type : QuestionType
  isRequired : Bool
  label : String
  options : List QuestionOption
  author : UserId
deriving DecidableEq, Repr

/-- The columns of a member about its onboarding. -/
structure Progress where
  rulesAcceptedAt : Option DateTime := none
  onboardingCompletedAt : Option DateTime := none
  onboardingAnswers : Option (List (QuestionId × String)) := none
deriving DecidableEq, Repr

/-- The last two fields are history: the completions that were recorded and the assignments that
they created, for members since they have joined. -/
structure OnboardingStore where
  db : Database
  rules : WorkspaceId → WorkspaceRules := fun _ => .empty
  questions : Table OnboardingQuestion OnboardingQuestion.id := .empty
  progress : WorkspaceId → UserId → Progress := fun _ _ => {}
  completions : List (WorkspaceId × UserId) := []
  grants : List MemberRole := []

structure Answer where
  questionId : QuestionId
  optionIds : List String := []
  text : Option String := none
deriving DecidableEq, Repr

structure CompleteCall where
  workspaceId : WorkspaceId
  userId : UserId
  answers : List Answer
  now : DateTime
deriving DecidableEq, Repr

/-- What the answers come to: the channels, each role with the author of its option, and texts. -/
structure Choice where
  channelIds : List ChannelId := []
  roles : List (RoleId × UserId) := []
  answers : List (QuestionId × String) := []
deriving DecidableEq, Repr

/-- What a moderator writes: a new question, or another content of one. -/
inductive QuestionTarget where
  | create (newId : QuestionId) (position : Nat)
  | update (questionId : QuestionId)
deriving DecidableEq, Repr

structure Authoring where
  workspaceId : WorkspaceId
  actorUserId : UserId
  target : QuestionTarget
  request : UpsertQuestionRequest
deriving DecidableEq, Repr

/-- A call, named by its next statement or transaction, with what it has read. -/
inductive OnboardingTask where
  | acceptRules (workspaceId : WorkspaceId) (userId : UserId) (now : DateTime)
  | findMember (call : CompleteCall)
  | countRules (call : CompleteCall)
  | listQuestions (call : CompleteCall)
  | findChannels (call : CompleteCall) (choice : Choice)
  | findRoles (call : CompleteCall) (choice : Choice) (channelIds : List ChannelId)
  | record (call : CompleteCall) (choice : Choice) (channelIds : List ChannelId)
      (roleIds : List RoleId)
  | assertAdmin (workspaceId : WorkspaceId) (userId : UserId) (next : OnboardingTask)
  | countQuestions (workspaceId : WorkspaceId) (actorUserId : UserId) (newId : QuestionId)
      (request : UpsertQuestionRequest)
  | findQuestion (workspaceId : WorkspaceId) (questionId : QuestionId) (next : OnboardingTask)
  | findOptionRoles (authoring : Authoring)
  | findActorRoles (authoring : Authoring) (roles : List Role)
  | write (authoring : Authoring)
  | delete (questionId : QuestionId)

/-- An option that is chosen. -/
def Choice.add (choice : Choice) (author : UserId) (option : QuestionOption) : Choice :=
  { choice with
    channelIds := choice.channelIds ++ option.channelIds
    roles := choice.roles ++ (option.roleId.map fun roleId => (roleId, author)).toList }

/-- Of two options with one id the later one counts. -/
def chooseOption (question : OnboardingQuestion) (choice : Choice) (optionId : String) :
    Except Failure Choice :=
  match (question.options.filter (·.id == optionId)).getLast? with
  | none =>
    failWith .onboardingInvalidOption
      ("unknown option " ++ optionId ++ " for question " ++ toString question.id.value)
  | some option => .ok (choice.add question.author option)

/-- An answer to a question that is unknown by now is left out. -/
def chooseAnswer (questions : List OnboardingQuestion) (choice : Choice) (answer : Answer) :
    Except Failure Choice :=
  match questions.find? (·.id == answer.questionId) with
  | none => .ok choice
  | some question =>
    match question.type with
    | .shortText =>
      let text := answer.text.filter (· ≠ "")
      .ok { choice with answers := choice.answers ++ (text.map fun text => (question.id, text)).toList }
    | .single | .multi => answer.optionIds.foldlM (chooseOption question) choice

def choose (questions : List OnboardingQuestion) (answers : List Answer) : Except Failure Choice :=
  answers.foldlM (chooseAnswer questions) {}

namespace OnboardingService

variable (store : OnboardingStore)

/-- `complete` up to its second statement; a member who has completed before is done. -/
def begin (call : CompleteCall) : Except Failure (Option OnboardingTask) :=
  match store.db.findMember call.workspaceId call.userId with
  | none => failWith .workspaceNotMember "workspace not found"
  | some member =>
    let progress := store.progress call.workspaceId call.userId
    if progress.onboardingCompletedAt ≠ none then .ok none
    else if member.role ≠ .owner ∧ progress.rulesAcceptedAt = none then .ok (some (.countRules call))
    else .ok (some (.listQuestions call))

/-- `listQuestions` -/
def questionsOf (workspaceId : WorkspaceId) : List OnboardingQuestion :=
  (store.questions.findMany (·.workspaceId == workspaceId)).insertionSort
    fun first second => first.position ≤ second.position

/-- The public channels of the workspace among the chosen ones. -/
def validChannelIds (db : Database) (workspaceId : WorkspaceId) (channelIds : List ChannelId) :
    List ChannelId :=
  (db.channels.findMany fun channel =>
    channelIds.contains channel.id && channel.workspaceId == some workspaceId &&
      channel.deletedAt == none && channel.archivedAt == none && !channel.isPrivate).map (·.id)

/-- The custom roles of the workspace without the administrator bit among the chosen ones. -/
def validRoleIds (db : Database) (workspaceId : WorkspaceId) (roleIds : List RoleId) :
    List RoleId :=
  ((db.roles.findMany fun role =>
    roleIds.contains role.id && role.workspaceId == workspaceId && !role.isSystem).filter fun role =>
      !hasRaw (fromStoragePermissions role.permissions) (permissions .administrator)).map (·.id)

/-- A subscription to a channel, unless there is a row for the user. -/
def subscribe (userId : UserId) (db : Database) (channelId : ChannelId) :
    Except Failure Database :=
  match db.channels.findUnique channelId with
  | none => .error .foreignKeyViolation
  | some _ =>
    let row : ChannelPermissionOverride := { channelId := channelId, principal := .user userId }
    .ok { db with overrides := (db.overrides.insertMissing [row]).1 }

/-- An assignment of a role, unless there is one. -/
def grantRole (workspaceId : WorkspaceId) (userId : UserId) (db : Database) (roleId : RoleId) :
    Except Failure Database :=
  match db.createMemberRole? ⟨workspaceId, userId, roleId⟩ with
  | none => .error .foreignKeyViolation
  | some next => .ok next

/-- The assignments of a database that another one does not have. -/
def newMemberRoles (before after : Database) : List MemberRole :=
  after.memberRoles.findMany fun row => decide (row ∉ before.memberRoles.rows)

def setProgress (workspaceId : WorkspaceId) (userId : UserId)
    (change : Progress → Progress) : OnboardingStore :=
  { store with progress := fun ofWorkspace ofUser =>
      if ofWorkspace = workspaceId ∧ ofUser = userId then change (store.progress ofWorkspace ofUser)
      else store.progress ofWorkspace ofUser }

def completed (now : DateTime) (answers : List (QuestionId × String)) (progress : Progress) :
    Progress :=
  { progress with
    onboardingCompletedAt := some now
    onboardingAnswers := if answers = [] then progress.onboardingAnswers else some answers }

/-- The transaction of a completion. -/
def record (call : CompleteCall) (choice : Choice) (channelIds : List ChannelId)
    (roleIds : List RoleId) : Except Failure OnboardingStore := do
  let subscribed ← channelIds.foldlM (subscribe call.userId) store.db
  let granted ← roleIds.foldlM (grantRole call.workspaceId call.userId) subscribed
  match granted.findMember call.workspaceId call.userId with
  | none => .error .recordNotFound
  | some _ =>
    .ok { setProgress store call.workspaceId call.userId (completed call.now choice.answers) with
      db := granted
      completions := (call.workspaceId, call.userId) :: store.completions
      grants := newMemberRoles store.db granted ++ store.grants }

/-- `acceptRules` -/
def acceptRules (workspaceId : WorkspaceId) (userId : UserId) (now : DateTime) :
    Except Failure OnboardingStore :=
  match store.db.findMember workspaceId userId with
  | none => failWith .workspaceNotMember "workspace not found"
  | some _ =>
    .ok (setProgress store workspaceId userId fun progress =>
      { progress with rulesAcceptedAt := some now })

/-- The gate of the controller for the calls on questions. -/
def assertAdmin (workspaceId : WorkspaceId) (userId : UserId) : Except Failure Unit :=
  match store.db.findMember workspaceId userId with
  | none => failWith .workspaceNotMember "workspace not found"
  | some member => failIf (decide (roleRank member.role < roleRank .admin)) .forbidden
      "ADMIN role required"

/-- What is checked of one role of an option, with the roles and the actor's roles as they were
read. -/
def assertGrantable (roles : List Role) (actor : ActorContext) (roleId : RoleId) :
    Except Failure Unit :=
  let isAdministrator := hasRaw actor.maxPermissions (permissions .administrator)
  match roles.find? (·.id == roleId) with
  | none =>
    failWith .onboardingInvalidOption
      ("unknown role " ++ toString roleId.value ++ " in question option")
  | some role =>
    let rolePerms := fromStoragePermissions role.permissions
    if role.isSystem then
      failWith .rolePrivilegeEscalation "cannot map a system role to an onboarding option"
    else if hasRaw rolePerms (permissions .administrator) then
      failWith .rolePrivilegeEscalation "cannot map an ADMINISTRATOR role to an onboarding option"
    else if isAdministrator = false ∧ actor.topPosition ≤ role.position then
      failWith .rolePrivilegeEscalation
        "cannot map a role at or above your own highest role position"
    else if isAdministrator = false ∧ Masks.without rolePerms actor.maxPermissions ≠ 0 then
      failWith .rolePrivilegeEscalation "cannot map a role granting permissions you do not hold"
    else .ok ()

def optionRoleIds (options : List QuestionOption) : List RoleId :=
  (options.filterMap (·.roleId)).eraseDups

/-- The roles that the options name, as far as the workspace has them. -/
def optionRoles (db : Database) (workspaceId : WorkspaceId) (roleIds : List RoleId) : List Role :=
  db.roles.findMany fun role => roleIds.contains role.id && role.workspaceId == workspaceId

/-- `assertOptionRolesGrantable`, for the role ids of the options and with both reads at once. -/
def assertOptionRolesGrantable (db : Database) (workspaceId : WorkspaceId) (actorUserId : UserId)
    (roleIds : List RoleId) : Except Failure Unit :=
  roleIds.forM (assertGrantable (optionRoles db workspaceId roleIds)
    (computeActorContext db workspaceId actorUserId))

/-- Write a question, under its author. -/
def writeQuestion (authoring : Authoring) : Except Failure OnboardingStore :=
  let request := authoring.request
  match authoring.target with
  | .create newId position =>
    let row : OnboardingQuestion :=
      { id := newId
        workspaceId := authoring.workspaceId
        position := position
        type := request.type
        isRequired := request.isRequired
        label := request.label
        options := request.options
        author := authoring.actorUserId }
    match store.questions.insert? row with
    | none => .error .uniqueViolation
    | some questions => .ok { store with questions := questions }
  | .update questionId =>
    match store.questions.findUnique questionId with
    | none => .error .recordNotFound
    | some _ =>
      .ok { store with
        questions := store.questions.update questionId
          (fun row => { row with
            type := request.type
            isRequired := request.isRequired
            label := request.label
            options := request.options
            author := authoring.actorUserId })
          fun _ => rfl }

def deleteQuestion (questionId : QuestionId) : Except Failure OnboardingStore :=
  match store.questions.findUnique questionId with
  | none => .error .recordNotFound
  | some _ =>
    .ok { store with questions := store.questions.deleteMany (·.id == questionId) }

end OnboardingService

open OnboardingService

/-- One statement or transaction of a call. -/
def OnboardingTask.resume (store : OnboardingStore) :
    OnboardingTask → OnboardingStore × List OnboardingTask
  | .acceptRules workspaceId userId now => conclude store (OnboardingService.acceptRules store workspaceId userId now)
  | .findMember call => (store, (OnboardingService.begin store call).toOption.join.toList)
  | .countRules call =>
    proceed store do
      failIf (!(store.rules call.workspaceId).rows.isEmpty) .rulesNotAccepted
        "규칙에 동의한 후 온보딩을 완료할 수 있습니다"
      .ok (.listQuestions call)
  | .listQuestions call =>
    proceed store do
      let choice ← choose (questionsOf store call.workspaceId) call.answers
      .ok (.findChannels call choice)
  | .findChannels call choice =>
    (store, [.findRoles call choice (validChannelIds store.db call.workspaceId choice.channelIds)])
  | .findRoles call choice channelIds =>
    (store, [.record call choice channelIds
      (validRoleIds store.db call.workspaceId (choice.roles.map Prod.fst))])
  | .record call choice channelIds roleIds =>
    conclude store (OnboardingService.record store call choice channelIds roleIds)
  | .assertAdmin workspaceId userId next =>
    proceed store do
      OnboardingService.assertAdmin store workspaceId userId
      .ok next
  | .countQuestions workspaceId actorUserId newId request =>
    let count := (store.questions.findMany (·.workspaceId == workspaceId)).length
    proceed store do
      failIf (decide (onboardingQuestionsMax ≤ count)) .onboardingQuestionsLimit
        ("최대 " ++ toString onboardingQuestionsMax ++ "개의 질문만 등록할 수 있습니다")
      .ok (.findOptionRoles ⟨workspaceId, actorUserId, .create newId count, request⟩)
  | .findQuestion workspaceId questionId next =>
    proceed store do
      failIf (!(store.questions.findUnique questionId).any (·.workspaceId == workspaceId))
        .onboardingQuestionNotFound "question not found"
      .ok next
  | .findOptionRoles authoring =>
    let roleIds := optionRoleIds authoring.request.options
    if roleIds = [] then (store, [.write authoring])
    else
      (store, [.findActorRoles authoring (optionRoles store.db authoring.workspaceId roleIds)])
  | .findActorRoles authoring roles =>
    let actor := computeActorContext store.db authoring.workspaceId authoring.actorUserId
    proceed store do
      (optionRoleIds authoring.request.options).forM (assertGrantable roles actor)
      .ok (.write authoring)
  | .write authoring => conclude store (writeQuestion store authoring)
  | .delete questionId => conclude store (deleteQuestion store questionId)

inductive OnboardingRequest where
  | acceptRules (workspaceId : WorkspaceId) (userId : UserId) (now : DateTime)
  | complete (call : CompleteCall)
  | createQuestion (workspaceId : WorkspaceId) (actorUserId : UserId) (newId : QuestionId)
      (request : UpsertQuestionRequest)
  | updateQuestion (workspaceId : WorkspaceId) (actorUserId : UserId) (questionId : QuestionId)
      (request : UpsertQuestionRequest)
  | deleteQuestion (workspaceId : WorkspaceId) (userId : UserId) (questionId : QuestionId)

def OnboardingRequest.starts : OnboardingRequest → OnboardingTask
  | acceptRules workspaceId userId now => .acceptRules workspaceId userId now
  | complete call => .findMember call
  | createQuestion workspaceId actorUserId newId request =>
    .assertAdmin workspaceId actorUserId (.countQuestions workspaceId actorUserId newId request)
  | updateQuestion workspaceId actorUserId questionId request =>
    .assertAdmin workspaceId actorUserId (.findQuestion workspaceId questionId
      (.findOptionRoles ⟨workspaceId, actorUserId, .update questionId, request⟩))
  | deleteQuestion workspaceId userId questionId =>
    .assertAdmin workspaceId userId (.findQuestion workspaceId questionId (.delete questionId))

/-- What comes from outside: requests of the onboarding, calls of the role services, and any other
change of the tables and rules, such as members who join or the write of a role edit whose checks
came before. -/
inductive OnboardingInput where
  | request (call : OnboardingRequest)
  | roles (workspaceId : WorkspaceId) (call : RoleCall)
  | outside (next : Database) (rules : WorkspaceId → WorkspaceRules)

/-- An id belongs to one role for ever: to a workspace, and to a system role or a custom one. -/
def KeepsIdentity (identity : RoleId → WorkspaceId × Bool) (db : Database) : Prop :=
  ∀ role ∈ db.roles.rows, identity role.id = (role.workspaceId, role.isSystem)

instance (identity : RoleId → WorkspaceId × Bool) (db : Database) :
    Decidable (KeepsIdentity identity db) :=
  inferInstanceAs (Decidable (∀ role ∈ db.roles.rows, _))

/-- Other tables; the columns and the history of a member go when it leaves. -/
def OnboardingStore.withTables (store : OnboardingStore) (next : Database)
    (rules : WorkspaceId → WorkspaceRules) : OnboardingStore :=
  let isMember := fun (workspaceId : WorkspaceId) (userId : UserId) =>
    (next.findMember workspaceId userId).isSome
  { store with
    db := next
    rules := rules
    progress := fun workspaceId userId =>
      if isMember workspaceId userId then store.progress workspaceId userId else {}
    completions := store.completions.filter fun member => isMember member.1 member.2
    grants := store.grants.filter fun row => isMember row.workspaceId row.userId }

/-- A change of the tables, unless it gave an id to another role. -/
def OnboardingStore.change (identity : RoleId → WorkspaceId × Bool) (store : OnboardingStore)
    (next : Database) (rules : WorkspaceId → WorkspaceRules) : OnboardingStore :=
  if KeepsIdentity identity next then store.withTables next rules else store

def OnboardingInput.accept (identity : RoleId → WorkspaceId × Bool) (store : OnboardingStore) :
    OnboardingInput → OnboardingStore × List OnboardingTask
  | request call => (store, [call.starts])
  | roles workspaceId call =>
    (store.change identity (call.after store.db workspaceId) store.rules, [])
  | outside next rules => (store.change identity next rules, [])

def onboardingLoop (identity : RoleId → WorkspaceId × Bool) :
    EventLoop OnboardingStore OnboardingTask OnboardingInput where
  resume := OnboardingTask.resume
  Accepts store input next spawned := (next, spawned) = input.accept identity store

def initialOnboarding : OnboardingStore where
  db := .withoutRoles .empty .empty .empty

end Bongtalk.Workspaces.Onboarding
