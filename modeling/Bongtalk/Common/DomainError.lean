import Bongtalk.Shared.Permissions

/-!
# Domain errors
-/

namespace Bongtalk.Common

open Shared

/-- The error codes the modelled services answer with. -/
inductive ErrorCode where
  | authInvalidToken
  | authInvalidCredentials
  | authSessionCompromised
  | authAccountLocked
  | accountDeactivated
  | accountNotDeactivated
  | passwordIncorrect
  | passwordResetTokenInvalid
  | passwordResetTokenExpired
  | sessionNotFound
  | encryptionUnavailable
  | totpInvalid
  | totpCodeRequired
  | totpAlreadyEnabled
  | totpNotEnabled
  | internal
  | workspaceNotFound
  | workspaceInsufficientRole
  | workspaceCannotDemoteOwner
  | workspaceCannotRemoveOwner
  | workspaceOwnerMustTransfer
  | moderationCannotSelf
  | moderationTargetHigher
  | memberAlreadyBanned
  | memberNotBanned
  | kickUndoInvalid
  | workspaceNotMember
  | workspaceTargetNotMember
  | workspaceAlreadyMember
  | workspaceNotPublic
  | workspaceApplyNotSupported
  | workspaceDomainNotAllowed
  | workspaceDefaultChannelNotPublic
  | emailNotVerified
  | inviteNotFound
  | inviteRevoked
  | inviteExpired
  | inviteExhausted
  | emailInviteTokenInvalid
  | emailInviteAlreadyAccepted
  | emailInviteExpired
  | emailInviteEmailMismatch
  | emailInviteRoleMismatch
  | applicationForbidden
  | applicationNotFound
  | applicationNotApplicable
  | applicationInvalidState
  | applicationPendingExists
  | applicationCooldown
  | onboardingRulesLimit
  | onboardingRuleNotFound
  | onboardingQuestionsLimit
  | onboardingQuestionNotFound
  | friendNotFound
  | friendTargetNotFound
  | friendCannotSelf
  | friendBlocked
  | friendAlready
  | friendRequestDuplicate
  | friendRequestBlocked
  | friendCapReached
  | friendInvalidState
  | dmPrivacyRestricted
  | dmGroupCapExceeded
  | categoryNotFound
  | categoryNameTaken
  | channelNotFound
  | channelNameTaken
  | channelArchived
  | channelConfirmRequired
  | channelPrivateInviteOnly
  | channelNotMember
  | channelOverrideNotFound
  | channelPositionInvalid
  | defaultChannelProtected
  | channelNotVisible
  | forbidden
  | notFound
  | roleNotFound
  | roleNameTaken
  | roleSystemImmutable
  | rolePrivilegeEscalation
  | rolePositionTooHigh
  | messageNotFound
  | messageVersionConflict
  | messageParentNotFound
  | messageThreadDepthExceeded
  | messageContentInvalid
  | messageCursorInvalid
  | messagePinCapExceeded
  | bulkDeleteLimit
  | savedLimitExceeded
  | savedNotFound
  | validationFailed
  | bulkMentionConfirmRequired
  | attachmentNotFound
  | attachmentCountExceeded
  | attachmentSessionNotFound
  | attachmentSessionExpired
  | attachmentNotUploaded
  | attachmentSizeMismatch
  | mimeMismatch
  | idempotencyKeyReuseConflict
  | channelSlowmodeActive
  | rateLimited
  | reactionLimitReached
  | customEmojiNotFound
  | memberTimedOut
  | rulesNotAccepted
  | onboardingInvalidOption
  | reportNotFound
  | reportAlreadyResolved
deriving DecidableEq, Repr

structure DomainError where
  code : ErrorCode
  message : String
deriving DecidableEq, Repr

/-- What a service call throws. -/
inductive Failure where
  | domain (error : DomainError)
  | range (error : RangeError)
  /-- An unmapped unique violation of the database (`P2002`). -/
  | uniqueViolation
  /-- A foreign key violation of the database (`P2003`). -/
  | foreignKeyViolation
  /-- An update of one row that is not there (`P2025`). -/
  | recordNotFound
  /-- A raw query the database refused (`P2010`). -/
  | rawQueryFailed
  /-- A value that its column cannot hold (`P2020`). -/
  | valueOutOfRange
  /-- A statement after one that failed in the same transaction. -/
  | transactionAborted
  /-- An argument that the database client refuses (`PrismaClientValidationError`). -/
  | invalidArgument
deriving DecidableEq, Repr

/-- Throw a domain error. -/
def failWith {α : Type} (code : ErrorCode) (message : String) : Except Failure α :=
  .error (.domain ⟨code, message⟩)

/-- Throw a domain error under a condition. -/
def failIf (condition : Bool) (code : ErrorCode) (message : String) : Except Failure Unit :=
  if condition then failWith code message else .ok ()

variable {ε α β : Type} {rest : α → Except ε β}

/-- A sequence of steps succeeds when each of them does. -/
theorem bind_eq_ok {first : Except ε α} {result : β} :
    (first >>= rest) = .ok result ↔ ∃ value, first = .ok value ∧ rest value = .ok result := by
  cases first with
  | error error => exact ⟨nofun, fun ⟨_, failed, _⟩ => (nomatch failed)⟩
  | ok value => exact ⟨fun ok => ⟨value, rfl, ok⟩, fun ⟨_, same, ok⟩ => Except.ok.inj same ▸ ok⟩

/-- A sequence of steps fails when one of them does. -/
theorem bind_eq_error {first : Except ε α} {error : ε} :
    (first >>= rest) = .error error ↔
      first = .error error ∨ ∃ value, first = .ok value ∧ rest value = .error error := by
  cases first with
  | error other =>
    constructor
    · exact fun failed => .inl (congrArg Except.error (Except.error.inj failed))
    · rintro (failed | ⟨value, impossible, -⟩)
      · exact congrArg Except.error (Except.error.inj failed)
      · cases impossible
  | ok value =>
    constructor
    · exact fun failed => .inr ⟨value, rfl, failed⟩
    · rintro (impossible | ⟨_, same, failed⟩)
      · cases impossible
      · cases same
        exact failed

/-- What comes after a check is done when the check passes. -/
theorem check_bind_eq_ok {ε β : Type} {check : Except ε Unit} {rest : Unit → Except ε β}
    {result : β} :
    (check >>= rest) = .ok result ↔ check = .ok () ∧ rest () = .ok result := by
  rw [bind_eq_ok]
  constructor
  · rintro ⟨⟨⟩, passed, done⟩
    exact ⟨passed, done⟩
  · rintro ⟨passed, done⟩
    exact ⟨(), passed, done⟩

theorem map_eq_ok {answer : Except ε α} {change : α → β} {result : β}
    (ok : answer.map change = .ok result) :
    ∃ value, answer = .ok value ∧ change value = result := by
  cases answer with
  | error failure => cases ok
  | ok value => exact ⟨value, rfl, Except.ok.inj ok⟩

theorem ok_bind {value : α} : (Except.ok value >>= rest) = rest value :=
  rfl

/-- A computation with a good outcome succeeds with it. -/
theorem exists_ok {ε α : Type} {answer : Except ε α} {good : α → Bool}
    (found : answer.toOption.any good = true) : ∃ value, answer = .ok value ∧ good value = true := by
  cases answer with
  | error failure => cases found
  | ok value => exact ⟨value, rfl, found⟩

theorem failWith_ne_ok {α : Type} {code : ErrorCode} {message : String} {result : α} :
    failWith code message ≠ .ok result :=
  nofun

theorem failIf_eq_ok {condition : Bool} {code : ErrorCode} {message : String} {result : Unit} :
    failIf condition code message = .ok result ↔ condition = false := by
  cases condition with
  | false => simp [failIf]
  | true => simp [failIf, failWith_ne_ok]

end Bongtalk.Common
