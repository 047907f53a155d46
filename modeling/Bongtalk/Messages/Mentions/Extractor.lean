import Bongtalk.Messages.Mentions.RoleScanner
import Bongtalk.Messages.Message
import Bongtalk.Prisma.Notifications

/-!
# Extraction of mentions

User, channel and scope mentions are read off the text of a message and resolved in the
workspace of the channel. Unknown handles are dropped.
-/

namespace Bongtalk.Messages.Mentions

open Library Prisma Shared

/-- The class `[A-Za-z0-9_.-]`. -/
def isHandleChar (char : Char) : Bool :=
  isWordChar char || char == '.' || char == '-'

/-- The class `[a-z0-9]`. -/
def isChannelStart (char : Char) : Bool :=
  char.isLower || char.isDigit

/-- The class `[a-z0-9_-]`. -/
def isChannelChar (char : Char) : Bool :=
  isChannelStart char || char == '_' || char == '-'

/-- The group of `MENTION_USER_RE` after its sigil. -/
def matchHandle (text : List Char) : Option (List Char) :=
  let handle := (text.takeWhile isHandleChar).take 32
  if 2 ≤ handle.length then some handle else none

/-- The group of `MENTION_CHANNEL_RE` after its sigil. -/
def matchChannel : List Char → Option (List Char)
  | [] => none
  | char :: rest =>
    if isChannelStart char then some (char :: (rest.takeWhile isChannelChar).take 31) else none

/-- The matches of a sigil, not after a word character, and its group; a match is consumed. -/
def tokensFrom (sigil : Char) (group : List Char → Option (List Char)) (skip : Nat)
    (afterWord : Bool) : List Char → List (List Char)
  | [] => []
  | char :: rest =>
    match skip with
    | skip + 1 => tokensFrom sigil group skip (isWordChar char) rest
    | 0 =>
      if char = sigil ∧ afterWord = false then
        match group rest with
        | some token => token :: tokensFrom sigil group token.length false rest
        | none => tokensFrom sigil group 0 false rest
      else tokensFrom sigil group 0 (isWordChar char) rest

/-- Whether a token stands in a text as a word of its own. -/
def hasToken (token : List Char) (afterWord : Bool) : List Char → Bool
  | [] => false
  | char :: rest =>
    (!afterWord && token.isPrefixOf (char :: rest) &&
      !((char :: rest).drop token.length).head?.any isWordChar) ||
      hasToken token (isWordChar char) rest

/-- `MENTION_EVERYONE_RE.test`. -/
def hasEveryone (text : List Char) : Bool :=
  hasToken "@everyone".toList false text

/-- `MENTION_HERE_RE.test`. -/
def hasHere (text : List Char) : Bool :=
  hasToken "@here".toList false text

/-- `MENTION_CHANNEL_SCOPE_RE.test`. -/
def hasChannelScope (text : List Char) : Bool :=
  hasToken "@channel".toList false text

/-- The names of the scope mentions, `RESERVED_MENTION_NAMES`. -/
def reservedMentionNames : List (List Char) :=
  ["everyone".toList, "here".toList, "channel".toList]

/-- The handles a text names, without the scope mentions. -/
def mentionedUsernames (text : List Char) : List (List Char) :=
  (tokensFrom '@' matchHandle 0 false text).filter fun handle =>
    !reservedMentionNames.contains (handle.map Char.toLower)

def mentionedChannelNames (text : List Char) : List (List Char) :=
  tokensFrom '#' matchChannel 0 false text

/-- `memberships: { some: { workspaceId } }`. -/
def hasMembership (db : Database) (workspaceId : WorkspaceId) (userId : UserId) : Bool :=
  (db.findMember workspaceId userId).isSome

/-- `extractMentions`; a direct message has no names to resolve. -/
def extractMentions (db : Database) (tables : NotificationTables)
    (workspaceId : Option WorkspaceId) (text : List Char) : Mentions :=
  match workspaceId with
  | none => {}
  | some workspaceId =>
    let users := tables.users.findMany fun row =>
      (mentionedUsernames text).contains row.username.toList && hasMembership db workspaceId row.id
    let channels := db.channels.findMany fun row =>
      row.workspaceId == some workspaceId && row.deletedAt == none &&
        (mentionedChannelNames text).contains row.name.toList
    { users := users.map (·.id)
      channels := channels.map (·.id)
      everyone := hasEveryone text
      here := hasHere text
      channel := hasChannelScope text }

/-- A role a text mentions. -/
structure ExtractedRoleMention where
  id : RoleId
  name : String
  mentionable : Bool
deriving DecidableEq, Repr

/-- `extractRoleMentions`: the roles of the workspace the text names, each once. -/
def extractRoleMentions (toLowerCase : List Char → List Char) (db : Database)
    (workspaceId : Option WorkspaceId) (text : List Char) : List ExtractedRoleMention :=
  match workspaceId with
  | none => []
  | some workspaceId =>
    let roles := db.roles.findMany fun row => row.workspaceId == workspaceId
    let candidates := roles.filter fun row =>
      let trimmed := trim row.name.toList
      !trimmed.isEmpty && !reservedMentionNames.contains (toLowerCase trimmed)
    let matches_ := scanRoleMentions toLowerCase text
      (candidates.map fun row => ⟨row.name, (⟨row.id, row.name, row.mentionable⟩)⟩)
    (matches_.map (·.value)).eraseDups

section Resolution

variable {db : Database} {tables : NotificationTables} {workspaceId : WorkspaceId}
variable {text : List Char}

/-- The users a text mentions are the members of the workspace whose username it names. -/
theorem mem_users_extractMentions {userId : UserId} :
    userId ∈ (extractMentions db tables (some workspaceId) text).users ↔
      ∃ user ∈ tables.users, user.id = userId ∧
        user.username.toList ∈ mentionedUsernames text ∧
          ∃ member, db.findMember workspaceId userId = some member := by
  simp only [extractMentions, List.mem_map, Table.mem_findMany, Bool.and_eq_true,
    List.contains_eq_mem, decide_eq_true_eq, hasMembership, Option.isSome_iff_exists]
  constructor
  · rintro ⟨user, ⟨present, named, isMember⟩, rfl⟩
    exact ⟨user, present, rfl, named, isMember⟩
  · rintro ⟨user, present, rfl, named, isMember⟩
    exact ⟨user, ⟨present, named, isMember⟩, rfl⟩

end Resolution

end Bongtalk.Messages.Mentions
