import Bongtalk.Shared.Text

/-!
# Rich text

The syntax tree of a message and what its schema accepts. The types carry the shape of the
nodes; the schema adds the bounds.
-/

namespace Bongtalk.Shared

inductive TextMark where
  | bold
  | italic
  | underline
  | strike
  | code
  | spoiler
deriving DecidableEq, Repr

inductive InlineNode where
  | text (text : List Char) (marks : List TextMark)
  | mentionUser (userId : List Char) (label : Option (List Char))
  | mentionChannel (channelId : List Char) (label : Option (List Char))
  | mentionRole (roleId : List Char) (label : Option (List Char))
  | emoji (name : List Char) (customId : Option (List Char))
  | link (url : List Char) (text : Option (List Char))
deriving DecidableEq, Repr

/-- A block, or an inline node among blocks. The items of a list are lists of nodes. -/
inductive RichTextNode where
  | paragraph (nodes : List InlineNode)
  | heading (level : Nat) (nodes : List InlineNode)
  | blockquote (nodes : List RichTextNode)
  | codeBlock (code : List Char) (lang : Option (List Char))
  | list (ordered : Bool) (indent : Int) (items : List (List RichTextNode))
  | subtext (nodes : List InlineNode)
  | divider
  | inline (node : InlineNode)
deriving Repr

open RichTextNode

structure RichTextRoot where
  nodes : List RichTextNode
deriving Repr

/-- The limits of `MRKDWN_PARSE_LIMITS` that the tree has to keep. -/
def maxDepth : Nat := 10

def maxNodes : Nat := 500

/-- The class `[a-z0-9]`. -/
def isCuidChar (char : Char) : Bool :=
  char.isLower || char.isDigit

/-- `CUID2_RE`. -/
def isCuid2 (text : List Char) : Bool :=
  decide (20 ≤ text.length) && text.all isCuidChar

/-- The class `[0-9a-f]`. -/
def isHexChar (char : Char) : Bool :=
  char.isDigit || (decide ('a' ≤ char) && decide (char ≤ 'f'))

/-- Groups of 8, 4, 4, 4 and 12 digits with hyphens between them. -/
def hasUuidShape (isDigit : Char → Bool) (text : List Char) : Bool :=
  text.length == 36 && text.zipIdx.all fun (char, index) =>
    if index ∈ [8, 13, 18, 23] then char == '-' else isDigit char

/-- `z.string().uuid()`, which also takes capitals. -/
def isUuid (text : List Char) : Bool :=
  hasUuidShape (fun char => isHexChar char.toLower) text

/-- `MentionIdSchema`. -/
def isMentionId (text : List Char) : Bool :=
  isUuid text || isCuid2 text

/-- The class `[a-z0-9+.-]` with `i`. -/
def isSchemeChar (char : Char) : Bool :=
  char.isAlphanum || char == '+' || char == '.' || char == '-'

/-- `ACTIVE_SCHEME_RE.test`. -/
def hasScheme : List Char → Bool
  | [] => false
  | char :: rest => char.isAlpha && (rest.dropWhile isSchemeChar).head? == some ':'

/-- `SAFE_SCHEME_RE.test`. -/
def hasSafeScheme (text : List Char) : Bool :=
  let lower := text.map Char.toLower
  "http:".toList.isPrefixOf lower || "https:".toList.isPrefixOf lower

def isSafeLinkUrl (url : List Char) : Bool :=
  let trimmed := trim url
  if trimmed = [] then false
  else if hasScheme trimmed then hasSafeScheme trimmed
  else true

/-- The schema of a `label`. -/
def isLabel (label : Option (List Char)) : Bool :=
  label.all fun name => decide (1 ≤ utf16Length name) && decide (utf16Length name ≤ 100)

/-- `InlineNodeSchema`. -/
def InlineNode.accepted : InlineNode → Bool
  | .text _ _ => true
  | .mentionUser id label | .mentionChannel id label | .mentionRole id label =>
    isMentionId id && isLabel label
  | .emoji name customId =>
    decide (1 ≤ utf16Length name) && decide (utf16Length name ≤ 64) && customId.all isMentionId
  | .link url _ => isSafeLinkUrl url

mutual

/-- `RichTextNodeSchema`. -/
def RichTextNode.accepted : RichTextNode → Bool
  | .paragraph nodes | .subtext nodes => nodes.all InlineNode.accepted
  | .heading level nodes => [1, 2, 3].contains level && nodes.all InlineNode.accepted
  | .blockquote nodes => allAccepted nodes
  | .codeBlock _ lang => lang.all fun name => decide (utf16Length name ≤ 32)
  | .list _ indent items =>
    decide (0 ≤ indent) && decide (indent ≤ 3) && itemsAccepted items
  | .divider => true
  | .inline node => node.accepted

def RichTextNode.allAccepted : List RichTextNode → Bool
  | [] => true
  | node :: rest => node.accepted && allAccepted rest

def RichTextNode.itemsAccepted : List (List RichTextNode) → Bool
  | [] => true
  | nodes :: rest => allAccepted nodes && itemsAccepted rest

end

/-- The number of nodes of a tree, and its depth. -/
structure Measure where
  count : Nat
  depth : Nat
deriving DecidableEq, Repr

/-- The counts of siblings add up. -/
def Measure.beside (first second : Measure) : Measure :=
  { count := first.count + second.count, depth := max first.depth second.depth }

/-- A node above its children. -/
def Measure.above (children : Measure) : Measure :=
  { count := children.count + 1, depth := children.depth + 1 }

def Measure.nothing : Measure :=
  { count := 0, depth := 0 }

/-- Inline nodes have no children. -/
def measureInline (nodes : List InlineNode) : Measure :=
  { count := nodes.length, depth := if nodes = [] then 0 else 1 }

mutual

/-- `measureTree`. -/
def RichTextNode.measure : RichTextNode → Measure
  | .paragraph nodes | .heading _ nodes | .subtext nodes => (measureInline nodes).above
  | .blockquote nodes => (measureAll nodes).above
  | .codeBlock _ _ | .divider | .inline _ => Measure.nothing.above
  | .list _ _ items => (measureItems items).above

def RichTextNode.measureAll : List RichTextNode → Measure
  | [] => .nothing
  | node :: rest => node.measure.beside (measureAll rest)

def RichTextNode.measureItems : List (List RichTextNode) → Measure
  | [] => .nothing
  | nodes :: rest => (measureAll nodes).beside (measureItems rest)

end

/-- `measureTree` of the root. -/
def RichTextRoot.measure (root : RichTextRoot) : Measure :=
  (measureAll root.nodes).above

/-- `RichTextRootSchema`. -/
def RichTextRoot.accepted (root : RichTextRoot) : Bool :=
  allAccepted root.nodes && decide (root.measure.depth ≤ maxDepth) &&
    decide (root.measure.count ≤ maxNodes)

end Bongtalk.Shared
