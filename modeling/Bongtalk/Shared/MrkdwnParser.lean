import Bongtalk.Library.Counting
import Bongtalk.Shared.RichText

/-!
# The parser of messages

From the text of a message to its syntax tree: blocks line by line, and in them inline nodes
in one pass. The code in fences and in backticks is taken as it is.
-/

namespace Bongtalk.Shared

open Library RichTextNode

inductive MrkdwnParseErrorCode where
  | parseDepthExceeded
  | parseNodeLimit
deriving DecidableEq, Repr

/-- `MrkdwnParseError`. -/
structure MrkdwnParseError where
  code : MrkdwnParseErrorCode
  message : String
deriving DecidableEq, Repr

/-- The names a caller gives to the ids of mentions. -/
structure MentionLabelResolvers where
  user : List Char → Option (List Char) := fun _ => none
  channel : List Char → Option (List Char) := fun _ => none
  role : List Char → Option (List Char) := fun _ => none

/-- The count is `state.nodeCount`. -/
abbrev Scan := Counting MrkdwnParseError

def bumpNode : Scan Unit :=
  Counting.bump maxNodes ⟨.parseNodeLimit, s!"AST node count exceeds {maxNodes}"⟩

/-- A name without the blanks around it, unless nothing is left. -/
def resolveLabel (resolver : List Char → Option (List Char)) (id : List Char) :
    Option (List Char) :=
  ((resolver id).map trim).filter (· ≠ [])

/-- The group `(uuid|[a-z0-9]{20,})` of a mention, before a closing sign. -/
def matchMentionId (closing : Char) (text : List Char) : Option (List Char) :=
  let uuid := text.take 36
  let cuid := text.takeWhile isCuidChar
  if hasUuidShape isHexChar uuid && (text.drop 36).head? == some closing then some uuid
  else if decide (20 ≤ cuid.length) && (text.drop cuid.length).head? == some closing then some cuid
  else none

/-- A mention with its sigil at the start of a text: the id, and the length of the token. -/
def matchMention (sigil : List Char) (closing : Char) (text : List Char) :
    Option (List Char × Nat) :=
  if sigil.isPrefixOf text then
    (matchMentionId closing (text.drop sigil.length)).map fun id =>
      (id, sigil.length + id.length + 1)
  else none

/-- `MENTION_USER_RE`. -/
def matchMentionUser : List Char → Option (List Char × Nat) :=
  matchMention "@\x7b".toList '\x7d'

/-- `MENTION_CHANNEL_RE`. -/
def matchMentionChannel : List Char → Option (List Char × Nat) :=
  matchMention "<#".toList '>'

/-- `MENTION_ROLE_RE`. -/
def matchMentionRole : List Char → Option (List Char × Nat) :=
  matchMention "<@&".toList '>'

/-- The class `[^()\s]`. -/
def isLinkChar (char : Char) : Bool :=
  !(char == '(' || char == ')' || isWhitespace char)

/-- `MD_LINK_RE` at the start of a text: the label, the address, and the length. -/
def matchMdLink : List Char → Option (List Char × List Char × Nat)
  | '[' :: rest =>
    let label := rest.takeWhile fun char => char != ']' && char != '\n'
    match rest.drop label.length with
    | ']' :: '(' :: after =>
      let url := after.takeWhile isLinkChar
      if url ≠ [] ∧ (after.drop url.length).head? = some ')' then
        some (label, url, label.length + url.length + 4)
      else none
    | _ => none
  | _ => none

/-- The class `[^\s<>]`. -/
def isUrlChar (char : Char) : Bool :=
  !(isWhitespace char || char == '<' || char == '>')

/-- The signs an address does not end with; 27 is the apostrophe. -/
def isUrlTrailing (char : Char) : Bool :=
  ['.', ',', ';', ':', '!', '?', Char.ofNat 0x27, '"', '(', ')', ']'].contains char

/-- `URL_RE` at the start of a text. -/
def matchUrl (text : List Char) : Option (List Char) :=
  (["https://".toList, "http://".toList].find? (·.isPrefixOf text)).bind fun scheme =>
    let run := (text.drop scheme.length).takeWhile isUrlChar
    let path := (run.reverse.dropWhile isUrlTrailing).reverse
    if 2 ≤ utf16Length path then some (scheme ++ path) else none

structure InlineMarker where
  opening : List Char
  mark : TextMark
deriving DecidableEq, Repr

/-- `INLINE_MARKERS`. -/
def inlineMarkers : List InlineMarker :=
  [⟨"~~".toList, .strike⟩, ⟨"||".toList, .spoiler⟩, ⟨"**".toList, .bold⟩, ⟨"*".toList, .bold⟩,
    ⟨"_".toList, .italic⟩, ⟨"`".toList, .code⟩]

def matchMarker (text : List Char) : Option InlineMarker :=
  inlineMarkers.find? (·.opening.isPrefixOf text)

/-- What stands before the closing marker on the same line. -/
def findClose (opening : List Char) : List Char → Option (List Char)
  | [] => none
  | char :: rest =>
    if char = '\n' then none
    else if opening.isPrefixOf (char :: rest) then some []
    else (findClose opening rest).map (char :: ·)

/-- What a position of a text may start. -/
inductive Token where
  | node (node : InlineNode) (length : Nat)
  /-- A link whose scheme is not safe, which stays text. -/
  | literal (length : Nat)
  | span (marker : InlineMarker) (inner : List Char)
deriving DecidableEq, Repr

/-- The link of an address that has a safe scheme. -/
def linkToken (label url : List Char) (length : Nat) : Token :=
  if isSafeLinkUrl url then .node (.link url (if label = [] then none else some label)) length
  else .literal length

/-- The token at the start of a text. -/
def nextToken (labels : MentionLabelResolvers) (text : List Char) : Option Token :=
  match matchMentionUser text with
  | some (id, length) => some (.node (.mentionUser id (resolveLabel labels.user id)) length)
  | none =>
  match matchMentionChannel text with
  | some (id, length) => some (.node (.mentionChannel id (resolveLabel labels.channel id)) length)
  | none =>
  match matchMentionRole text with
  | some (id, length) => some (.node (.mentionRole id (resolveLabel labels.role id)) length)
  | none =>
  match matchMdLink text with
  | some (label, url, length) => some (linkToken label url length)
  | none =>
  match matchUrl text with
  | some url => some (.node (.link url none) url.length)
  | none =>
  match matchMarker text with
  | some marker => (findClose marker.opening (text.drop marker.opening.length)).map (.span marker)
  | none => none

section Inline

variable (labels : MentionLabelResolvers)

/-- The text read so far becomes a node, unless it is empty. -/
def flush (marks : List TextMark) (buf : List Char) : Scan (List InlineNode) :=
  if buf = [] then pure []
  else do
    bumpNode
    pure [.text buf marks]

/-- What stands between two markers: code is taken as it is. -/
def spanNodes (nested : List TextMark → List Char → Scan (List InlineNode))
    (marks : List TextMark) (mark : TextMark) (inner : List Char) : Scan (List InlineNode) :=
  if mark = .code then do
    bumpNode
    pure [.text inner (marks ++ [.code])]
  else nested (marks ++ [mark]) inner

/-- The loop of `parseInlineRun`, past the characters that a token has taken; `nested` parses
what stands between markers. -/
def scanRun (nested : List TextMark → List Char → Scan (List InlineNode))
    (marks : List TextMark) : Nat → List Char → List Char → Scan (List InlineNode)
  | _, buf, [] => flush marks buf
  | skip + 1, buf, _ :: rest => scanRun nested marks skip buf rest
  | 0, buf, char :: rest =>
    match nextToken labels (char :: rest) with
    | none => scanRun nested marks 0 (buf ++ [char]) rest
    | some (.literal length) =>
      scanRun nested marks (length - 1) (buf ++ (char :: rest).take length) rest
    | some (.node node length) => do
      let before ← flush marks buf
      bumpNode
      let after ← scanRun nested marks (length - 1) [] rest
      pure (before ++ node :: after)
    | some (.span marker inner) => do
      let before ← flush marks buf
      let inside ← spanNodes nested marks marker.mark inner
      let after ← scanRun nested marks (2 * marker.opening.length + inner.length - 1) [] rest
      pure (before ++ inside ++ after)

/-- `parseInlineRun`, with the number of levels that markers may still nest. -/
def parseInlineRun : Nat → List TextMark → List Char → Scan (List InlineNode)
  | 0, _, _ => throw ⟨.parseDepthExceeded, s!"inline nesting exceeds {maxDepth}"⟩
  | levels + 1, marks, text => scanRun labels (parseInlineRun levels) marks 0 [] text

/-- The markers a text starts with, and what follows them. -/
def leadingMarkers : Nat → List Char → Nat × List Char
  | _, [] => (0, [])
  | skip + 1, _ :: rest => leadingMarkers skip rest
  | 0, char :: rest =>
    match matchMarker (char :: rest) with
    | none => (0, char :: rest)
    | some marker =>
      let further := leadingMarkers (marker.opening.length - 1) rest
      (further.1 + 1, further.2)

/-- `enforceInlineMarkerDepth`. The markers read the same in both directions. -/
def enforceInlineMarkerDepth (text : List Char) : Scan Unit :=
  let lead := leadingMarkers 0 text
  let trail := leadingMarkers 0 lead.2.reverse
  let depth := min lead.1 trail.1
  if maxDepth < depth then
    throw ⟨.parseDepthExceeded, s!"inline nesting depth {depth} exceeds {maxDepth}"⟩
  else pure ()

def parseInline (text : List Char) : Scan (List InlineNode) := do
  enforceInlineMarkerDepth text
  parseInlineRun labels (maxDepth + 1) [] text

end Inline

/-- The class of `.`. -/
def isLineChar (char : Char) : Bool :=
  !(char == '\n' || char == '\r' || char.toNat == 0x2028 || char.toNat == 0x2029)

/-- The class `[a-zA-Z0-9_+-]`. -/
def isLangChar (char : Char) : Bool :=
  isWordChar char || char == '+' || char == '-'

/-- `FENCE_RE`, which opens a fence: its language. -/
def matchFence (line : List Char) : Option (List Char) :=
  let after := line.drop 3
  let lang := after.takeWhile isLangChar
  if "```".toList.isPrefixOf line && (after.drop lang.length).all isWhitespace then some lang
  else none

/-- The line closes a fence. -/
def closesFence (line : List Char) : Bool :=
  "```".toList.isPrefixOf line && (line.drop 3).all isWhitespace

/-- `HEADING_RE`: the level and the text. When nothing follows the blanks, the last one of several
is the text. -/
def matchHeading (line : List Char) : Option (Nat × List Char) :=
  let level := (line.takeWhile (· == '#')).length
  let blanks := (line.drop level).takeWhile fun char => char == ' ' || char == '\t'
  let after := line.drop (level + blanks.length)
  let text := if after = [] then blanks.tail.getLast?.toList else after
  if [1, 2, 3].contains level && blanks ≠ [] && text ≠ [] && text.all isLineChar then
    some (level, text)
  else none

/-- The text of a list item after its bullet. -/
def matchItem (after : List Char) : Option (List Char) :=
  let blanks := after.takeWhile isWhitespace
  let text := after.drop blanks.length
  if blanks ≠ [] ∧ text.all isLineChar then some text else none

/-- `ORDERED_RE`. -/
def matchOrdered (line : List Char) : Option (List Char) :=
  let digits := line.takeWhile Char.isDigit
  if 1 ≤ digits.length ∧ digits.length ≤ 9 ∧ (line.drop digits.length).head? = some '.' then
    matchItem (line.drop (digits.length + 1))
  else none

/-- `UNORDERED_RE`. -/
def matchUnordered : List Char → Option (List Char)
  | bullet :: after => if bullet = '-' ∨ bullet = '*' then matchItem after else none
  | [] => none

/-- `QUOTE_RE`. -/
def matchQuote : List Char → Option (List Char)
  | '>' :: after =>
    let text := if after.head?.any isWhitespace then after.tail else after
    if text.all isLineChar then some text else none
  | _ => none

def matchListItem (ordered : Bool) (line : List Char) : Option (List Char) :=
  if ordered then matchOrdered line else matchUnordered line

/-- The line starts no other block. -/
def isParagraphLine (line : List Char) : Bool :=
  (matchFence line).isNone && (matchHeading line).isNone && (matchQuote line).isNone &&
    (matchOrdered line).isNone && (matchUnordered line).isNone

/-- The texts of the lines in front that match. -/
def matchedLines (pattern : List Char → Option (List Char)) (lines : List (List Char)) :
    List (List Char) :=
  (lines.takeWhile fun line => (pattern line).isSome).filterMap pattern

/-- `lines.join('\n')`. -/
def joinLines (lines : List (List Char)) : List Char :=
  ['\n'].intercalate lines

section Blocks

variable (labels : MentionLabelResolvers)

/-- The block that starts with a line, if it is not empty, and the number of its lines. -/
def parseBlock (line : List Char) (rest : List (List Char)) : Scan (Option RichTextNode × Nat) :=
  match matchFence line with
  | some lang =>
    let body := rest.takeWhile (!closesFence ·)
    -- The closing line belongs to the block, when there is one.
    let closing := if body.length < rest.length then 1 else 0
    pure (some (.codeBlock (joinLines body) (if lang = [] then none else some lang)),
      1 + body.length + closing)
  | none =>
  match matchHeading line with
  | some (level, text) => do
    let nodes ← parseInline labels text
    pure (some (.heading level nodes), 1)
  | none =>
  if (matchQuote line).isSome then do
    let inner := matchedLines matchQuote (line :: rest)
    let nodes ← parseInline labels (joinLines inner)
    pure (some (.blockquote (nodes.map .inline)), inner.length)
  else if (matchOrdered line).isSome || (matchUnordered line).isSome then do
    let ordered := (matchOrdered line).isSome
    let texts := matchedLines (matchListItem ordered) (line :: rest)
    let items ← texts.mapM fun text => do
      bumpNode
      parseInline labels text
    pure (some (.list ordered 0 (items.map fun nodes => nodes.map .inline)), texts.length)
  else do
    let para := (line :: rest).takeWhile isParagraphLine
    let joined := joinLines para
    -- Blank lines make no node.
    if trim joined = [] then pure (none, para.length)
    else do
      let nodes ← parseInline labels joined
      pure (some (.paragraph nodes), para.length)

/-- `parseBlocks`, past the lines that a block has taken. -/
def parseBlocks : Nat → List (List Char) → Scan (List RichTextNode)
  | _, [] => pure []
  | skip + 1, _ :: rest => parseBlocks skip rest
  | 0, line :: rest => do
    bumpNode
    let block ← parseBlock labels line rest
    let blocks ← parseBlocks (block.2 - 1) rest
    pure (block.1.toList ++ blocks)

end Blocks

/-- The part of `astToPlain` for inline nodes. -/
def InlineNode.plain : InlineNode → List Char
  | .text content _ => content
  | .mentionUser _ _ | .mentionChannel _ _ | .mentionRole _ _ => []
  | .emoji name _ => ':' :: name ++ [':']
  | .link url label => label.getD url

mutual

/-- `astToPlain`. -/
def RichTextNode.plain : RichTextNode → List Char
  | .paragraph nodes | .heading _ nodes | .subtext nodes => nodes.flatMap InlineNode.plain
  | .blockquote nodes => allPlain nodes
  | .codeBlock code _ => code
  | .list _ _ items => [' '].intercalate (itemsPlain items)
  | .divider => []
  | .inline node => node.plain

def RichTextNode.allPlain : List RichTextNode → List Char
  | [] => []
  | node :: rest => node.plain ++ allPlain rest

def RichTextNode.itemsPlain : List (List RichTextNode) → List (List Char)
  | [] => []
  | nodes :: rest => allPlain nodes :: itemsPlain rest

end

/-- `collapsePlain`. -/
def collapsePlain (text : List Char) : List Char :=
  unwords (words text)

structure ParsedMrkdwn where
  ast : RichTextRoot
  plain : List Char
deriving Repr

/-- `parseMrkdwn`; the root is the first node that counts. -/
def parseMrkdwn (raw : List Char) (labels : MentionLabelResolvers := {}) :
    Except MrkdwnParseError ParsedMrkdwn :=
  (parseBlocks labels 0 (raw.splitOn '\n') 1).map fun scanned =>
    { ast := ⟨scanned.1⟩, plain := collapsePlain (allPlain scanned.1) }

end Bongtalk.Shared
