import Bongtalk.Shared.Text
import Mathlib.Data.List.Sort

/-!
# Role mentions in a text

Role names may hold blanks, so they are matched against the known names. One pass from left to
right takes the longest name at each `@` and consumes it, and skips code.
-/

namespace Bongtalk.Messages.Mentions

open Shared

/-- The character around inline code and fences. -/
def backtick : Char :=
  Char.ofNat 96

def isFence (text : List Char) : Bool :=
  [backtick, backtick, backtick].isPrefixOf text

/-- Where a position is with respect to code. -/
inductive CodeMode where
  | text
  /-- In an inline span with so many characters left. -/
  | span (left : Nat)
  /-- On the line that opens a fenced block, and on the lines below it. -/
  | fenceOpen
  | fenceBody
  /-- On the line that closes the block. -/
  | fenceClose
deriving DecidableEq, Repr

/-- The length of the inline span that the text after a backtick closes on the same line. -/
def spanLength : List Char → Option Nat
  | [] => none
  | char :: rest =>
    if char = backtick then some 1
    else if char = '\n' then none
    else (spanLength rest).map (· + 1)

/-- How a position is read, given the mode of the characters before it. -/
def CodeMode.enter (mode : CodeMode) (atLineStart : Bool) (text : List Char) : CodeMode :=
  match mode with
  | .text | .span 0 =>
    if atLineStart && isFence text then .fenceOpen
    else if text.head? = some backtick then
      match spanLength text.tail with
      | some left => .span (left + 1)
      | none => .text
    else .text
  | .fenceBody => if atLineStart && isFence text then .fenceClose else .fenceBody
  | mode => mode

/-- The mode after a character. -/
def CodeMode.leave (char : Char) : CodeMode → CodeMode
  | .text => .text
  | .span left => .span (left - 1)
  | .fenceOpen => if char = '\n' then .fenceBody else .fenceOpen
  | .fenceBody => .fenceBody
  | .fenceClose => if char = '\n' then .text else .fenceClose

/-- Mark the characters inside of code, as `collectCodeSpans` spans them. -/
def markCode (mode : CodeMode) (atLineStart : Bool) : List Char → List (Char × Bool)
  | [] => []
  | char :: rest =>
    let mode := mode.enter atLineStart (char :: rest)
    (char, mode != .text) :: markCode (mode.leave char) (char == '\n') rest

theorem map_fst_markCode {mode : CodeMode} {atLineStart : Bool} {text : List Char} :
    (markCode mode atLineStart text).map Prod.fst = text := by
  induction text generalizing mode atLineStart with
  | nil => rfl
  | cons char rest ih => exact congrArg (char :: ·) ih

/-- A candidate role name with the value a match returns. -/
structure RoleMentionCandidate (α : Type) where
  name : String
  value : α

structure RoleMentionMatch (α : Type) where
  start : Nat
  stop : Nat
  value : α

section Scan

variable {α : Type} (toLowerCase : List Char → List Char)

/-- The names by decreasing length, blank names left out. -/
def sortCandidates (candidates : List (RoleMentionCandidate α)) : List (List Char × α) :=
  let named := (candidates.map fun candidate =>
    (trim candidate.name.toList, candidate.value)).filter fun candidate => !candidate.1.isEmpty
  named.insertionSort fun first second => utf16Length second.1 ≤ utf16Length first.1

/-- Whether a name stands at the start of a text and ends there as a word. -/
def nameMatches (text name : List Char) : Bool :=
  toLowerCase (text.take name.length) == toLowerCase name &&
    !(text.drop name.length).head?.any isWordChar

/-- The scanner, at a position of a marked text; `skip` characters belong to the last match. -/
def scanFrom (sorted : List (List Char × α)) (skip position : Nat) (afterWord : Bool) :
    List (Char × Bool) → List (RoleMentionMatch α)
  | [] => []
  | (char, inCode) :: rest =>
    match skip with
    | skip + 1 => scanFrom sorted skip (position + 1) (isWordChar char) rest
    | 0 =>
      if char = '@' ∧ inCode = false ∧ afterWord = false then
        match sorted.find? fun candidate =>
            nameMatches toLowerCase (rest.map Prod.fst) candidate.1 with
        | some (name, value) =>
          ⟨position, position + 1 + name.length, value⟩ ::
            scanFrom sorted name.length (position + 1) false rest
        | none => scanFrom sorted 0 (position + 1) false rest
      else scanFrom sorted 0 (position + 1) (isWordChar char) rest

/-- `scanRoleMentions`. -/
def scanRoleMentions (text : List Char) (candidates : List (RoleMentionCandidate α)) :
    List (RoleMentionMatch α) :=
  scanFrom toLowerCase (sortCandidates candidates) 0 0 false (markCode .text true text)

end Scan

end Bongtalk.Messages.Mentions
