import Bongtalk.Messages.Mentions.Extractor

/-!
# Normalised mentions

A handle that resolves becomes a token with the id of its user. Code, scope mentions and unknown
handles stay as they are, and so do tokens.
-/

namespace Bongtalk.Messages.Mentions

open Shared List Option CodeMode

/-- The text of a user id. -/
structure UserIdText where
  text : List Char
  nonempty : text ≠ []
  chars : ∀ char ∈ text, isHandleChar char = true

def mentionToken (id : UserIdText) : List Char :=
  '@' :: '\x7b' :: (id.text ++ ['\x7d'])

/-- Characters outside of code. -/
def unmarked (chars : List Char) : List (Char × Bool) :=
  chars.map (·, false)

section Normalize

variable (resolve : List Char → Option UserIdText)

/-- The handle behind an `@`, with the user it resolves to. -/
def resolvedHandle (text : List Char) : Option (List Char × UserIdText) :=
  (matchHandle text).bind fun handle =>
    if reservedMentionNames.contains (handle.map Char.toLower) then none
    else (resolve handle).map (handle, ·)

/-- The handle that is replaced at a character; `afterWord` tells of the character before it. -/
def mentionAt (afterWord : Bool) (entry : Char × Bool) (rest : List Char) :
    Option (List Char × UserIdText) :=
  if entry = ('@', false) ∧ afterWord = false then resolvedHandle resolve rest else none

/-- The loop of `normalizeMentions` over a marked text; `skip` characters belong to the handle that
was replaced. A handle that stays has no `@` in it, so that none is skipped with it. -/
def normalizeFrom (skip : Nat) (afterWord : Bool) : List (Char × Bool) → List (Char × Bool)
  | [] => []
  | entry :: rest =>
    match skip with
    | skip + 1 => normalizeFrom skip (isWordChar entry.1) rest
    | 0 =>
      match mentionAt resolve afterWord entry (rest.map Prod.fst) with
      | some (handle, id) =>
        unmarked (mentionToken id) ++ normalizeFrom handle.length (isWordChar entry.1) rest
      | none => entry :: normalizeFrom 0 (isWordChar entry.1) rest

/-- `normalizeMentions` without role tokens. -/
def normalizeMentions (text : List Char) : List Char :=
  (normalizeFrom resolve 0 false (markCode .text true text)).map Prod.fst

/-- Whether a marked text has a mention that passes a check. -/
def anyMention (check : List Char → List (Char × Bool) → Bool) (afterWord : Bool) :
    List (Char × Bool) → Bool
  | [] => false
  | entry :: rest =>
    (mentionAt resolve afterWord entry (rest.map Prod.fst)).any (fun found => check found.1 rest) ||
      anyMention check (isWordChar entry.1) rest

/-- Whether the last of some characters is a word character. -/
def wordBehind (afterWord : Bool) (chars : List Char) : Bool :=
  chars.foldl (fun _ char => isWordChar char) afterWord

/-- Whether a marked text begins with a mention. -/
def opensMention : List (Char × Bool) → Bool
  | [] => false
  | entry :: rest => (mentionAt resolve false entry (rest.map Prod.fst)).isSome

/-- Whether a handle ends in a word character and another mention comes right behind it, where the
word character keeps it from being one. -/
def adjoinsMention (handle : List Char) (rest : List (Char × Bool)) : Bool :=
  wordBehind false handle && opensMention resolve (rest.drop handle.length)

end Normalize

variable {resolve : List Char → Option UserIdText} {afterWord atLineStart : Bool} {mode : CodeMode}
  {char : Char} {text handle chars : List Char} {rest out : List (Char × Bool)} {id : UserIdText}

section Quiet

/-- Neither a sigil, nor a backtick, nor the end of a line. -/
def isQuiet (char : Char) : Bool :=
  char != '@' && char != backtick && char != '\n'

theorem isQuiet_of_isHandleChar (isHandle : isHandleChar char = true) : isQuiet char = true := by
  have other {sigil : Char} (isOther : isHandleChar sigil = false) : char ≠ sigil := by
    rintro rfl
    rw [isHandle] at isOther
    cases isOther
  have sigil : char ≠ '@' := other (by decide)
  have tick : char ≠ backtick := other (by decide)
  have newline : char ≠ '\n' := other (by decide)
  simp [isQuiet, sigil, tick, newline]

theorem isQuiet_iff : isQuiet char = true ↔ (char ≠ '@' ∧ char ≠ backtick) ∧ char ≠ '\n' := by
  simp only [isQuiet, Bool.and_eq_true, bne_iff_ne]

theorem quiet_token : ∀ char ∈ '\x7b' :: (id.text ++ ['\x7d']), isQuiet char = true := by
  refine forall_mem_cons.mpr ⟨by decide, forall_mem_append.mpr ⟨?_, all_eq_true.mp rfl⟩⟩
  exact fun char charMem => isQuiet_of_isHandleChar (id.chars char charMem)

theorem map_fst_unmarked : (unmarked chars).map Prod.fst = chars := by
  rw [unmarked, List.map_map]
  exact List.map_id chars

theorem markCode_quiet (quiet : ∀ char ∈ chars, isQuiet char = true) :
    markCode .text false (chars ++ text) = unmarked chars ++ markCode .text false text := by
  induction chars with
  | nil => rfl
  | cons char chars ih =>
    obtain ⟨isQuiet, quiet⟩ := forall_mem_cons.mp quiet
    obtain ⟨⟨-, noTick⟩, noLine⟩ := isQuiet_iff.mp isQuiet
    have isText : CodeMode.text.enter false (char :: (chars ++ text)) = .text := by
      simp [enter, noTick]
    rw [cons_append, markCode, isText, beq_eq_false_iff_ne.mpr noLine]
    exact congrArg ((char, false) :: ·) (ih quiet)

theorem spanLength_quiet (quiet : ∀ char ∈ chars, isQuiet char = true) :
    spanLength (chars ++ text) = none ↔ spanLength text = none := by
  induction chars with
  | nil => rfl
  | cons char chars ih =>
    obtain ⟨isQuiet, quiet⟩ := forall_mem_cons.mp quiet
    obtain ⟨⟨-, noTick⟩, noLine⟩ := isQuiet_iff.mp isQuiet
    rw [cons_append, spanLength, if_neg noTick, if_neg noLine, map_eq_none_iff]
    exact ih quiet

variable {check : List Char → List (Char × Bool) → Bool}

theorem anyMention_of_none {entry : Char × Bool}
    (none_ : mentionAt resolve afterWord entry (rest.map Prod.fst) = none) :
    anyMention resolve check afterWord (entry :: rest) =
      anyMention resolve check (isWordChar entry.1) rest := by
  rw [anyMention, none_]
  rfl

theorem anyMention_quiet (quiet : ∀ char ∈ chars, isQuiet char = true) :
    anyMention resolve check afterWord (unmarked chars ++ rest) =
      anyMention resolve check (wordBehind afterWord chars) rest := by
  induction chars generalizing afterWord with
  | nil => rfl
  | cons char chars ih =>
    obtain ⟨isQuiet, quiet⟩ := forall_mem_cons.mp quiet
    refine (anyMention_of_none (if_neg fun sigil => ?_)).trans (ih quiet)
    exact (isQuiet_iff.mp isQuiet).1.1 (Prod.mk.inj sigil.1).1

theorem anyMention_token :
    anyMention resolve check afterWord (unmarked (mentionToken id) ++ rest) =
      anyMention resolve check false rest := by
  have none_ : mentionAt resolve afterWord ('@', false) ((unmarked
      ('\x7b' :: (id.text ++ ['\x7d'])) ++ rest).map Prod.fst) = none := by
    rw [mentionAt]
    split <;> rfl
  have behind : wordBehind false ('\x7b' :: (id.text ++ ['\x7d'])) = false := by
    simp [wordBehind, isWordChar]
  refine (anyMention_of_none none_).trans ((anyMention_quiet quiet_token).trans ?_)
  exact congrArg (anyMention resolve check · rest) behind

end Quiet

/-- The pass over a text: a character is read in its mode and stays, or a handle is replaced. -/
inductive Normalizes (resolve : List Char → Option UserIdText) :
    CodeMode → Bool → Bool → List Char → List (Char × Bool) → Prop where
  | nil {mode : CodeMode} {atLineStart afterWord : Bool} :
      Normalizes resolve mode atLineStart afterWord [] []
  | stays {mode : CodeMode} {atLineStart afterWord : Bool} {char : Char} {text : List Char}
      {out : List (Char × Bool)}
      (none_ : mentionAt resolve afterWord
        (char, mode.enter atLineStart (char :: text) != .text) text = none)
      (pass : Normalizes resolve ((mode.enter atLineStart (char :: text)).leave char)
        (char == '\n') (isWordChar char) text out) :
      Normalizes resolve mode atLineStart afterWord (char :: text)
        ((char, mode.enter atLineStart (char :: text) != .text) :: out)
  | replaces {mode : CodeMode} {atLineStart : Bool} {handle tail : List Char} {id : UserIdText}
      {out : List (Char × Bool)}
      (isText : mode.enter atLineStart ('@' :: (handle ++ tail)) = .text)
      (nonempty : handle ≠ []) (isHandle : ∀ char ∈ handle, isHandleChar char = true)
      (found : resolvedHandle resolve (handle ++ tail) = some (handle, id))
      (pass : Normalizes resolve .text false (wordBehind false handle) tail out) :
      Normalizes resolve mode atLineStart false ('@' :: (handle ++ tail))
        (unmarked (mentionToken id) ++ out)

theorem resolvedHandle_eq_some (found : resolvedHandle resolve text = some (handle, id)) :
    ∃ tail, text = handle ++ tail ∧ handle ≠ [] ∧ ∀ char ∈ handle, isHandleChar char = true := by
  obtain ⟨group, matched, resolved⟩ := bind_eq_some_iff.mp found
  obtain rfl : group = handle := by
    split at resolved
    · cases resolved
    obtain ⟨_, -, same⟩ := map_eq_some_iff.mp resolved
    exact congrArg Prod.fst same
  unfold matchHandle at matched
  dsimp only at matched
  split at matched
  next long =>
    cases matched
    obtain ⟨tail, isTail⟩ := ( take_prefix 32 _).trans ( takeWhile_prefix isHandleChar)
    refine ⟨tail, isTail.symm, fun none => ?_, fun char charMem => ?_⟩
    · rw [none] at long
      exact absurd long (by decide)
    · exact all_eq_true.mp all_takeWhile char (mem_of_mem_take charMem)
  · cases matched

theorem normalizeFrom_skip :
    normalizeFrom resolve chars.length afterWord (unmarked chars ++ rest) =
      normalizeFrom resolve 0 (wordBehind afterWord chars) rest := by
  induction chars generalizing afterWord with
  | nil => rfl
  | cons char chars ih => exact ih

theorem markCode_replaced {tail : List Char}
    (isText : mode.enter atLineStart ('@' :: (handle ++ tail)) = .text)
    (isHandle : ∀ char ∈ handle, isHandleChar char = true) :
    markCode mode atLineStart ('@' :: (handle ++ tail)) =
      ('@', false) :: (unmarked handle ++ markCode .text false tail) := by
  rw [markCode, isText, ← markCode_quiet fun char charMem =>
    isQuiet_of_isHandleChar (isHandle char charMem)]
  rfl

theorem normalizes_normalizeFrom (text : List Char) :
    Normalizes resolve mode atLineStart afterWord text
      (normalizeFrom resolve 0 afterWord (markCode mode atLineStart text)) := by
  induction length : text.length using Nat.strong_induction_on
    generalizing text mode atLineStart afterWord with
  | _ length ih =>
    subst length
    cases text with
    | nil => exact .nil
    | cons char text =>
      cases found : mentionAt resolve afterWord
          (char, mode.enter atLineStart (char :: text) != .text) text with
      | none =>
        rw [markCode, normalizeFrom, map_fst_markCode, found]
        exact .stays found (ih _ (Nat.lt_succ_self _) text rfl)
      | some mention =>
        have resolved := found
        rw [mentionAt] at resolved
        split at resolved
        next sigil =>
          obtain ⟨isSigil, rfl⟩ := sigil
          obtain ⟨rfl, isCode⟩ := Prod.mk.inj isSigil
          obtain ⟨tail, rfl, nonempty, isHandle⟩ := resolvedHandle_eq_some resolved
          have isText : mode.enter atLineStart ('@' :: (mention.1 ++ tail)) = .text := by
            simpa using isCode
          have same : (unmarked mention.1 ++ markCode .text false tail).map Prod.fst =
              mention.1 ++ tail := by
            rw [map_append, map_fst_markCode, map_fst_unmarked]
          have isFound : mentionAt resolve false ('@', false) (mention.1 ++ tail) = some mention :=
            (if_pos ⟨rfl, rfl⟩).trans resolved
          rw [markCode_replaced isText isHandle, normalizeFrom, same, isFound]
          dsimp only
          rw [normalizeFrom_skip]
          refine .replaces isText nonempty isHandle resolved (ih _ ?_ tail rfl)
          rw [length_cons, length_append]
          omega
        · cases resolved

/-- The mode behind a backtick. -/
def afterTick (text : List Char) : CodeMode :=
  (spanLength text).elim .text .span

theorem afterTick_cons (noTick : char ≠ backtick) (noLine : char ≠ '\n') :
    ((afterTick (char :: text)).enter atLineStart (char :: text)).leave char = afterTick text := by
  rw [afterTick, spanLength, if_neg noTick, if_neg noLine, afterTick]
  cases spanLength text with
  | none => simp [enter, leave, isFence, noTick, noTick.symm]
  | some left => rfl

/-- An inline span has no handle that is replaced, and no token begins or ends one. -/
theorem Normalizes.spanLength_eq (pass : Normalizes resolve mode atLineStart afterWord text out)
    (isTick : mode = afterTick text) : spanLength (out.map Prod.fst) = spanLength text := by
  induction pass with
  | nil => rfl
  | stays none_ pass ih =>
    subst isTick
    rw [map_cons, spanLength, spanLength]
    split
    · rfl
    next noTick =>
      split
      · rfl
      next noLine => rw [ih (afterTick_cons noTick noLine)]
  | @replaces _ _ handle tail id out isText nonempty isHandle found pass ih =>
    have quiet : ∀ char ∈ handle, isQuiet char = true :=
      fun char charMem => isQuiet_of_isHandleChar (isHandle char charMem)
    have noSpan {chars : List Char} : spanLength ('@' :: chars) = none ↔ spanLength chars = none := by
      rw [spanLength, if_neg (by decide), if_neg (by decide), map_eq_none_iff]
    have isNone : spanLength ('@' :: (handle ++ tail)) = none := by
      refine eq_none_iff_forall_ne_some.mpr fun left closes => ?_
      rw [isTick, afterTick, closes] at isText
      rw [spanLength, if_neg (by decide), if_neg (by decide)] at closes
      obtain ⟨fewer, -, rfl⟩ := map_eq_some_iff.mp closes
      cases isText
    have tailNone : spanLength tail = none := (spanLength_quiet quiet).mp (noSpan.mp isNone)
    rw [isNone, map_append, map_fst_unmarked]
    refine noSpan.mpr ((spanLength_quiet quiet_token).mpr ?_)
    rw [ih (by rw [afterTick, tailNone]; rfl), tailNone]

theorem Normalizes.isPrefixOf_eq (pass : Normalizes resolve mode atLineStart afterWord text out)
    (count : Nat) : (List.replicate count backtick).isPrefixOf (out.map Prod.fst) =
      (List.replicate count backtick).isPrefixOf text := by
  induction pass generalizing count with
  | nil => rfl
  | @stays _ _ _ char _ _ none_ pass ih =>
    cases count with
    | zero => rfl
    | succ count => exact congrArg (backtick == char && ·) (ih count)
  | replaces =>
    cases count with
    | zero => rfl
    | succ count => rfl

/-- What begins at a character is read off the text behind it as before. -/
theorem Normalizes.enter_eq (pass : Normalizes resolve
      ((mode.enter atLineStart (char :: text)).leave char) (char == '\n') afterWord text out) :
    mode.enter atLineStart (char :: out.map Prod.fst) = mode.enter atLineStart (char :: text) := by
  have fence : isFence (char :: out.map Prod.fst) = isFence (char :: text) :=
    congrArg (backtick == char && ·) (pass.isPrefixOf_eq 2)
  have outside (isText : mode.enter atLineStart (char :: text) =
      CodeMode.text.enter atLineStart (char :: text)) :
      CodeMode.text.enter atLineStart (char :: out.map Prod.fst) =
        CodeMode.text.enter atLineStart (char :: text) := by
    rw [isText] at pass
    simp only [enter, fence, List.head?_cons, Option.some.injEq, tail_cons] at pass ⊢
    split
    · rfl
    next noFence =>
      split
      next tick =>
        rw [if_neg noFence, if_pos tick] at pass
        rw [pass.spanLength_eq]
        rw [afterTick]
        subst tick
        cases spanLength text <;> rfl
      · rfl
  cases mode with
  | text => exact outside rfl
  | fenceBody => rw [enter, enter, fence]
  | fenceOpen | fenceClose => rfl
  | span left =>
    cases left with
    | zero => exact outside rfl
    | succ left => rfl

/-- Code stays where it is, around the tokens. -/
theorem Normalizes.markCode_eq (pass : Normalizes resolve mode atLineStart afterWord text out) :
    markCode mode atLineStart (out.map Prod.fst) = out := by
  induction pass with
  | nil => rfl
  | stays none_ pass ih => rw [map_cons, markCode, pass.enter_eq, ih]
  | @replaces mode atLineStart handle tail id out isText nonempty isHandle found pass ih =>
    have same {chars : List Char} : mode.enter atLineStart ('@' :: chars) = .text := by
      refine Eq.trans ?_ isText
      cases mode with
      | span left => cases left <;> simp [enter, isFence, backtick]
      | _ => simp [enter, isFence, backtick]
    rw [map_append, map_fst_unmarked, mentionToken, cons_append, markCode, same]
    change ('@', false) :: markCode .text false _ = _
    rw [markCode_quiet quiet_token, ih]
    rfl

theorem Normalizes.takeWhile_eq (pass : Normalizes resolve mode atLineStart afterWord text out) :
    (out.map Prod.fst).takeWhile isHandleChar = text.takeWhile isHandleChar := by
  induction pass with
  | nil => rfl
  | stays none_ pass ih => simp only [map_cons, takeWhile_cons, ih]
  | replaces => rfl

/-- The next mention is the same before and after the pass. -/
theorem Normalizes.mentionAt_eq (pass : Normalizes resolve mode atLineStart afterWord text out)
    (otherWord : Bool) (entry : Char × Bool) :
    mentionAt resolve otherWord entry (out.map Prod.fst) =
      mentionAt resolve otherWord entry text := by
  simp only [mentionAt, resolvedHandle, matchHandle, pass.takeWhile_eq]

/-- The mentions that the pass leaves are those that it opens; the first may come right behind a
handle, which is a token now. -/
theorem Normalizes.anyMention_eq (pass : Normalizes resolve mode atLineStart afterWord text out) :
    anyMention resolve (fun _ _ => true) afterWord out =
        anyMention resolve (adjoinsMention resolve) afterWord (markCode mode atLineStart text) ∧
      anyMention resolve (fun _ _ => true) false out =
        ((afterWord && opensMention resolve (markCode mode atLineStart text)) ||
          anyMention resolve (adjoinsMention resolve) afterWord
            (markCode mode atLineStart text)) := by
  induction pass with
  | nil => simp [anyMention, markCode, opensMention]
  | @stays _ _ afterWord _ _ _ none_ pass ih =>
    have opened : anyMention resolve (adjoinsMention resolve) afterWord (markCode _ _ (_ :: _)) =
        anyMention resolve (fun _ _ => true) _ _ :=
      (anyMention_of_none (by rw [map_fst_markCode]; exact none_)).trans ih.1.symm
    rw [opened, markCode, opensMention, map_fst_markCode]
    refine ⟨anyMention_of_none ((pass.mentionAt_eq _ _).trans none_), ?_⟩
    rw [anyMention, pass.mentionAt_eq]
    cases afterWord with
    | false =>
      rw [none_]
      rfl
    | true => cases mentionAt resolve false _ _ <;> rfl
  | @replaces mode atLineStart handle tail id out isText nonempty isHandle found pass ih =>
    have quiet : ∀ char ∈ handle, isQuiet char = true :=
      fun char charMem => isQuiet_of_isHandleChar (isHandle char charMem)
    have isFound : mentionAt resolve false ('@', false) ((unmarked handle ++
        markCode .text false tail).map Prod.fst) = some (handle, id) := by
      rw [map_append, map_fst_markCode, map_fst_unmarked]
      exact (if_pos ⟨rfl, rfl⟩).trans found
    have length : (unmarked handle).length = handle.length := length_map _
    have same : anyMention resolve (fun _ _ => true) false (unmarked (mentionToken id) ++ out) =
        anyMention resolve (adjoinsMention resolve) false
          (markCode mode atLineStart ('@' :: (handle ++ tail))) := by
      rw [markCode_replaced isText isHandle, anyMention_token, ih.2, anyMention, isFound,
        any_some, adjoinsMention, ← length, drop_left]
      exact congrArg (_ || ·) (anyMention_quiet quiet).symm
    exact ⟨same, same⟩

/-- A text without mentions stays, and no other one does. -/
theorem Normalizes.eq_self_iff (pass : Normalizes resolve mode atLineStart afterWord text out) :
    out.map Prod.fst = text ↔ anyMention resolve (fun _ _ => true) afterWord
      (markCode mode atLineStart text) = false := by
  induction pass with
  | nil => exact iff_of_true rfl rfl
  | stays none_ pass ih =>
    rw [markCode, anyMention_of_none (by rw [map_fst_markCode]; exact none_), map_cons,
      cons_inj_right]
    exact ih
  | @replaces _ _ handle tail id out isText nonempty isHandle found pass ih =>
    refine iff_of_false (fun same => ?_) fun absent => ?_
    · obtain ⟨first, rest, rfl⟩ := exists_cons_of_ne_nil nonempty
      have brace : '\x7b' = first := head_eq_of_cons_eq (tail_eq_of_cons_eq same)
      subst brace
      exact absurd (isHandle _ (.head _)) (by decide)
    · rw [markCode_replaced isText isHandle, anyMention, map_append, map_fst_markCode,
        map_fst_unmarked, mentionAt, if_pos ⟨rfl, rfl⟩, found] at absent
      cases absent

/-- Normalising a normalised text changes nothing exactly when no handle that was replaced ends in a
word character with a mention right behind it. -/
theorem normalize_idempotent_iff (resolve : List Char → Option UserIdText) (text : List Char) :
    normalizeMentions resolve (normalizeMentions resolve text) = normalizeMentions resolve text ↔
      anyMention resolve (adjoinsMention resolve) false (markCode .text true text) = false := by
  have once : Normalizes resolve .text true false text _ := normalizes_normalizeFrom text
  have twice : Normalizes resolve .text true false (normalizeMentions resolve text) _ :=
    normalizes_normalizeFrom (normalizeMentions resolve text)
  refine twice.eq_self_iff.trans ?_
  rw [normalizeMentions, once.markCode_eq, once.anyMention_eq.1]

/-- Two users, whose ids are digits. -/
def aliceAndBob (handle : List Char) : Option UserIdText :=
  if handle = "alice".toList then some ⟨['1'], by decide, all_eq_true.mp rfl⟩
  else if handle = "bob".toList then some ⟨['2'], by decide, all_eq_true.mp rfl⟩
  else none

/-- The second of two handles without a blank between them becomes a token when the text is
normalised again. -/
theorem adjoining_handles_normalized_twice :
    ¬∀ (resolve : List Char → Option UserIdText) (text : List Char),
      normalizeMentions resolve (normalizeMentions resolve text) =
        normalizeMentions resolve text := by
  intro idempotent
  have once : normalizeMentions aliceAndBob "@alice@bob".toList = "@\x7b1\x7d@bob".toList := by
    decide +kernel
  have twice : normalizeMentions aliceAndBob "@\x7b1\x7d@bob".toList =
      "@\x7b1\x7d@\x7b2\x7d".toList := by
    decide +kernel
  have same := idempotent aliceAndBob "@alice@bob".toList
  rw [once, twice] at same
  exact absurd same (by decide)

end Bongtalk.Messages.Mentions
