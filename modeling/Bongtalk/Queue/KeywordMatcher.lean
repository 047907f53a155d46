import Bongtalk.Library.Delimited
import Bongtalk.Prisma.Schema
import Bongtalk.Shared.Text

/-!
# Keyword matching

A keyword matches a text when its words occur in a row among the words of the text, in any case.
-/

namespace Bongtalk.Queue

open Library Prisma Shared

variable (toLowerCase : List Char → List Char)

def normalizeWords (text : List Char) : List Char :=
  unwords (words (toLowerCase text))

/-- The text between blanks, so that its first and last words are bounded too. -/
def buildBoundedText (contentPlain : List Char) : List Char :=
  let norm := normalizeWords toLowerCase contentPlain
  if norm = [] then [] else ' ' :: norm ++ [' ']

def matchesKeyword (boundedText keyword : List Char) : Bool :=
  let kw := normalizeWords toLowerCase keyword
  !boundedText.isEmpty && !kw.isEmpty && includes (' ' :: kw ++ [' ']) boundedText

structure KeywordWatcher where
  userId : UserId
  keywords : List String
deriving DecidableEq, Repr

/-- The watchers with a matching keyword. -/
def scanKeywords (contentPlain : List Char) (watchers : List KeywordWatcher) : List UserId :=
  let bounded := buildBoundedText toLowerCase contentPlain
  (watchers.filter fun watcher =>
    watcher.keywords.any fun keyword => matchesKeyword toLowerCase bounded keyword.toList).map
      (·.userId)

theorem mem_of_mem_scanKeywords {contentPlain : List Char} {watchers : List KeywordWatcher}
    {userId : UserId} (matched : userId ∈ scanKeywords toLowerCase contentPlain watchers) :
    ∃ watcher ∈ watchers, watcher.userId = userId := by
  obtain ⟨watcher, kept, rfl⟩ := List.mem_map.mp matched
  exact ⟨watcher, List.mem_of_mem_filter kept, rfl⟩

/-- The keyword has words, which occur in a row among the words of the text. -/
def KeywordOccurs (keyword text : List Char) : Prop :=
  words (toLowerCase keyword) ≠ [] ∧ words (toLowerCase keyword) <:+: words (toLowerCase text)

section Words

variable {toLowerCase} {text keyword : List Char}

theorem blank_notMem_words : ∀ word ∈ words text, ' ' ∉ word := by
  intro word member blank
  exact absurd ((solid_of_mem_words member).2 ' ' blank) (by decide)

theorem unwords_words_eq_nil_iff : unwords (words text) = [] ↔ words text = [] := by
  constructor
  · intro empty
    cases wordsEq : words text with
    | nil => rfl
    | cons word rest =>
      have nonempty := (solid_of_mem_words (wordsEq ▸ List.mem_cons_self)).1
      rw [wordsEq] at empty
      cases rest <;> simp [unwords, List.intercalate, nonempty] at empty
  · intro none
    rw [none]
    rfl

/-- The bounded text has a blank in front of each word and one at the end. -/
theorem buildBoundedText_eq (nonempty : words (toLowerCase text) ≠ []) :
    buildBoundedText toLowerCase text = delimited ' ' (words (toLowerCase text)) := by
  rw [delimited_eq_intercalate _ nonempty]
  exact if_neg (mt unwords_words_eq_nil_iff.mp nonempty)

theorem matchesKeyword_iff :
    matchesKeyword toLowerCase (buildBoundedText toLowerCase text) keyword = true ↔
      KeywordOccurs toLowerCase keyword text := by
  by_cases noText : words (toLowerCase text) = []
  · have unbounded : buildBoundedText toLowerCase text = [] :=
      if_pos (unwords_words_eq_nil_iff.mpr noText)
    rw [KeywordOccurs, noText, List.infix_nil, unbounded]
    exact iff_of_false Bool.false_ne_true fun occurs => occurs.1 occurs.2
  · rw [matchesKeyword, buildBoundedText_eq noText]
    by_cases noKeyword : words (toLowerCase keyword) = []
    · simp [KeywordOccurs, normalizeWords, noKeyword, unwords]
    have named : normalizeWords toLowerCase keyword ≠ [] :=
      mt unwords_words_eq_nil_iff.mp noKeyword
    have bounded : ' ' :: normalizeWords toLowerCase keyword ++ [' '] =
        delimited ' ' (words (toLowerCase keyword)) :=
      (delimited_eq_intercalate _ noKeyword).symm
    rw [bounded, Bool.and_eq_true, Bool.and_eq_true, includes_iff,
      delimited_infix_iff blank_notMem_words blank_notMem_words, KeywordOccurs]
    simp [delimited, noKeyword, named]

end Words

/-- A keyword matches a text exactly when its words occur in a row among the words of the text, and
the watchers of a scan are those with such a keyword. -/
theorem keyword_matches_iff (text : List Char) :
    (∀ keyword, matchesKeyword toLowerCase (buildBoundedText toLowerCase text) keyword = true ↔
      KeywordOccurs toLowerCase keyword text) ∧
    ∀ watchers userId, userId ∈ scanKeywords toLowerCase text watchers ↔
      ∃ watcher ∈ watchers, watcher.userId = userId ∧
        ∃ keyword ∈ watcher.keywords, KeywordOccurs toLowerCase keyword.toList text := by
  refine ⟨fun keyword => matchesKeyword_iff, fun watchers userId => ?_⟩
  simp only [scanKeywords, List.mem_map, List.mem_filter, List.any_eq_true, matchesKeyword_iff]
  constructor
  · rintro ⟨watcher, ⟨listed, fires⟩, same⟩
    exact ⟨watcher, listed, same, fires⟩
  · rintro ⟨watcher, listed, same, fires⟩
    exact ⟨watcher, ⟨listed, fires⟩, same⟩

/-- A word is not found inside of another one. -/
example : matchesKeyword id (buildBoundedText id "we redeploy".toList) "deploy".toList = false := by
  decide

end Bongtalk.Queue
