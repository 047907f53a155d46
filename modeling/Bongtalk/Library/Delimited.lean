import Mathlib.Data.List.Infix

/-!
# Words between separators

A sequence of words is written with a separator in front of each word and one at the end. As no
word has the separator, a sequence is a part of another exactly when its text is.
-/

namespace Library

open List

universe u

variable {α : Type u}

/-- Each word with a separator behind it. -/
def terminated (separator : α) (words : List (List α)) : List α :=
  words.flatMap (· ++ [separator])

@[simp] theorem terminated_nil (separator : α) : terminated separator [] = [] :=
  rfl

@[simp] theorem terminated_cons (separator : α) (word : List α) (words : List (List α)) :
    terminated separator (word :: words) = word ++ separator :: terminated separator words := by
  simp [terminated]

/-- The words with a separator on both sides. -/
def delimited (separator : α) (words : List (List α)) : List α :=
  separator :: terminated separator words

/-- Joined words between two separators. -/
theorem delimited_eq_intercalate (separator : α) {words : List (List α)} (nonempty : words ≠ []) :
    delimited separator words = separator :: [separator].intercalate words ++ [separator] := by
  rw [delimited, cons_append]
  congr 1
  induction words with
  | nil => exact absurd rfl nonempty
  | cons word words ih =>
    rw [terminated_cons]
    cases words with
    | nil => simp [List.intercalate]
    | cons other words => simp [ih (cons_ne_nil _ _), List.intercalate]

section Parts

variable {separator : α} {part words : List (List α)}

/-- The first separator ends the first word. -/
theorem append_cons_inj {word other rest text : List α} (wordClean : separator ∉ word)
    (otherClean : separator ∉ other) (same : word ++ separator :: rest = other ++ separator :: text) :
    word = other ∧ rest = text := by
  induction word generalizing other with
  | nil =>
    cases other with
    | nil => exact ⟨rfl, tail_eq_of_cons_eq same⟩
    | cons char other =>
      exact absurd (head_eq_of_cons_eq same) (ne_of_not_mem_cons otherClean)
  | cons char word ih =>
    cases other with
    | nil =>
      exact absurd (head_eq_of_cons_eq same).symm (ne_of_not_mem_cons wordClean)
    | cons first other =>
      obtain ⟨rfl, behind⟩ := cons_eq_cons.mp same
      obtain ⟨rfl, rests⟩ := ih (not_mem_of_not_mem_cons wordClean)
        (not_mem_of_not_mem_cons otherClean) behind
      exact ⟨rfl, rests⟩

theorem terminated_prefix_iff (partClean : ∀ word ∈ part, separator ∉ word)
    (clean : ∀ word ∈ words, separator ∉ word) :
    terminated separator part <+: terminated separator words ↔ part <+: words := by
  induction part generalizing words with
  | nil => simp
  | cons word part ih =>
    obtain ⟨wordClean, partClean⟩ := forall_mem_cons.mp partClean
    cases words with
    | nil => simp
    | cons other words =>
      obtain ⟨otherClean, clean⟩ := forall_mem_cons.mp clean
      rw [terminated_cons, terminated_cons, cons_prefix_cons, ← ih partClean clean]
      constructor
      · rintro ⟨rest, same⟩
        rw [append_assoc, cons_append] at same
        obtain ⟨rfl, behind⟩ := append_cons_inj wordClean otherClean same
        exact ⟨rfl, rest, behind⟩
      · rintro ⟨rfl, rest, same⟩
        exact ⟨rest, by rw [append_assoc, cons_append, same]⟩

/-- What starts with a separator starts behind a word without one. -/
theorem cons_infix_append_iff {word text rest : List α} (clean : separator ∉ word) :
    separator :: rest <:+: word ++ text ↔ separator :: rest <:+: text := by
  induction word with
  | nil => rfl
  | cons char word ih =>
    rw [mem_cons, not_or] at clean
    rw [cons_append, infix_cons_iff, cons_prefix_cons, ih clean.2]
    exact or_iff_right fun start => clean.1 start.1

theorem delimited_infix_iff (partClean : ∀ word ∈ part, separator ∉ word)
    (clean : ∀ word ∈ words, separator ∉ word) :
    delimited separator part <:+: delimited separator words ↔ part <:+: words := by
  unfold delimited
  induction words with
  | nil =>
    rw [terminated_nil, infix_cons_iff, cons_prefix_cons, infix_nil, infix_nil,
      prefix_nil, or_iff_left (cons_ne_nil _ _)]
    cases part with
    | nil => simp
    | cons word part => simp
  | cons word words ih =>
    obtain ⟨wordClean, restClean⟩ := forall_mem_cons.mp clean
    rw [infix_cons_iff, cons_prefix_cons, terminated_prefix_iff partClean clean,
      terminated_cons, cons_infix_append_iff wordClean, ih restClean, infix_cons_iff]
    exact or_congr_left (and_iff_right rfl)

end Parts

end Library
