import Mathlib.Data.List.DropRight

/-!
# Histories

A history is a list of entries, the latest one last. Laws about it look at each entry together
with what came before, and at grants that nothing has revoked since. A log may keep a bounded number
of its latest entries: a new entry comes at the end, and what is beyond the bound goes at the front.
-/

namespace Library

open List

universe u v

variable {Entry : Type u}

/-- Each entry is good after the entries before it. -/
def EachAfter (Good : List Entry → Entry → Prop) (history : List Entry) : Prop :=
  ∀ earlier entry later, history = earlier ++ entry :: later → Good earlier entry

/-- An entry grants, and none after it revokes. -/
def Standing (Grants Revokes : Entry → Prop) (history : List Entry) : Prop :=
  ∃ earlier entry later, history = earlier ++ entry :: later ∧ Grants entry ∧
    ∀ other ∈ later, ¬Revokes other

variable {history earlier later : List Entry} {entry last : Entry}

/-- An entry of a history that has grown by one is the new one or has been there before. -/
theorem append_singleton_eq_split_iff : history ++ [last] = earlier ++ entry :: later ↔
    (history = earlier ∧ last = entry ∧ later = []) ∨
      ∃ rest, later = rest ++ [last] ∧ history = earlier ++ entry :: rest := by
  constructor
  · intro split
    rcases eq_nil_or_concat' later with rfl | ⟨rest, newest, rfl⟩
    · obtain ⟨same, isLast⟩ := append_inj' split rfl
      exact .inl ⟨same, singleton_inj.mp isLast, rfl⟩
    · rw [← cons_append, ← append_assoc] at split
      obtain ⟨same, isLast⟩ := append_inj' split rfl
      obtain rfl := singleton_inj.mp isLast
      exact .inr ⟨rest, rfl, same⟩
  · rintro (⟨rfl, rfl, rfl⟩ | ⟨rest, rfl, rfl⟩)
    · rfl
    · rw [append_assoc, cons_append]

variable {Good : List Entry → Entry → Prop}

theorem eachAfter_nil : EachAfter Good [] := by
  intro earlier entry later split
  exact absurd split.symm (append_ne_nil_of_right_ne_nil _ (cons_ne_nil _ _))

theorem eachAfter_append_singleton_iff :
    EachAfter Good (history ++ [last]) ↔ EachAfter Good history ∧ Good history last := by
  constructor
  · intro each
    refine ⟨fun earlier entry later split => ?_, each history last [] rfl⟩
    exact each earlier entry (later ++ [last])
      (append_singleton_eq_split_iff.mpr (.inr ⟨later, rfl, split⟩))
  · rintro ⟨each, good⟩ earlier entry later split
    rcases append_singleton_eq_split_iff.mp split with ⟨rfl, rfl, -⟩ | ⟨rest, -, before⟩
    · exact good
    · exact each earlier entry rest before

variable {Grants Revokes : Entry → Prop}

theorem not_standing_nil : ¬Standing Grants Revokes [] := by
  rintro ⟨earlier, entry, later, split, -⟩
  exact append_ne_nil_of_right_ne_nil _ (cons_ne_nil _ _) split.symm

theorem standing_append_singleton_iff : Standing Grants Revokes (history ++ [last]) ↔
    Grants last ∨ (¬Revokes last ∧ Standing Grants Revokes history) := by
  constructor
  · rintro ⟨earlier, entry, later, split, grants, stands⟩
    rcases append_singleton_eq_split_iff.mp split with ⟨-, rfl, -⟩ | ⟨rest, rfl, before⟩
    · exact .inl grants
    have onRest : ∀ other ∈ rest, ¬Revokes other :=
      fun other present => stands other (mem_append_left _ present)
    exact .inr ⟨stands last (mem_append_right _ (mem_singleton_self _)),
      earlier, entry, rest, before, grants, onRest⟩
  · rintro (grants | ⟨keeps, earlier, entry, later, rfl, grants, stands⟩)
    · exact ⟨history, last, [], rfl, grants, forall_mem_nil _⟩
    · refine ⟨earlier, entry, later ++ [last], ?_, grants, ?_⟩
      · rw [append_assoc, cons_append]
      · exact forall_mem_append.mpr ⟨stands, forall_mem_singleton.mpr keeps⟩

section Recent

variable {α : Type u} {κ : Type v}

/-- Adding to the latest entries of a log and dropping what is beyond the bound gives the latest
entries of the longer log. -/
theorem drop_rtake_concat (log : List α) (entry : α) (bound : Nat) :
    (log.rtake bound ++ [entry]).drop ((log.rtake bound).length + 1 - bound) =
      (log ++ [entry]).rtake bound := by
  have kept : (log.rtake bound).length = log.length - (log.length - bound) := by
    rw [List.rtake, length_drop]
  by_cases fits : log.length < bound
  · have none : log.length - bound = 0 := by omega
    have noneBeyond : log.length + 1 - bound = 0 := by omega
    have length : (log.rtake bound).length + 1 - bound = 0 := by omega
    rw [length]
    simp [List.rtake, none, noneBeyond]
  · have one : (log.rtake bound).length + 1 - bound = 1 := by omega
    have beyond : (log ++ [entry]).length - bound = (log.length - bound) + 1 := by
      simp only [length_append, length_singleton]
      omega
    have front : (log ++ [entry]).drop (log.length - bound) = log.rtake bound ++ [entry] := by
      rw [drop_append_of_le_length (Nat.sub_le _ _)]
      rfl
    rw [one, ← front, drop_drop, List.rtake, beyond]

/-- Removing the keys of the first entries removes the first entries. -/
theorem filter_notMem_take [DecidableEq κ] {key : α → κ} {entries : List α}
    (nodup : (entries.map key).Nodup) (count : Nat) :
    (entries.filter fun entry => decide (key entry ∉ (entries.take count).map key)) =
      entries.drop count := by
  induction entries generalizing count with
  | nil => simp
  | cons first rest ih =>
    obtain ⟨firstNew, restNodup⟩ := nodup_cons.mp nodup
    cases count with
    | zero => simp
    | succ count =>
      have restFilter : (rest.filter fun entry =>
          decide (key entry ∉ ((first :: rest).take (count + 1)).map key)) =
            rest.filter fun entry => decide (key entry ∉ (rest.take count).map key) := by
        apply filter_congr
        intro entry inRest
        have different : key entry ≠ key first := by
          intro same
          exact firstNew (same ▸ mem_map_of_mem inRest)
        simp [different]
      rw [filter_cons, restFilter, ih restNodup]
      simp

end Recent

end Library
