import Bongtalk.Messages.Mentions.RoleScanner

/-!
# Leftmost, longest role mentions

The matches of the scanner are apart and in order, each is the longest name at its place, and
every name that stands in the text outside of code overlaps one of them. The normaliser replaces
exactly the matches by tokens.
-/

namespace Bongtalk.Messages.Mentions

open Shared List

variable {α : Type} {toLowerCase : List Char → List Char}

/-- A name stands as a mention in a marked text; `afterWord` tells of the character before it. -/
structure StandsAt (toLowerCase : List Char → List Char) (sorted : List (List Char × α))
    (afterWord : Bool) (marked : List (Char × Bool)) (position : Nat) (name : List Char)
    (value : α) : Prop where
  sigil : marked[position]? = some ('@', false)
  boundary : (afterWord :: marked.map fun entry => isWordChar entry.1)[position]? = some false
  listed : (name, value) ∈ sorted
  named : nameMatches toLowerCase ((marked.drop (position + 1)).map Prod.fst) name = true

section Scan

variable {sorted : List (List Char × α)} {afterWord : Bool} {rest : List (Char × Bool)}
  {entry : Char × Bool} {offset : Nat} {name : List Char} {value : α}

/-- A place behind the first character is a place of the rest. -/
theorem standsAt_succ_iff :
    StandsAt toLowerCase sorted afterWord (entry :: rest) (offset + 1) name value ↔
      StandsAt toLowerCase sorted (isWordChar entry.1) rest offset name value :=
  ⟨fun ⟨sigil, boundary, listed, named⟩ => ⟨sigil, boundary, listed, named⟩,
    fun ⟨sigil, boundary, listed, named⟩ => ⟨sigil, boundary, listed, named⟩⟩

theorem standsAt_zero_iff :
    StandsAt toLowerCase sorted afterWord (entry :: rest) 0 name value ↔
      (entry = ('@', false) ∧ afterWord = false) ∧ (name, value) ∈ sorted ∧
        nameMatches toLowerCase (rest.map Prod.fst) name = true := by
  constructor
  · rintro ⟨sigil, boundary, listed, named⟩
    exact ⟨⟨Option.some.inj sigil, Option.some.inj boundary⟩, listed, named⟩
  · rintro ⟨⟨rfl, rfl⟩, listed, named⟩
    exact ⟨rfl, rfl, listed, named⟩

/-- No name that stands at a place is longer. -/
structure IsLongest (toLowerCase : List Char → List Char) (sorted : List (List Char × α))
    (afterWord : Bool) (marked : List (Char × Bool)) (position : Nat) (name : List Char)
    (value : α) : Prop extends
    StandsAt toLowerCase sorted afterWord marked position name value where
  longest : ∀ other otherValue,
    StandsAt toLowerCase sorted afterWord marked position other otherValue →
      utf16Length other ≤ utf16Length name

theorem IsLongest.succ
    (isLongest : IsLongest toLowerCase sorted (isWordChar entry.1) rest offset name value) :
    IsLongest toLowerCase sorted afterWord (entry :: rest) (offset + 1) name value where
  toStandsAt := standsAt_succ_iff.mpr isLongest.toStandsAt
  longest other otherValue stands :=
    isLongest.longest other otherValue (standsAt_succ_iff.mp stands)

/-- The name that the scanner takes at the first character of a marked text. -/
def firstName (toLowerCase : List Char → List Char) (sorted : List (List Char × α))
    (afterWord : Bool) (entry : Char × Bool) (rest : List (Char × Bool)) :
    Option (List Char × α) :=
  if entry = ('@', false) ∧ afterWord = false then
    sorted.find? fun candidate => nameMatches toLowerCase (rest.map Prod.fst) candidate.1
  else none

theorem scanFrom_cons (position : Nat) :
    scanFrom toLowerCase sorted 0 position afterWord (entry :: rest) =
      match firstName toLowerCase sorted afterWord entry rest with
      | some (name, value) =>
        ⟨position, position + 1 + name.length, value⟩ ::
          scanFrom toLowerCase sorted name.length (position + 1) (isWordChar entry.1) rest
      | none => scanFrom toLowerCase sorted 0 (position + 1) (isWordChar entry.1) rest := by
  obtain ⟨char, inCode⟩ := entry
  rw [scanFrom, firstName]
  by_cases sigil : char = '@' ∧ inCode = false ∧ afterWord = false
  · obtain ⟨rfl, rfl, rfl⟩ := sigil
    rfl
  · rw [if_neg sigil, if_neg fun stands => sigil
      ⟨congrArg Prod.fst stands.1, congrArg Prod.snd stands.1, stands.2⟩]

theorem not_standsAt_of_firstName
    (none_ : firstName toLowerCase sorted afterWord entry rest = none) :
    ¬StandsAt toLowerCase sorted afterWord (entry :: rest) 0 name value := by
  intro stands
  obtain ⟨isSigil, listed, fits⟩ := standsAt_zero_iff.mp stands
  rw [firstName, if_pos isSigil] at none_
  exact List.find?_eq_none.mp none_ _ listed fits

section Sorted

variable (bySize : sorted.Pairwise fun first second => utf16Length second.1 ≤ utf16Length first.1)

include bySize

/-- The names come by decreasing length, so the first that fits is the longest. -/
theorem isLongest_of_firstName
    (first : firstName toLowerCase sorted afterWord entry rest = some (name, value)) :
    IsLongest toLowerCase sorted afterWord (entry :: rest) 0 name value := by
  unfold firstName at first
  split at first
  next isSigil =>
    obtain ⟨named, longer, shorter, rfl, refused⟩ := List.find?_eq_some_iff_append.mp first
    refine ⟨standsAt_zero_iff.mpr ⟨isSigil, mem_append_right _ mem_cons_self, named⟩, ?_⟩
    intro other otherValue stands
    obtain ⟨-, listed, fits⟩ := standsAt_zero_iff.mp stands
    rcases mem_append.mp listed with isLonger | rest
    · have refusal := refused _ isLonger
      rw [fits] at refusal
      cases refusal
    · rcases mem_cons.mp rest with same | isShorter
      · exact (congrArg (utf16Length ·.1) same).le
      · exact rel_of_pairwise_cons (pairwise_append.mp bySize).2.1 isShorter
  next => cases first

/-- A match is the longest name at its place, and not in the characters to skip. -/
theorem isLongest_of_mem_scanFrom {marked : List (Char × Bool)} {skip position : Nat} {found : RoleMentionMatch α}
    (returned : found ∈ scanFrom toLowerCase sorted skip position afterWord marked) :
    ∃ offset name, skip ≤ offset ∧ found.start = position + offset ∧
      found.stop = position + offset + 1 + name.length ∧
      IsLongest toLowerCase sorted afterWord marked offset name found.value := by
  induction marked generalizing skip position afterWord with
  | nil => cases returned
  | cons entry rest ih =>
    have later {skip : Nat} (inRest : found ∈
        scanFrom toLowerCase sorted skip (position + 1) (isWordChar entry.1) rest) :
        ∃ offset name, skip + 1 ≤ offset ∧ found.start = position + offset ∧
          found.stop = position + offset + 1 + name.length ∧
          IsLongest toLowerCase sorted afterWord (entry :: rest) offset name found.value := by
      obtain ⟨offset, name, above, start, stop, isLongest⟩ := ih inRest
      exact ⟨offset + 1, name, Nat.succ_le_succ above, by omega, by omega, isLongest.succ⟩
    cases skip with
    | succ skip => exact later returned
    | zero =>
      rw [scanFrom_cons] at returned
      split at returned
      next name value first =>
        rcases mem_cons.mp returned with rfl | inRest
        · exact ⟨0, name, le_rfl, rfl, rfl, isLongest_of_firstName bySize first⟩
        obtain ⟨offset, other, -, rest⟩ := later inRest
        exact ⟨offset, other, Nat.zero_le _, rest⟩
      next =>
        obtain ⟨offset, other, -, rest⟩ := later returned
        exact ⟨offset, other, Nat.zero_le _, rest⟩

/-- A match is consumed before the next one starts. -/
theorem pairwise_scanFrom (marked : List (Char × Bool)) (skip position : Nat) :
    (scanFrom toLowerCase sorted skip position afterWord marked).Pairwise
      fun first second => first.stop ≤ second.start := by
  induction marked generalizing skip position afterWord with
  | nil => exact Pairwise.nil
  | cons entry rest ih =>
    cases skip with
    | succ skip => exact ih skip (position + 1)
    | zero =>
      rw [scanFrom_cons]
      split
      next name value first =>
        refine pairwise_cons.mpr ⟨fun second isLater => ?_, ih _ _⟩
        obtain ⟨offset, -, above, start, -⟩ := isLongest_of_mem_scanFrom bySize isLater
        change position + 1 + name.length ≤ second.start
        omega
      next => exact ih 0 (position + 1)

end Sorted

/-- A place where a name stands lies in a match. -/
theorem exists_match_of_standsAt {marked : List (Char × Bool)} {skip position : Nat}
    (above : skip ≤ offset)
    (stands : StandsAt toLowerCase sorted afterWord marked offset name value) :
    ∃ found ∈ scanFrom toLowerCase sorted skip position afterWord marked,
      found.start ≤ position + offset ∧ position + offset < found.stop := by
  induction marked generalizing skip position afterWord offset with
  | nil => cases stands.sigil
  | cons entry rest ih =>
    have later {skip offset : Nat} (above : skip ≤ offset) (stands :
        StandsAt toLowerCase sorted afterWord (entry :: rest) (offset + 1) name value) :
        ∃ found ∈ scanFrom toLowerCase sorted skip (position + 1) (isWordChar entry.1) rest,
          found.start ≤ position + (offset + 1) ∧ position + (offset + 1) < found.stop := by
      obtain ⟨found, returned, start, stop⟩ := ih above (standsAt_succ_iff.mp stands)
      exact ⟨found, returned, by omega, by omega⟩
    cases offset with
    | zero =>
      obtain rfl := Nat.le_zero.mp above
      rw [scanFrom_cons]
      split
      next => exact ⟨_, mem_cons_self, le_rfl, by dsimp only; omega⟩
      next none_ => exact absurd stands (not_standsAt_of_firstName none_)
    | succ offset =>
      cases skip with
      | succ skip => exact later (Nat.le_of_succ_le_succ above) stands
      | zero =>
        rw [scanFrom_cons]
        split
        next taken _ _ =>
          by_cases inside : offset < taken.length
          · exact ⟨_, mem_cons_self, by dsimp only; omega, by dsimp only; omega⟩
          obtain ⟨found, returned, within⟩ := later (Nat.not_lt.mp inside) stands
          exact ⟨found, mem_cons_of_mem _ returned, within⟩
        next => exact later (Nat.zero_le _) stands

end Scan

section Replace

variable {text : List Char}

/-- The loop of `replaceRoleTokens`, behind a position. -/
def spliceFrom (token : α → List Char) (raw : List Char) (cursor : Nat) :
    List (RoleMentionMatch α) → List Char
  | [] => raw.drop cursor
  | found :: rest =>
    (raw.take found.start).drop cursor ++ token found.value ++ spliceFrom token raw found.stop rest

def replaceRoleTokens (toLowerCase : List Char → List Char) (raw : List Char)
    (roleTokens : List (RoleMentionCandidate (List Char))) : List Char :=
  spliceFrom (fun roleId => "<@&".toList ++ roleId ++ ['>']) raw 0
    (scanRoleMentions toLowerCase raw roleTokens)

/-- Put a token in the place of a match. -/
def replaceMatch (token : α → List Char) (found : RoleMentionMatch α) (text : List Char) :
    List Char :=
  text.take found.start ++ token found.value ++ text.drop found.stop

/-- From left to right or from right to left, the text between the matches stays. -/
theorem spliceFrom_eq {token : α → List Char} {matches_ : List (RoleMentionMatch α)}
    (apart : matches_.Pairwise fun first second => first.stop ≤ second.start)
    (bounds : ∀ found ∈ matches_, found.start ≤ found.stop ∧ found.start ≤ text.length)
    {cursor : Nat} (before : ∀ found ∈ matches_, cursor ≤ found.start) :
    (matches_.foldr (replaceMatch token) text).take cursor = text.take cursor ∧
      spliceFrom token text cursor matches_ =
        (matches_.foldr (replaceMatch token) text).drop cursor := by
  induction matches_ generalizing cursor with
  | nil => exact ⟨rfl, rfl⟩
  | cons found rest ih =>
    obtain ⟨later, apartRest⟩ := pairwise_cons.mp apart
    obtain ⟨⟨order, inText⟩, restBounds⟩ := forall_mem_cons.mp bounds
    have kept := (ih apartRest restBounds fun other present => order.trans (later other present)).1
    have early : cursor ≤ found.start := before found mem_cons_self
    have length : cursor ≤ (text.take found.start).length := by
      rw [length_take]
      omega
    rw [foldr_cons, replaceMatch, kept, spliceFrom, (ih apartRest restBounds later).2,
      append_assoc, append_assoc, take_append_of_le_length length, take_take,
      Nat.min_eq_left early, drop_append_of_le_length length]
    exact ⟨rfl, rfl⟩

end Replace

/-- The matches are apart and in order, each the longest name at an `@` outside of code; no name
stands apart from them; and the tokens replace them, from right to left, and nothing else. -/
theorem role_scan_leftmost_longest (toLowerCase : List Char → List Char) (text : List Char)
    (candidates : List (RoleMentionCandidate α)) (token : α → List Char) :
    let sorted := sortCandidates candidates
    let marked := markCode .text true text
    let matches_ := scanRoleMentions toLowerCase text candidates
    matches_.Pairwise (fun first second => first.stop ≤ second.start) ∧
      (∀ found ∈ matches_, ∃ name, found.stop = found.start + 1 + name.length ∧
        IsLongest toLowerCase sorted false marked found.start name found.value) ∧
      (∀ position name value, StandsAt toLowerCase sorted false marked position name value →
        ∃ found ∈ matches_, found.start ≤ position ∧ position < found.stop) ∧
      spliceFrom token text 0 matches_ = matches_.foldr (replaceMatch token) text := by
  intro sorted marked matches_
  have bySize : sorted.Pairwise fun first second => utf16Length second.1 ≤ utf16Length first.1 :=
    pairwise_insertionSort _ _
  have longest : ∀ found ∈ matches_, ∃ name, found.stop = found.start + 1 + name.length ∧
      IsLongest toLowerCase sorted false marked found.start name found.value := by
    intro found returned
    obtain ⟨offset, name, -, start, stop, isLongest⟩ := isLongest_of_mem_scanFrom bySize returned
    obtain rfl : found.start = offset := start.trans (Nat.zero_add _)
    exact ⟨name, by omega, isLongest⟩
  have apart : matches_.Pairwise fun first second => first.stop ≤ second.start :=
    pairwise_scanFrom bySize marked 0 0
  refine ⟨apart, longest, fun position name value stands => ?_, ?_⟩
  · obtain ⟨found, returned, start, stop⟩ := exists_match_of_standsAt (Nat.zero_le _) stands
    exact ⟨found, returned, start.trans_eq (Nat.zero_add _), (Nat.zero_add _).symm.trans_lt stop⟩
  · refine (spliceFrom_eq apart (fun found returned => ?_) fun _ _ => Nat.zero_le _).2
    obtain ⟨name, stop, isLongest⟩ := longest found returned
    obtain ⟨inside, -⟩ := List.getElem?_eq_some_iff.mp isLongest.sigil
    rw [← length_map Prod.fst, map_fst_markCode] at inside
    exact ⟨by omega, inside.le⟩

end Bongtalk.Messages.Mentions
