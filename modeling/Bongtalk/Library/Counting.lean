import Mathlib.Algebra.GroupWithZero.Nat

/-!
# Counting computations

A computation counts what it makes, and fails beyond a limit. So what comes out of a
computation that does not fail is within the limit.
-/

namespace Library

/-- The count so far is the state. -/
abbrev Counting (ε α : Type) := StateT Nat (Except ε) α

namespace Counting

variable {ε α β : Type}

/-- Count one more, up to the limit. -/
def bump (limit : Nat) (exceeded : ε) : Counting ε Unit :=
  fun count => if limit < count + 1 then .error exceeded else .ok ((), count + 1)

variable {count next : Nat}

theorem bump_eq_ok {limit : Nat} {exceeded : ε} :
    bump limit exceeded count = .ok ((), next) ↔ next = count + 1 ∧ next ≤ limit := by
  unfold bump
  split
  next exceeds =>
    constructor
    · intro impossible
      cases impossible
    · rintro ⟨rfl, within⟩
      omega
  next within =>
    constructor
    · intro counted
      obtain rfl := (Prod.mk.inj (Except.ok.inj counted)).2
      exact ⟨rfl, by omega⟩
    · rintro ⟨rfl, -⟩
      rfl

theorem pure_eq_ok {value result : α} :
    (pure value : Counting ε α) count = .ok (result, next) ↔ value = result ∧ count = next := by
  constructor
  · intro same
    exact Prod.mk.inj (Except.ok.inj same)
  · rintro ⟨rfl, rfl⟩
    rfl

/-- A sequence of computations succeeds when each of them does. -/
theorem bind_eq_ok {first : Counting ε α} {rest : α → Counting ε β} {result : β} :
    (first >>= rest) count = .ok (result, next) ↔
      ∃ value middle, first count = .ok (value, middle) ∧ rest value middle = .ok (result, next) := by
  change (first count >>= fun made => rest made.1 made.2) = .ok (result, next) ↔ _
  cases first count with
  | error failure =>
    exact ⟨nofun, fun ⟨_, _, failed, _⟩ => (nomatch failed)⟩
  | ok made =>
    constructor
    · intro done
      exact ⟨made.1, made.2, rfl, done⟩
    · rintro ⟨value, middle, same, done⟩
      cases same
      exact done

theorem throw_ne_ok {failure : ε} {result : α} :
    (throw failure : Counting ε α) count ≠ .ok (result, next) :=
  nofun

/-- What is made is good, and was counted within the limit. -/
def Makes (limit : Nat) (size : α → Nat) (Good : α → Prop) (made : Counting ε α) : Prop :=
  ∀ count value next, made count = .ok (value, next) →
    Good value ∧ count + size value ≤ next ∧ (count ≤ limit → next ≤ limit)

section Makes

variable {limit : Nat} {size : α → Nat} {Good : α → Prop}

theorem makes_bump {exceeded : ε} :
    Makes limit (fun _ => 1) (fun _ => True) (bump limit exceeded) := by
  intro count value next counted
  obtain ⟨rfl, within⟩ := bump_eq_ok.mp counted
  exact ⟨trivial, Nat.le_refl _, fun _ => within⟩

theorem makes_pure {value : α} (good : Good value) (nothing : size value = 0) :
    Makes limit size Good (pure value : Counting ε α) := by
  intro count result next returned
  obtain ⟨rfl, rfl⟩ := pure_eq_ok.mp returned
  exact ⟨good, by omega, id⟩

theorem makes_throw {failure : ε} : Makes limit size Good (throw failure : Counting ε α) :=
  fun _ _ _ impossible => absurd impossible throw_ne_ok

/-- Two computations make what they make together. -/
theorem makes_bind {firstSize : β → Nat} {FirstGood : β → Prop} {restSize : β → α → Nat}
    {first : Counting ε β} {rest : β → Counting ε α}
    (makes : Makes limit firstSize FirstGood first)
    (continues : ∀ value, FirstGood value → Makes limit (restSize value) Good (rest value))
    (together : ∀ value result, size result ≤ firstSize value + restSize value result) :
    Makes limit size Good (first >>= rest) := by
  intro count result next returned
  obtain ⟨value, middle, firstOk, restOk⟩ := bind_eq_ok.mp returned
  obtain ⟨good, counted, within⟩ := makes count value middle firstOk
  obtain ⟨goodResult, alsoCounted, alsoWithin⟩ := continues value good middle result next restOk
  have both := together value result
  exact ⟨goodResult, by omega, fun start => alsoWithin (within start)⟩

/-- What is made may be put into something that is no larger. -/
theorem makes_map {whole : β → Nat} {Fits : β → Prop} {made : Counting ε α} {into : α → β}
    (makes : Makes limit size Good made) (fits : ∀ value, Good value → Fits (into value))
    (larger : ∀ value, whole (into value) ≤ size value) :
    Makes limit whole Fits (made >>= fun value => pure (into value)) := by
  intro count result next returned
  obtain ⟨value, middle, madeOk, last⟩ := bind_eq_ok.mp returned
  obtain ⟨rfl, rfl⟩ := pure_eq_ok.mp last
  obtain ⟨good, counted, within⟩ := makes count value middle madeOk
  have enough := larger value
  exact ⟨fits value good, by omega, within⟩

end Makes

/-- A computation for each entry of a list makes the sum. -/
theorem makes_mapM {γ : Type} {limit : Nat} {size : α → Nat} {Good : α → Prop}
    {step : γ → Counting ε α} (entries : List γ)
    (makes : ∀ entry ∈ entries, Makes limit size Good (step entry)) :
    Makes limit (fun results => (results.map size).sum) (fun results => ∀ result ∈ results, Good result)
      (entries.mapM step) := by
  induction entries with
  | nil => exact makes_pure nofun rfl
  | cons entry entries ih =>
    obtain ⟨makesFirst, makesRest⟩ := List.forall_mem_cons.mp makes
    intro count results next mapped
    rw [List.mapM_cons] at mapped
    obtain ⟨first, middle, firstOk, restOk⟩ := bind_eq_ok.mp mapped
    obtain ⟨rest, last, restMapped, returned⟩ := bind_eq_ok.mp restOk
    obtain ⟨rfl, rfl⟩ := pure_eq_ok.mp returned
    obtain ⟨good, counted, within⟩ := makesFirst count first middle firstOk
    obtain ⟨restGood, restCounted, restWithin⟩ :=
      ih makesRest middle rest last restMapped
    refine ⟨List.forall_mem_cons.mpr ⟨good, restGood⟩, ?_, fun start => restWithin (within start)⟩
    dsimp only at restCounted ⊢
    rw [List.map_cons, List.sum_cons]
    omega

end Counting

end Library
