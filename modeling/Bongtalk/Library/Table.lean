import Mathlib.Data.List.Nodup
/-!
# Tables with a unique key

A table is a list of rows no two of which share a key. An insert that would repeat
a key fails; every other write keeps the keys apart, so a lookup by key
finds the only row there is.
-/

namespace Library

open List Function

universe u v w x

/-- Keeping the first of equal entries leaves no two of them. -/
theorem nodup_eraseDups {α : Type u} [DecidableEq α] (entries : List α) :
    entries.eraseDups.Nodup := by
  induction length : entries.length using Nat.strongRecOn generalizing entries with
  | ind size ih =>
    cases entries with
    | nil => simp
    | cons first rest =>
      have shorter : (rest.filter fun other => !other == first).length < size := by
        have filtered := length_filter_le (fun other => !other == first) rest
        simp only [length_cons] at length
        omega
      rw [eraseDups_cons, nodup_cons]
      refine ⟨?_, ih _ shorter _ rfl⟩
      simp [mem_eraseDups]

/-- Lists without repetitions that are related entry by entry are related by a function. -/
theorem exists_map_of_forall₂ {α : Type u} [DecidableEq α] {Related : α → α → Prop}
    (reflexive : ∀ entry, Related entry entry) {first second : List α} (nodup : first.Nodup)
    (related : Forall₂ Related first second) :
    ∃ change, second = first.map change ∧ ∀ entry, Related entry (change entry) := by
  induction related with
  | nil => exact ⟨id, rfl, reflexive⟩
  | @cons entry other first second head _ ih =>
    obtain ⟨fresh, restNodup⟩ := nodup_cons.mp nodup
    obtain ⟨change, rfl, changed⟩ := ih restNodup
    refine ⟨update change entry other, ?_, fun candidate => ?_⟩
    · rw [map_cons, update_self]
      refine congrArg (other :: ·) (map_congr_left fun old present => ?_)
      have different : old ≠ entry := by
        rintro rfl
        exact fresh present
      exact (update_of_ne different _ _).symm
    · by_cases same : candidate = entry
      · rw [same, update_self]
        exact head
      · rw [update_of_ne same]
        exact changed candidate

/-- Rows with pairwise different keys. -/
structure Table (ρ : Type u) {κ : Type v} (key : ρ → κ) where
  rows : List ρ
  keysNodup : (rows.map key).Nodup

namespace Table

variable {ρ : Type u} {κ : Type v} {key : ρ → κ}

instance : Membership ρ (Table ρ key) where
  mem table row := row ∈ table.rows

variable {table : Table ρ key}

theorem mem_def {row : ρ} : row ∈ table ↔ row ∈ table.rows :=
  Iff.rfl

/-- The table without rows. -/
def empty : Table ρ key where
  rows := []
  keysNodup := nodup_nil

/-- The table of one row. -/
def single (row : ρ) : Table ρ key where
  rows := [row]
  keysNodup := nodup_singleton _

theorem mem_single {row other : ρ} : other ∈ (single row : Table ρ key) ↔ other = row :=
  mem_singleton

/-- Two rows of a table with the same key are the same row. -/
theorem eq_of_key_eq {first second : ρ} (firstMem : first ∈ table) (secondMem : second ∈ table)
    (same : key first = key second) : first = second :=
  inj_on_of_nodup_map table.keysNodup firstMem secondMem same

/-- The rows that satisfy a condition. -/
def findMany (table : Table ρ key) (condition : ρ → Bool) : List ρ :=
  table.rows.filter condition

@[simp]
theorem mem_findMany {condition : ρ → Bool} {row : ρ} :
    row ∈ table.findMany condition ↔ row ∈ table ∧ condition row = true :=
  mem_filter

/-- Delete every row that satisfies a condition. -/
def deleteMany (table : Table ρ key) (condition : ρ → Bool) : Table ρ key where
  rows := table.rows.filter fun row => !condition row
  keysNodup := table.keysNodup.sublist (filter_sublist.map key)

@[simp]
theorem mem_deleteMany {condition : ρ → Bool} {row : ρ} :
    row ∈ table.deleteMany condition ↔ row ∈ table ∧ condition row = false := by
  simp [deleteMany, mem_def, mem_filter]

/-- Rewrite every row by a function that leaves its key alone. -/
def rewrite (table : Table ρ key) (change : ρ → ρ) (keeps : ∀ row, key (change row) = key row) :
    Table ρ key where
  rows := table.rows.map change
  keysNodup := by
    have sameKeys : (table.rows.map change).map key = table.rows.map key := by
      rw [map_map]
      exact map_congr_left fun row _ => keeps row
    rw [sameKeys]
    exact table.keysNodup

@[simp]
theorem mem_rewrite {change : ρ → ρ} {keeps : ∀ row, key (change row) = key row} {row : ρ} :
    row ∈ table.rewrite change keeps ↔ ∃ old ∈ table, change old = row :=
  mem_map

/-- Rows of another kind, one for each row and with keys of their own. -/
def image {σ : Type w} {ι : Type x} {newKey : σ → ι} (table : Table ρ key) (change : ρ → σ)
    (renamed : κ → ι) (injective : Function.Injective renamed)
    (keyed : ∀ row, newKey (change row) = renamed (key row)) : Table σ newKey where
  rows := table.rows.map change
  keysNodup := by
    have newKeys : (table.rows.map change).map newKey = (table.rows.map key).map renamed := by
      rw [map_map, map_map]
      exact map_congr_left fun row _ => keyed row
    rw [newKeys]
    exact table.keysNodup.map injective

section Keyed

variable [DecidableEq κ]

/-- The row with a given key. -/
def findUnique (table : Table ρ key) (wanted : κ) : Option ρ :=
  table.rows.find? fun row => key row = wanted

variable {table : Table ρ key} {row : ρ}

variable {wanted : κ}

theorem mem_of_findUnique (found : table.findUnique wanted = some row) :
    row ∈ table ∧ key row = wanted := by
  have keyed := List.find?_some found
  exact ⟨mem_of_find?_eq_some found, of_decide_eq_true keyed⟩

/-- A lookup finds exactly the row that is in the table under that key. -/
theorem findUnique_eq_some_iff :
    table.findUnique wanted = some row ↔ row ∈ table ∧ key row = wanted := by
  constructor
  · exact mem_of_findUnique
  · rintro ⟨present, keyed⟩
    have isSome : (table.findUnique wanted).isSome = true := by
      rw [findUnique, List.find?_isSome]
      exact ⟨row, present, by simpa using keyed⟩
    obtain ⟨found, foundEq⟩ := Option.isSome_iff_exists.mp isSome
    have foundRow := mem_of_findUnique foundEq
    have same : found = row := eq_of_key_eq foundRow.1 present (foundRow.2.trans keyed.symm)
    rw [foundEq, same]

theorem findUnique_of_mem (present : row ∈ table) : table.findUnique (key row) = some row :=
  findUnique_eq_some_iff.mpr ⟨present, rfl⟩

theorem findUnique_eq_none_iff :
    table.findUnique wanted = none ↔ ∀ row ∈ table, key row ≠ wanted := by
  rw [findUnique, List.find?_eq_none]
  simp [mem_def]

/-- Insert a row whose key no row has; a repeated key is refused. -/
def insert? (table : Table ρ key) (row : ρ) : Option (Table ρ key) :=
  if repeated : key row ∈ table.rows.map key then none
  else some { rows := row :: table.rows, keysNodup := nodup_cons.mpr ⟨repeated, table.keysNodup⟩ }

/-- An insert succeeds exactly when the key is new, and then adds the one row. -/
theorem insert?_eq_some_iff {table next : Table ρ key} :
    table.insert? row = some next ↔
      (∀ old ∈ table, key old ≠ key row) ∧ next.rows = row :: table.rows := by
  rcases next with ⟨nextRows, nextNodup⟩
  unfold insert?
  split
  next repeated =>
    obtain ⟨old, present, same⟩ := mem_map.mp repeated
    simp only [reduceCtorEq, false_iff, not_and]
    intro fresh
    exact absurd same (fresh old present)
  next fresh =>
    simp only [Option.some.injEq, mk.injEq, eq_comm (a := row :: table.rows)]
    constructor
    · rintro equal
      refine ⟨fun old present same => fresh ?_, equal⟩
      exact mem_map.mpr ⟨old, present, same⟩
    · exact And.right

theorem mem_insert? {table next : Table ρ key} {row other : ρ}
    (inserted : table.insert? row = some next) :
    other ∈ next ↔ other = row ∨ other ∈ table := by
  have rowsEq := (insert?_eq_some_iff.mp inserted).2
  rw [mem_def, rowsEq, mem_cons, mem_def]

theorem insert?_eq_none_iff : table.insert? row = none ↔ ∃ old ∈ table, key old = key row := by
  unfold insert?
  split
  next repeated =>
    obtain ⟨old, present, same⟩ := mem_map.mp repeated
    exact ⟨fun _ => ⟨old, present, same⟩, fun _ => rfl⟩
  next fresh =>
    simp only [reduceCtorEq, false_iff, not_exists, not_and]
    intro old present same
    exact fresh (mem_map.mpr ⟨old, present, same⟩)

/-- Insert rows one after the other; a repeated key refuses them all. -/
def insertAll? (table : Table ρ key) : List ρ → Option (Table ρ key)
  | [] => some table
  | row :: rest => (table.insert? row).bind fun next => next.insertAll? rest

variable {rows : List ρ}

theorem mem_insertAll? {table next : Table ρ key} (inserted : table.insertAll? rows = some next) :
    row ∈ next ↔ row ∈ rows ∨ row ∈ table := by
  induction rows generalizing table with
  | nil =>
    cases inserted
    simp
  | cons first rest ih =>
    obtain ⟨middle, insertedFirst, insertedRest⟩ := Option.bind_eq_some_iff.mp inserted
    rw [ih insertedRest, mem_insert? insertedFirst, mem_cons, or_assoc, or_left_comm]

/-- Insert the rows whose key is free, one after the other; return those that were inserted. -/
def insertMissing (table : Table ρ key) : List ρ → Table ρ key × List ρ
  | [] => (table, [])
  | row :: rest =>
    match table.insert? row with
    | none => table.insertMissing rest
    | some next => ((next.insertMissing rest).1, row :: (next.insertMissing rest).2)

/-- A table holds what it held and what was inserted. -/
theorem mem_insertMissing :
    row ∈ (table.insertMissing rows).1 ↔ row ∈ table ∨ row ∈ (table.insertMissing rows).2 := by
  induction rows generalizing table with
  | nil => simp [insertMissing]
  | cons first rest ih =>
    rw [insertMissing]
    split
    next => exact ih
    next next inserted =>
      rw [ih, mem_insert? inserted, mem_cons, or_assoc, or_left_comm]

/-- An inserted row is one of the given rows, and its key was free. -/
theorem inserted_of_mem (inserted : row ∈ (table.insertMissing rows).2) :
    row ∈ rows ∧ ∀ old ∈ table, key old ≠ key row := by
  induction rows generalizing table with
  | nil => cases inserted
  | cons first rest ih =>
    rw [insertMissing] at inserted
    split at inserted
    next =>
      obtain ⟨given, free⟩ := ih inserted
      exact ⟨mem_cons_of_mem _ given, free⟩
    next next insertedFirst =>
      rcases mem_cons.mp inserted with rfl | inRest
      · exact ⟨mem_cons_self, (insert?_eq_some_iff.mp insertedFirst).1⟩
      obtain ⟨given, free⟩ := ih inRest
      refine ⟨mem_cons_of_mem _ given, fun old oldMem => ?_⟩
      exact free old ((mem_insert? insertedFirst).mpr (.inr oldMem))

/-- A given row whose key is free gets its key inserted. -/
theorem exists_inserted (given : row ∈ rows) (free : ∀ old ∈ table, key old ≠ key row) :
    ∃ other ∈ (table.insertMissing rows).2, key other = key row := by
  induction rows generalizing table with
  | nil => cases given
  | cons first rest ih =>
    rw [insertMissing]
    split
    next refused =>
      obtain ⟨old, oldMem, same⟩ := insert?_eq_none_iff.mp refused
      rcases mem_cons.mp given with rfl | inRest
      · exact absurd same (free old oldMem)
      · exact ih inRest free
    next next inserted =>
      by_cases sameKey : key first = key row
      · exact ⟨first, mem_cons_self, sameKey⟩
      have inRest : row ∈ rest := by
        rcases mem_cons.mp given with rfl | inRest
        · exact absurd rfl sameKey
        · exact inRest
      have stillFree : ∀ old ∈ next, key old ≠ key row := by
        intro old oldMem
        rcases (mem_insert? inserted).mp oldMem with rfl | before
        · exact sameKey
        · exact free old before
      obtain ⟨other, otherMem, same⟩ := ih inRest stillFree
      exact ⟨other, mem_cons_of_mem _ otherMem, same⟩

/-- No two inserted rows share a key. -/
theorem nodup_inserted (table : Table ρ key) (rows : List ρ) :
    ((table.insertMissing rows).2.map key).Nodup := by
  induction rows generalizing table with
  | nil => exact nodup_nil
  | cons first rest ih =>
    rw [insertMissing]
    split
    next => exact ih table
    next next inserted =>
      refine nodup_cons.mpr ⟨?_, ih next⟩
      intro repeated
      obtain ⟨other, otherMem, same⟩ := mem_map.mp repeated
      have free := (inserted_of_mem otherMem).2 first ((mem_insert? inserted).mpr (.inl rfl))
      exact free same.symm

/-- Put a row in the place of whatever row has its key. -/
def upsert (table : Table ρ key) (row : ρ) : Table ρ key where
  rows := row :: table.rows.filter fun old => !decide (key old = key row)
  keysNodup := by
    refine nodup_cons.mpr ⟨?_, table.keysNodup.sublist (filter_sublist.map key)⟩
    intro repeated
    obtain ⟨old, kept, same⟩ := mem_map.mp repeated
    simp [same] at kept

@[simp]
theorem mem_upsert {row other : ρ} :
    other ∈ table.upsert row ↔ other = row ∨ other ∈ table ∧ key other ≠ key row := by
  simp [upsert, mem_def]

/-- Putting a row in leaves the lookups of other keys alone. -/
theorem findUnique_upsert (wanted : κ) : (table.upsert row).findUnique wanted =
    if key row = wanted then some row else table.findUnique wanted := by
  split
  next same => exact findUnique_eq_some_iff.mpr ⟨mem_upsert.mpr (.inl rfl), same⟩
  next different =>
    apply Option.ext
    intro found
    rw [findUnique_eq_some_iff, findUnique_eq_some_iff, mem_upsert]
    constructor
    · rintro ⟨rfl | ⟨present, -⟩, keyed⟩
      · exact absurd keyed different
      · exact ⟨present, keyed⟩
    · rintro ⟨present, rfl⟩
      exact ⟨.inr ⟨present, fun same => different same.symm⟩, rfl⟩

/-- A rewritten row is found where it was. -/
theorem findUnique_rewrite {change : ρ → ρ} {keeps : ∀ row, key (change row) = key row} :
    (table.rewrite change keeps).findUnique wanted = (table.findUnique wanted).map change := by
  rw [findUnique, findUnique, rewrite, List.find?_map]
  congr 2
  funext row
  rw [comp_apply, keeps row]

/-- Change the row under a key. -/
def update (table : Table ρ key) (wanted : κ) (change : ρ → ρ)
    (keeps : ∀ row, key (change row) = key row) : Table ρ key :=
  table.rewrite (fun row => if key row = wanted then change row else row) fun row => by
    split
    · exact keeps row
    · rfl

theorem mem_update {change : ρ → ρ} {keeps : ∀ row, key (change row) = key row} :
    row ∈ table.update wanted change keeps ↔
      ∃ old ∈ table, (if key old = wanted then change old else old) = row :=
  mem_rewrite

/-- Rewriting the one row under a key changes a count by that row alone. -/
theorem countP_map_at (keysNodup : (rows.map key).Nodup) (present : row ∈ rows) (change : ρ → ρ)
    (counted : ρ → Bool) :
    (rows.map fun old => if key old = key row then change old else old).countP counted +
        (if counted row then 1 else 0) =
      rows.countP counted + (if counted (change row) then 1 else 0) := by
  induction rows with
  | nil => cases present
  | cons head rows ih =>
    obtain ⟨headFresh, restNodup⟩ := nodup_cons.mp keysNodup
    simp only [map_cons, countP_cons]
    rcases mem_cons.mp present with rfl | inRest
    · -- No later row has the key, so the rest stays as it is.
      have restSame : rows.map (fun old => if key old = key row then change old else old) =
          rows := by
        calc
          _ = rows.map id := by
            refine map_congr_left fun old inRest => if_neg ?_
            intro same
            exact headFresh (same ▸ mem_map_of_mem inRest)
          _ = rows := map_id rows
      rw [restSame, if_pos rfl]
      omega
    · have otherKey : key head ≠ key row := by
        intro same
        exact headFresh (same ▸ mem_map_of_mem inRest)
      have rest := ih restNodup inRest
      rw [if_neg otherKey]
      omega

end Keyed

end Table

end Library
