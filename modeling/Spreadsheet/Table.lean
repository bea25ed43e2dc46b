/-! Tables: keys and their values, in the order in which the keys came. -/

namespace Spreadsheet

/-- Keys with their values; no key comes twice. -/
structure Table (α β : Type) where
  rows : List (α × β)
  deriving Inhabited

namespace Table

variable {α β : Type} [DecidableEq α]

/-- A table without keys. -/
def empty : Table α β := ⟨[]⟩

/-- The value of a key. -/
def get? (table : Table α β) (key : α) : Option β := table.rows.lookup key

/-- Gives a key a value in some rows. -/
def putRow (key : α) (value : β) : List (α × β) → List (α × β)
  -- A key that is there already keeps its place, a new one goes to the end.
  | [] => [(key, value)]
  | row :: rest => if key = row.1 then (key, value) :: rest else row :: putRow key value rest

/-- Gives a key a value, in place of any other. -/
def put (table : Table α β) (key : α) (value : β) : Table α β := ⟨putRow key value table.rows⟩

/-- Removes a key with its value. -/
def erase (table : Table α β) (key : α) : Table α β := ⟨table.rows.filter (·.1 ≠ key)⟩

/-- A table of pairs, in which a later pair replaces one with the same key. -/
def ofList (pairs : List (α × β)) : Table α β :=
  -- Pair by pair.
  pairs.foldl (fun table (key, value) => table.put key value) empty

/-- The keys in their order. -/
def keys (table : Table α β) : List α := table.rows.map (·.1)

/-- The number of keys. -/
def size (table : Table α β) : Nat := table.rows.length

/-- No key of an empty table has a value. -/
@[simp] theorem get?_empty (key : α) : (empty : Table α β).get? key = none := rfl

/-- Putting a key changes the value of that key and of no other. -/
theorem get?_put (table : Table α β) (key other : α) (value : β) :
    (table.put key value).get? other = if other = key then some value else table.get? other := by
  -- The rows are passed until the key is met.
  obtain ⟨rows⟩ := table
  simp only [put, get?]
  induction rows with
  | nil =>
    by_cases same : other = key
    · simp [putRow, same]
    · simp [putRow, List.lookup_cons, same, beq_eq_false_iff_ne.mpr same]
  | cons row rest ih =>
    obtain ⟨k, v⟩ := row
    simp only [putRow]
    split
    · rename_i met
      subst met
      by_cases same : other = key
      · simp [same]
      · simp [List.lookup_cons, same, beq_eq_false_iff_ne.mpr same]
    · rename_i passed
      by_cases here : other = k
      · subst here
        simp [Ne.symm passed]
      · simp [List.lookup_cons, beq_eq_false_iff_ne.mpr here, ih]

/-- Removing a key takes the value of that key and of no other. -/
theorem get?_erase (table : Table α β) (key other : α) :
    (table.erase key).get? other = if other = key then none else table.get? other := by
  -- Every row of the key goes, every other row stays.
  obtain ⟨rows⟩ := table
  simp only [erase, get?]
  induction rows with
  | nil => simp
  | cons row rest ih =>
    obtain ⟨k, v⟩ := row
    by_cases met : k = key
    · rw [List.filter_cons_of_neg (by simp [met]), ih]
      by_cases same : other = key
      · simp [same]
      · simp [List.lookup_cons, same, met, beq_eq_false_iff_ne.mpr same]
    · rw [List.filter_cons_of_pos (by simp [met])]
      by_cases here : other = k
      · simp [here, met]
      · simp only [List.lookup_cons, beq_eq_false_iff_ne.mpr here]
        exact ih

/-- A key that has a value is one of the keys. -/
theorem mem_keys_of_get? {table : Table α β} {key : α} {value : β}
    (here : table.get? key = some value) : key ∈ table.keys := by
  obtain ⟨early, late, split, -⟩ := List.lookup_eq_some_iff.mp here
  exact List.mem_map.mpr ⟨(key, value), by simp [split], rfl⟩

end Table
end Spreadsheet
