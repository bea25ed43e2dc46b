import Spreadsheet.Value.Basic

/-!
Moments with an offset inside of values. Operators and functions have no serial number for them, and
what is put together from values has such a moment only if one of its parts does.
-/

namespace Spreadsheet.Value

/-- A moment with an offset, or a list with such a moment in it. -/
inductive Zoned : Value → Prop where
  /-- The moment itself. -/
  | moment {m : Moment} (offset : m.offset.isSome = true) : Zoned (.moment m)
  /-- A list with an item that is or has such a moment. -/
  | item {v : Value} {items : List Value} (member : v ∈ items) (inside : v.Zoned) :
    Zoned (.list items)

/-- A value has a moment with an offset in it only where `zoned` says that there is one. -/
abbrev Told (zoned : Prop) (v : Value) : Prop := v.Zoned → zoned

variable {zoned : Prop} {v : Value} {vs : List Value}

/-- A list has such a moment only if an item has one. -/
theorem told_list (told : ∀ v ∈ vs, v.Told zoned) : (list vs).Told zoned := by
  -- The list itself is no moment.
  rintro (- | ⟨member, inside⟩)
  exact told _ member inside

/-- Values are put under one place one by one. -/
theorem allUnder_eq_map (place : Nat) (vs : List Value) : allUnder place vs = vs.map (under place) := by
  -- The definition maps along the list by itself.
  induction vs with
  | nil => rw [allUnder, List.map_nil]
  | cons v rest ih => rw [allUnder, ih, List.map_cons]

/-- The place of a value does not matter to the moments in it. -/
theorem Zoned.of_under {place : Nat} (inside : (v.under place).Zoned) : v.Zoned := by
  -- The induction is on where the moment stands: lists pass the place on, and a moment has none.
  generalize moved : v.under place = u at inside
  induction inside generalizing v with
  | moment offset =>
    -- What was moved to a moment is that moment.
    cases v with
    | moment m =>
      cases moved
      exact .moment offset
    | foreign f => cases f <;> simp [under] at moved
    | _ => simp [under] at moved
  | item member _ ih =>
    -- What was moved to a list is a list, with every item moved.
    cases v with
    | list items =>
      simp only [under, list.injEq] at moved
      rw [← moved, allUnder_eq_map] at member
      obtain ⟨item, held, same⟩ := List.mem_map.mp member
      exact .item held (ih same)
    | foreign f => cases f <;> simp [under] at moved
    | _ => simp [under] at moved

/-- Keeping values apart brings no moment into them. -/
theorem told_apart (told : ∀ v ∈ vs, v.Told zoned) : ∀ v ∈ apart vs, v.Told zoned := by
  intro v member inside
  -- Each value is put under its own place, and nothing else changes.
  obtain ⟨place, within, rfl⟩ := List.mem_mapIdx.mp member
  exact told _ (List.getElem_mem within) inside.of_under

mutual
/-- A moment among the leaves of a value is in the value. -/
theorem Zoned.of_leaf {leaf : Value} (v : Value) (member : leaf ∈ v.leaves) (inside : leaf.Zoned) :
    v.Zoned := by
  -- Only lists have leaves other than themselves.
  match v with
  | list items =>
    rw [leaves] at member
    obtain ⟨item, held, inside⟩ := exists_zoned_of_leaf items member inside
    exact .item held inside
  | blank | truth _ | number _ | text _ | moment _ | day _ | foreign _ =>
    rw [leaves, List.mem_singleton] at member
    · exact member ▸ inside
    · exact nofun

/-- A moment among the leaves of some values is in one of them. -/
theorem exists_zoned_of_leaf {leaf : Value} (vs : List Value) (member : leaf ∈ leavesOfAll vs)
    (inside : leaf.Zoned) : ∃ v ∈ vs, v.Zoned := by
  -- The leaves of a list are those of its items, one item after the other.
  match vs with
  | [] => simp [leavesOfAll] at member
  | v :: rest =>
    rw [leavesOfAll, List.mem_append] at member
    rcases member with here | later
    · exact ⟨v, List.mem_cons_self, .of_leaf v here inside⟩
    · obtain ⟨w, held, inside⟩ := exists_zoned_of_leaf rest later inside
      exact ⟨w, List.mem_cons_of_mem v held, inside⟩
end

/-- Laying lists out brings no moment into the leaves. -/
theorem told_leaves (told : ∀ v ∈ vs, v.Told zoned) : ∀ v ∈ leavesOfAll vs, v.Told zoned := by
  intro leaf member inside
  -- The leaf belongs to one of the values.
  obtain ⟨v, held, inside⟩ := exists_zoned_of_leaf vs member inside
  exact told v held inside

end Spreadsheet.Value
