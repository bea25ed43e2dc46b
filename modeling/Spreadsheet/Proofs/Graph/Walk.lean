import Spreadsheet.Proofs.Graph.Search

/-!
The depth-first searches step by step, with a stack of the cells a walk is in and no bound on the
number of steps. With enough room the recursive searches take exactly these steps, so the walks end.
-/

namespace Spreadsheet.Search

/-- A walk on its way: where it has been, where it is, and from where it has still to set out. -/
structure Walk where
  trail : Trail
  /-- The cells that the walk is in, the last one entered first, each with what is still ahead of it. -/
  stack : List (CellId × List CellId)
  roots : List CellId

namespace Walk

variable {next : CellId → List CellId}

/-- A walk that has not set out yet. -/
def start (roots : List CellId) : Walk := ⟨⟨∅, []⟩, [], roots⟩

/-- The cells that a walk is in, the last one entered first. -/
def path (walk : Walk) : List CellId := walk.stack.map Prod.fst

/-- Enters a cell, with everything that follows it ahead. -/
def enter (next : CellId → List CellId) (walk : Walk) (id : CellId) : Walk :=
  -- The cell counts as seen from then on.
  { walk with
    trail := { walk.trail with seen := walk.trail.seen.insert id }
    stack := (id, next id) :: walk.stack }

/-- Enters a cell unless it was seen before. -/
def look (next : CellId → List CellId) (walk : Walk) (id : CellId) : Walk :=
  -- A cell is never entered twice.
  if id ∈ walk.trail.seen then walk else walk.enter next id

/-- The next step of a walk, none if it is over. -/
def step? (next : CellId → List CellId) : Walk → Option Walk
  | ⟨_, [], []⟩ => none
  | ⟨trail, [], root :: roots⟩ => some (look next ⟨trail, [], roots⟩ root)
  -- A cell with nothing ahead of it is left.
  | ⟨trail, (id, []) :: stack, roots⟩ =>
    some ⟨{ trail with left := id :: trail.left }, stack, roots⟩
  | ⟨trail, (id, child :: ahead) :: stack, roots⟩ =>
    some (look next ⟨trail, (id, ahead) :: stack, roots⟩ child)

/-- The cycle that the next cell ahead closes, if the walk is already in that cell. -/
def closes? (walk : Walk) : Option (List CellId) :=
  -- Nothing is closed where a cell is left or a walk sets out.
  match walk.stack with
  | (_, child :: _) :: _ => if child ∈ walk.path then some (closedAt walk.path child) else none
  | _ => none

/-- The next step of a walk that stops at the first cycle. -/
def seek? (next : CellId → List CellId) (walk : Walk) : Option Walk :=
  -- The path is looked at before the cells that were seen.
  if walk.closes?.isSome then none else walk.step? next

/-- Finitely many steps lead from one walk to another one, from which there is no step. -/
inductive Ends (step? : Walk → Option Walk) : Walk → Walk → Prop
  | stop {walk : Walk} (finished : step? walk = none) : Ends step? walk walk
  | step {walk more last : Walk} (steps : step? walk = some more) (onwards : Ends step? more last) :
    Ends step? walk last

/-- A walk that looks for a cycle ends, and closes this one when it does. -/
def Seeks (next : CellId → List CellId) (walk : Walk) (cycle : Option (List CellId)) : Prop :=
  -- There is none to report when every cell was left.
  ∃ last, Ends (seek? next) walk last ∧ last.closes? = cycle

section Ending

variable {room : Nat} {trail : Trail} {stack : List (CellId × List CellId)} {roots : List CellId}
  {last : Walk} {id : CellId}

/-- A walk that has the cells ahead of it visited one after the other ends if it does so after them. -/
theorem ends_ahead {ahead : List CellId}
    (enters : ∀ trail stack child, Roomy next room trail.seen → child ∉ trail.seen →
      Ends (step? next) ⟨visit next room trail child, stack, roots⟩ last →
      Ends (step? next) (enter next ⟨trail, stack, roots⟩ child) last)
    (enough : ahead ≠ [] → Roomy next room trail.seen)
    (onwards : Ends (step? next) ⟨{ ahead.foldl (visit next room) trail with
      left := id :: (ahead.foldl (visit next room) trail).left }, stack, roots⟩ last) :
    Ends (step? next) ⟨trail, (id, ahead) :: stack, roots⟩ last := by
  -- The induction is along the cells ahead; with none of them left the walk leaves the cell.
  induction ahead generalizing trail with
  | nil => exact .step rfl onwards
  | cons child rest ih =>
    have fits := enough (List.cons_ne_nil _ _)
    have later : Ends (step? next) ⟨visit next room trail child, (id, rest) :: stack, roots⟩ last :=
      ih (fun _ => fits.mono (visit_extends next room trail child).grows) onwards
    refine .step rfl ?_
    -- A cell that was seen before is passed, and visiting it changes nothing either.
    unfold look
    split
    · rename_i seen
      rwa [visit_of_seen seen] at later
    · rename_i unseen
      exact enters trail ((id, rest) :: stack) child fits unseen later

/-- A walk that enters a cell ends if it does so after the visit of that cell. -/
theorem ends_enter (enough : Roomy next room trail.seen) (unseen : id ∉ trail.seen)
    (onwards : Ends (step? next) ⟨visit next room trail id, stack, roots⟩ last) :
    Ends (step? next) (enter next ⟨trail, stack, roots⟩ id) last := by
  -- The induction is on the room, which each cell that is entered takes one of.
  induction room generalizing trail stack id with
  | zero => exact absurd enough (by simp [Roomy])
  | succ room ih =>
    rw [visit, if_neg unseen] at onwards
    -- The cells that follow are visited with less room, which is enough if there are any.
    exact ends_ahead (fun _ _ _ => ih) (enough.enter unseen) onwards

/-- With enough room, a walk from some cells ends in the trail of their visits. -/
theorem ends_start (enough : Roomy next room ∅) (roots : List CellId) :
    Ends (step? next) (start roots) ⟨roots.foldl (visit next room) ⟨∅, []⟩, [], []⟩ := by
  -- Before the walk sets out nothing has been seen, and seeing more leaves more room.
  have fits : ∀ trail : Trail, Roomy next room trail.seen := fun trail =>
    enough.mono fun x old => absurd old (by simp)
  unfold start
  generalize (⟨∅, []⟩ : Trail) = trail
  induction roots generalizing trail with
  | nil => exact .stop rfl
  | cons root rest ih =>
    refine .step rfl ?_
    unfold look
    split
    · rename_i seen
      rw [List.foldl_cons, visit_of_seen seen]
      exact ih trail
    · rename_i unseen
      exact ends_enter (fits trail) unseen (ih _)

end Ending

section Seeking

variable {room : Nat} {trail : Trail} {stack : List (CellId × List CellId)} {roots : List CellId}
  {id : CellId} {cycle : Option (List CellId)}

/-- A walk that closes nothing looks on after its next step. -/
theorem Seeks.step {walk more : Walk} (passes : walk.closes? = none)
    (steps : walk.step? next = some more) (onwards : Seeks next more cycle) :
    Seeks next walk cycle := by
  -- The step is one of the search too, as nothing is closed here.
  obtain ⟨last, ends, closed⟩ := onwards
  exact ⟨last, .step (by simp [seek?, passes, steps]) ends, closed⟩

/-- A walk that is already in the next cell ahead reports the cycle that the cell closes. -/
theorem Seeks.stop {child : CellId} {ahead : List CellId} (inside : child ∈ id :: stack.map Prod.fst) :
    Seeks next ⟨trail, (id, child :: ahead) :: stack, roots⟩
      (some (closedAt (id :: stack.map Prod.fst) child)) := by
  -- The cell ahead is on the path.
  have closed : closes? ⟨trail, (id, child :: ahead) :: stack, roots⟩ =
      some (closedAt (id :: stack.map Prod.fst) child) := if_pos inside
  exact ⟨_, .stop (by simp [seek?, closed]), closed⟩

/-- What a walk reports when a search comes out: the cycle found there, or what it finds after it. -/
def Resumes (next : CellId → List CellId) (stack : List (CellId × List CellId)) (roots : List CellId)
    (cycle : Option (List CellId)) : Except (List CellId) CellSet → Prop
  | .error found => cycle = some found
  -- The order in which cells were left does not matter here.
  | .ok seen => ∀ left, Seeks next ⟨⟨seen, left⟩, stack, roots⟩ cycle

/-- A walk reports what looking at the cells ahead of it, one after the other, comes out with. -/
theorem seeks_ahead {ahead : List CellId}
    (enters : ∀ trail stack child, Roomy next room trail.seen → child ∉ trail.seen →
      Resumes next stack roots cycle (cycleBehind next room (stack.map Prod.fst) trail.seen child) →
      Seeks next (enter next ⟨trail, stack, roots⟩ child) cycle)
    (enough : ahead ≠ [] → Roomy next room trail.seen)
    (resumes : Resumes next stack roots cycle
      (ahead.foldlM (heed next room (id :: stack.map Prod.fst)) trail.seen)) :
    Seeks next ⟨trail, (id, ahead) :: stack, roots⟩ cycle := by
  -- The induction is along the cells ahead, for whatever trail the ones before leave.
  induction ahead generalizing trail with
  | nil => exact .step rfl rfl (resumes _)
  | cons child rest ih =>
    have fits := enough (List.cons_ne_nil _ _)
    rw [List.foldlM_cons, heed] at resumes
    by_cases inside : child ∈ id :: stack.map Prod.fst
    · rw [if_pos inside] at resumes
      obtain rfl : cycle = some _ := resumes
      exact .stop inside
    · rw [if_neg inside] at resumes
      refine .step (if_neg inside) rfl ?_
      unfold look
      split
      · rename_i seen
        rw [if_pos seen] at resumes
        exact ih (fun _ => fits) resumes
      · rename_i unseen
        rw [if_neg unseen] at resumes
        refine enters trail ((id, rest) :: stack) child fits unseen ?_
        rw [List.map_cons]
        cases behind : cycleBehind next room (id :: stack.map Prod.fst) trail.seen child with
        | error found =>
          rw [behind] at resumes
          exact resumes
        | ok later =>
          rw [behind] at resumes
          -- What was seen before is still seen, so that the room is enough for the other cells.
          exact fun _ => ih (fun _ => fits.mono (cycleBehind_grows behind)) resumes

/-- A walk that enters a cell reports what the search behind that cell comes out with. -/
theorem seeks_enter (enough : Roomy next room trail.seen) (unseen : id ∉ trail.seen)
    (resumes : Resumes next stack roots cycle
      (cycleBehind next room (stack.map Prod.fst) trail.seen id)) :
    Seeks next (enter next ⟨trail, stack, roots⟩ id) cycle := by
  -- The induction is on the room, as for walks that do not stop.
  induction room generalizing trail stack id with
  | zero => exact absurd enough (by simp [Roomy])
  | succ room ih => exact seeks_ahead (fun _ _ _ => ih) (enough.enter unseen) resumes

/-- With enough room, a walk that looks for a cycle from a cell reports the one that is found. -/
theorem seeks_start (enough : Roomy next room ∅) (id : CellId) :
    Seeks next (start [id]) (cycle? next room id) := by
  refine .step rfl rfl ?_
  -- No cell has been seen before the first one.
  rw [look, if_neg (by simp)]
  refine seeks_enter enough (by simp) ?_
  unfold cycle?
  simp only [List.map_nil]
  cases cycleBehind next room [] ∅ id with
  | error found => rfl
  | ok seen => exact fun left => ⟨_, .stop rfl, rfl⟩

end Seeking

end Walk
end Spreadsheet.Search
