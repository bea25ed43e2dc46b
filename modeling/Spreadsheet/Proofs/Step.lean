import Spreadsheet.Failure

/-!
Computations that keep their changes of a state even if they fail: what a success goes through, and
the invariants that hold however they end.
-/

namespace Spreadsheet

/-- A computation on a state, which keeps its changes even if the computation fails. -/
abbrev Stateful (σ α : Type) := ExceptT Failure (StateM σ) α

namespace Stateful

variable {σ α β : Type} {Inv : σ → Prop} {s t : σ}

/-- One computation after another starts the second one in the state that the first one leaves. -/
theorem bind_run (work : Stateful σ α) (next : α → Stateful σ β) (s : σ) :
    (work >>= next) s =
      match (work s).1 with
      | .ok a => next a (work s).2
      | .error e => (.error e, (work s).2) := by
  -- The definition of the monad is opened here, and nowhere else for sequences.
  show ExceptT.bindCont next (work s).1 (work s).2 = _
  cases (work s).1 <;> rfl

/-- From one state only what is done there matters, and what follows the value that comes out of it. -/
theorem bind_congr {work work' : Stateful σ α} {next next' : α → Stateful σ β}
    (first : work s = work' s) (second : ∀ a t, work s = (.ok a, t) → next a t = next' a t) :
    (work >>= next) s = (work' >>= next') s := by
  rw [bind_run, bind_run, ← first]
  -- The outcome of the first run is shared, and the second one needs only what it leads to.
  cases run : work s with
  | mk outcome t =>
    cases outcome with
    | ok a => exact second a t run
    | error e => rfl

/-- A failure is handled in the state that it leaves. -/
theorem tryCatch_run (work : Stateful σ α) (handle : Failure → Stateful σ α) (s : σ) :
    tryCatch work handle s =
      match (work s).1 with
      | .ok a => (.ok a, (work s).2)
      | .error e => handle e (work s).2 := by
  -- Handling opens the definition of the monad, too.
  simp only [tryCatch, tryCatchThe, MonadExceptOf.tryCatch, ExceptT.tryCatch, ExceptT.mk, Bind.bind,
    StateT.bind]
  rcases work s with ⟨outcome, t⟩
  cases outcome <;> rfl

/-- One computation after another succeeds if both do. -/
theorem bind_eq_ok {work : Stateful σ α} {next : α → Stateful σ β} {b : β} :
    (work >>= next) s = (.ok b, t) ↔ ∃ a u, work s = (.ok a, u) ∧ next a u = (.ok b, t) := by
  rw [bind_run]
  -- The outcome of the first computation decides.
  rcases work s with ⟨outcome, u⟩
  cases outcome with
  | ok a =>
    refine ⟨fun done => ⟨a, u, rfl, done⟩, ?_⟩
    rintro ⟨_, _, ⟨⟩, done⟩
    exact done
  | error e =>
    constructor
    · intro done
      cases done
    · rintro ⟨_, _, ⟨⟩, _⟩

/-- One computation after another fails if the first one does, or the second one after it. -/
theorem bind_eq_error {work : Stateful σ α} {next : α → Stateful σ β} {e : Failure} :
    (work >>= next) s = (.error e, t) ↔
      work s = (.error e, t) ∨ ∃ a u, work s = (.ok a, u) ∧ next a u = (.error e, t) := by
  rw [bind_run]
  -- The state is kept in both cases, so the outcome alone tells where it failed.
  rcases work s with ⟨outcome, u⟩
  cases outcome with
  | ok a =>
    refine ⟨fun failed => .inr ⟨a, u, rfl, failed⟩, ?_⟩
    rintro (⟨⟨⟩⟩ | ⟨_, _, ⟨⟩, failed⟩)
    exact failed
  | error e' =>
    refine ⟨fun failed => .inl ?_, ?_⟩
    · cases failed
      rfl
    · rintro (⟨⟨⟩⟩ | ⟨_, _, ⟨⟩, _⟩)
      rfl

/-- A computation keeps an invariant however it ends. -/
def Keeps (Inv : σ → Prop) (work : Stateful σ α) : Prop := ∀ s, Inv s → Inv (work s).2

namespace Keeps

/-- A value changes nothing. -/
theorem pure (a : α) : Keeps Inv (Pure.pure a : Stateful σ α) := fun _ inv => inv

/-- What fails apart from the state changes nothing. -/
theorem lift (x : Except Failure α) : Keeps Inv (liftM x : Stateful σ α) := by
  -- Neither outcome touches the state.
  intro s inv
  cases x <;> exact inv

/-- A change keeps what holds of all changed states. -/
theorem change {f : σ → σ} (each : ∀ s, Inv s → Inv (f s)) :
    Keeps Inv (modify f : Stateful σ PUnit) := fun s inv => each s inv

/-- One computation after another keeps what both of them do. -/
theorem bind {work : Stateful σ α} {next : α → Stateful σ β} (first : Keeps Inv work)
    (second : ∀ a, Keeps Inv (next a)) : Keeps Inv (work >>= next) := by
  intro s inv
  -- Where the first computation fails, the invariant holds in the state that it leaves.
  rw [bind_run]
  cases (work s).1 with
  | ok a => exact second a _ (first s inv)
  | error e => exact first s inv

/-- A list of computations keeps what each of them does. -/
theorem mapM {work : α → Stateful σ β} (as : List α) (each : ∀ a ∈ as, Keeps Inv (work a)) :
    Keeps Inv (as.mapM work) := by
  -- The induction is along the list, with the invariant between the computations.
  induction as with
  | nil => exact pure []
  | cons a rest ih =>
    rw [List.mapM_cons]
    exact (each a (by simp)).bind fun b =>
      (ih fun x member => each x (by simp [member])).bind fun bs => pure _

/-- A loop keeps what each of its steps does. -/
theorem forM {work : α → Stateful σ PUnit} (as : List α) (each : ∀ a ∈ as, Keeps Inv (work a)) :
    Keeps Inv (as.forM work) := by
  induction as with
  | nil => exact pure _
  | cons a rest ih =>
    -- A loop is its first step and then the loop over the others.
    show Keeps Inv (work a >>= fun _ => rest.forM work)
    exact (each a (by simp)).bind fun _ => ih fun x member => each x (by simp [member])

end Keeps

/--
Along a list of computations that all succeed an invariant is kept, and the results are in the order
of what they were computed for.
-/
theorem mapM_ok (Inv : σ → Prop) (Given : β → Prop) {origin : β → α} {work : α → Stateful σ β}
    {as : List α} {bs : List β} (done : as.mapM work s = (.ok bs, t)) (begun : Inv s)
    (each : ∀ a ∈ as, ∀ u b v, Inv u → work a u = (.ok b, v) → Inv v ∧ origin b = a ∧ Given b) :
    Inv t ∧ bs.map origin = as ∧ ∀ b ∈ bs, Given b := by
  -- The induction is along the list, each computation starting in the state of the one before.
  induction as generalizing s bs with
  | nil =>
    cases done
    exact ⟨begun, rfl, by simp⟩
  | cons a rest ih =>
    rw [List.mapM_cons, bind_eq_ok] at done
    obtain ⟨b, u, first, done⟩ := done
    -- Behind the first result the others are collected, in the state that it leaves.
    obtain ⟨others, v, later, done⟩ := bind_eq_ok.mp done
    cases done
    obtain ⟨kept, here, given⟩ := each a (by simp) s b u begun first
    obtain ⟨kept, there, all⟩ := ih later kept fun x member => each x (by simp [member])
    exact ⟨kept, by rw [List.map_cons, here, there], List.forall_mem_cons.mpr ⟨given, all⟩⟩

/-- A list of computations fails where one of them does, in a state that the ones before it leave. -/
theorem mapM_error (Inv : σ → Prop) {work : α → Stateful σ β} {as : List α} {e : Failure}
    (failed : as.mapM work s = (.error e, t)) (begun : Inv s)
    (each : ∀ a ∈ as, Keeps Inv (work a)) :
    ∃ a ∈ as, ∃ u v, Inv u ∧ work a u = (.error e, v) := by
  -- The induction is along the list up to the first failure.
  induction as generalizing s with
  | nil => cases failed
  | cons a rest ih =>
    rw [List.mapM_cons, bind_eq_error] at failed
    rcases failed with here | ⟨b, u, first, later⟩
    · exact ⟨a, by simp, s, t, begun, here⟩
    · -- The first computation has succeeded here and kept the invariant.
      have kept : Inv u := by simpa [first] using each a (by simp) s begun
      rcases bind_eq_error.mp later with there | ⟨bs, v, -, made⟩
      · obtain ⟨x, member, found⟩ := ih there kept fun x member => each x (by simp [member])
        exact ⟨x, by simp [member], found⟩
      · -- Collecting the results cannot fail.
        cases made

end Stateful
end Spreadsheet
