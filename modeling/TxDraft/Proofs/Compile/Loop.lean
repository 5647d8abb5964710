import TxDraft.Compile
import TxDraft.Proofs.Work

/-!
# The loop of a compilation

The two nested loops over actions and their steps are one loop over steps that know their place
(`applyActions_eq_applyPlaced`).  What one turn of it does is said by `outcomeIn_applyStep`, and
what completion does by `outcomeIn_finish`.  The loop fails at the first step that fails
(`outcomeIn_applyPlaced_eq_error`), and then so does the run (`outcomeIn_run_of_failed`); otherwise
the run comes to what completion comes to (`outcomeIn_run_of_applied`).

A compilation never looks at the world but through its builder: builders whose calls are alike
compile alike (`alike_run`).
-/

namespace TxDraft

variable {η ω δ : Type}

/-- In related worlds the builders expose the same operations, and their calls have the same
outcome; looks and calls leave related worlds. -/
structure Builder.Alike (R : ω → δ → Prop) (b : Builder η ω) (other : Builder η δ) : Prop where
  exposes : ∀ h name, Work.Alike R (b.exposes h name) (other.exposes h name)
  call : ∀ h name operation world world', R world world' →
    ((b.call h name operation).run world).1 = ((other.call h name operation).run world').1 ∧
      R ((b.call h name operation).run world).2 ((other.call h name operation).run world').2

namespace Compile

/-! ### One loop over all steps -/

/-- A step with the position and the tag of its action. -/
structure PlacedStep where
  index : Int
  tag : String
  step : Step

/-- The steps of actions in order, each with its place, the first action at the given position. -/
def placedSteps : Int → List Action → List PlacedStep
  | _, [] => []
  | index, action :: rest =>
    action.steps.map (PlacedStep.mk index action.tag) ++ placedSteps (index + 1) rest

/-- Applies steps in order; gives the builder that goes on and the names of the operations. -/
def applyPlaced (b : Builder η ω) :
    Option η → List PlacedStep → Work ω (Option η × List String)
  | current, [] => return (current, [])
  | current, placed :: rest => do
    let (current, name) ← applyStep b placed.index placed.tag current placed.step
    let (current, names) ← applyPlaced b current rest
    return (current, name :: names)

/-- What a compilation is to do: the steps of all actions in order, and the completion. -/
def operations (actions : List Action) : List Operation :=
  (actions.flatMap Action.steps).map Operation.step ++ [.complete]

theorem map_step_placedSteps (actions : List Action) (index : Int) :
    (placedSteps index actions).map PlacedStep.step = actions.flatMap Action.steps := by
  induction actions generalizing index with
  | nil => rfl
  | cons action rest ih =>
    rw [placedSteps, List.map_append, List.map_map, ih, List.flatMap_cons]
    congr 1
    exact List.map_id _

theorem map_operation_placedSteps (actions : List Action) (index : Int) :
    (placedSteps index actions).map (Operation.step ·.step)
      = (actions.flatMap Action.steps).map Operation.step := by
  rw [← map_step_placedSteps actions index, List.map_map]
  rfl

theorem applySteps_eq_applyPlaced (b : Builder η ω) (index : Int) (tag : String)
    (current : Option η) (steps : List Step) :
    applySteps b index tag current steps
      = applyPlaced b current (steps.map (PlacedStep.mk index tag)) := by
  induction steps generalizing current with
  | nil => rfl
  | cons step rest ih => simp only [applySteps, List.map_cons, applyPlaced, ih]

theorem applyPlaced_append (b : Builder η ω) (current : Option η) (first second : List PlacedStep) :
    applyPlaced b current (first ++ second) = do
      let (current, names) ← applyPlaced b current first
      let (current, more) ← applyPlaced b current second
      return (current, names ++ more) := by
  induction first generalizing current with
  | nil => simp [applyPlaced]
  | cons placed rest ih => simp [applyPlaced, ih]

/-- The loop over actions with a loop over the steps of each is one loop over all steps. -/
theorem applyActions_eq_applyPlaced (b : Builder η ω) (index : Int) (current : Option η)
    (actions : List Action) :
    applyActions b index current actions = applyPlaced b current (placedSteps index actions) := by
  induction actions generalizing index current with
  | nil => rfl
  | cons action rest ih =>
    simp only [applyActions, placedSteps, applyPlaced_append, applySteps_eq_applyPlaced, ih]

theorem applyActions_append (b : Builder η ω) (index : Int) (current : Option η)
    (first second : List Action) :
    applyActions b index current (first ++ second) = do
      let (current, names) ← applyActions b index current first
      let (current, more) ← applyActions b (index + first.length) current second
      return (current, names ++ more) := by
  induction first generalizing index current with
  | nil => simp [applyActions]
  | cons action rest ih =>
    have hindex : index + 1 + (rest.length : Int) = index + ((action :: rest).length : Nat) := by
      rw [List.length_cons]
      omega
    simp [applyActions, ih, hindex]

/-! ### What a turn of the loop does -/

theorem outcomeIn_applyStep (b : Builder η ω) (index : Int) (tag : String) (current : Option η)
    (step : Step) (world : ω) :
    (applyStep b index tag current step).outcomeIn world =
      match (b.resolve current step.capability.name ⟨some index, some tag⟩).outcomeIn world with
      | (.error f, left) => (.error f, left)
      | (.ok (h, name), found) =>
        match (b.call h name (.step step)).run found with
        | (.failed f, left) => (.error (locate index tag f), left)
        | (outcome, left) => (.ok (Builder.next current outcome, name), left) := by
  unfold applyStep
  rw [Work.outcomeIn_bind]
  rcases (b.resolve current step.capability.name ⟨some index, some tag⟩).outcomeIn world with
    ⟨f | ⟨h, name⟩, found⟩
  · rfl
  · simp only [Work.outcomeIn_bind, Work.outcomeIn_lift]
    rcases (b.call h name (.step step)).run found with ⟨outcome, left⟩
    cases outcome <;> rfl

/-- A step fails if no operation is found for it, or if its call fails; then the failure is
attributed to the action. -/
theorem outcomeIn_applyStep_eq_error_iff {b : Builder η ω} {index : Int} {tag : String}
    {current : Option η} {step : Step} {world left : ω} {f : Failure} :
    (applyStep b index tag current step).outcomeIn world = (.error f, left) ↔
      (b.resolve current step.capability.name ⟨some index, some tag⟩).outcomeIn world =
          (.error f, left) ∨
        ∃ h name found raised,
          (b.resolve current step.capability.name ⟨some index, some tag⟩).outcomeIn world =
              (.ok (h, name), found) ∧
            (b.call h name (.step step)).run found = (.failed raised, left) ∧
            f = locate index tag raised := by
  rw [outcomeIn_applyStep]
  rcases (b.resolve current step.capability.name ⟨some index, some tag⟩).outcomeIn world with
    ⟨f' | ⟨h, name⟩, found⟩
  · constructor
    · rintro ⟨⟩
      exact Or.inl rfl
    · rintro (⟨⟨⟩⟩ | ⟨_, _, _, _, ⟨⟩, -⟩)
      rfl
  · rcases hcall : (b.call h name (.step step)).run found with ⟨outcome, between⟩
    simp only [hcall]
    constructor
    · intro hfailed
      cases outcome with
      | failed raised =>
        cases hfailed
        exact Or.inr ⟨h, name, found, raised, rfl, hcall, rfl⟩
      | _ => cases hfailed
    · rintro (⟨⟨⟩⟩ | ⟨_, _, _, raised, ⟨⟩, hraised, rfl⟩)
      rw [hcall] at hraised
      cases hraised
      rfl

/-- Steps fail at the first one that fails, after all steps before it were applied. -/
theorem outcomeIn_applyPlaced_eq_error {b : Builder η ω} {steps : List PlacedStep}
    {current : Option η} {world left : ω} {f : Failure}
    (h : (applyPlaced b current steps).outcomeIn world = (.error f, left)) :
    ∃ before placed after went names between, steps = before ++ placed :: after ∧
      (applyPlaced b current before).outcomeIn world = (.ok (went, names), between) ∧
      (applyStep b placed.index placed.tag went placed.step).outcomeIn between
        = (.error f, left) := by
  induction steps generalizing current world with
  | nil => cases h
  | cons placed rest ih =>
    rw [applyPlaced] at h
    rcases Work.outcomeIn_bind_eq_error_iff.mp h with hstep | ⟨⟨went, name⟩, mid, hstep, hrest⟩
    · exact ⟨[], placed, rest, current, [], world, rfl, rfl, hstep⟩
    · rcases Work.outcomeIn_bind_eq_error_iff.mp hrest with hrest | ⟨_, _, -, hpure⟩
      · -- the step was applied, and it comes before those that the rest applied
        obtain ⟨before, failing, after, went', names, between, rfl, hbefore, hfails⟩ := ih hrest
        refine ⟨placed :: before, failing, after, went', name :: names, between, rfl, ?_, hfails⟩
        simp only [applyPlaced, Work.outcomeIn_bind, hstep, hbefore, Work.outcomeIn_pure]
      · cases hpure

theorem outcomeIn_finish (b : Builder η ω) (current : Option η) (world : ω) :
    (finish b current).outcomeIn world =
      match (b.resolve current Capability.complete.name .unknown).outcomeIn world with
      | (.error f, left) => (.error f, left)
      | (.ok (h, name), found) =>
        (content ((b.call h name .complete).run found).1,
          ((b.call h name .complete).run found).2) := by
  unfold finish
  rw [Work.outcomeIn_bind]
  rcases (b.resolve current Capability.complete.name .unknown).outcomeIn world with
    ⟨f | ⟨h, name⟩, found⟩ <;> rfl

/-! ### What a run does -/

/-- A failure in the loop is the failure of the run. -/
theorem outcomeIn_run_of_failed {b : Builder η ω} {start : η} {actions : List Action}
    {world left : ω} {f : Failure}
    (h : (applyActions b 0 (some start) actions).outcomeIn world = (.error f, left)) :
    (run b start actions).outcomeIn world = (.error f, left) := by
  cases actions with
  | nil => cases h
  | cons action rest =>
    unfold run
    simp only [List.isEmpty_cons, Bool.false_eq_true, if_false, Work.outcomeIn_bind, h]

/-- Behind the loop, the run comes to what completion comes to, with the names of the operations. -/
theorem outcomeIn_run_of_applied {b : Builder η ω} {start : η} {actions : List Action}
    {world between : ω} {current : Option η} {names : List String} (hne : actions ≠ [])
    (h : (applyActions b 0 (some start) actions).outcomeIn world =
      (.ok (current, names), between)) :
    (run b start actions).outcomeIn world =
      (((finish b current).outcomeIn between).1.map fun v => ⟨v, names⟩,
        ((finish b current).outcomeIn between).2) := by
  unfold run
  simp only [List.isEmpty_iff, hne, if_false, Work.outcomeIn_bind, h]
  rcases (finish b current).outcomeIn between with ⟨_ | v, left⟩ <;> rfl

/-! ### Builders that are alike -/

section Alike

variable {R : ω → δ → Prop} {b : Builder η ω} {other : Builder η δ}

theorem alike_firstExposed
    (h : ∀ handle name, Work.Alike R (b.exposes handle name) (other.exposes handle name))
    (handle : η) (names : List String) :
    Work.Alike R (b.firstExposed handle names) (other.firstExposed handle names) := by
  induction names with
  | nil => exact .pure _
  | cons name rest ih =>
    refine (h handle name).bind fun exposed => ?_
    cases exposed with
    | true => exact .pure _
    | false => exact ih

theorem alike_resolve
    (h : ∀ handle name, Work.Alike R (b.exposes handle name) (other.exposes handle name))
    (current : Option η) (capability : String) (place : Place) :
    Work.Alike R (b.resolve current capability place) (other.resolve current capability place) := by
  have hfind : Work.Alike R (b.find? current (Capability.candidatesFor capability))
      (other.find? current (Capability.candidatesFor capability)) := by
    cases current with
    | none => exact .pure _
    | some handle => exact (alike_firstExposed h handle _).bind fun _ => .pure _
  refine hfind.bind fun found => ?_
  cases found with
  | none => exact .ofAttempt (.error _)
  | some found => exact .pure found

theorem alike_call (h : b.Alike R other) (handle : η) (name : String) (operation : Operation) :
    Work.Alike R (ExceptT.lift (b.call handle name operation))
      (ExceptT.lift (other.call handle name operation)) := by
  intro world world' hR
  obtain ⟨houtcome, hleft⟩ := h.call handle name operation world world' hR
  exact ⟨congrArg Except.ok houtcome, hleft⟩

theorem alike_applyStep (h : b.Alike R other) (index : Int) (tag : String) (current : Option η)
    (step : Step) :
    Work.Alike R (applyStep b index tag current step) (applyStep other index tag current step) := by
  refine (alike_resolve h.exposes current _ _).bind fun found => ?_
  refine (alike_call h found.1 found.2 _).bind fun outcome => ?_
  cases outcome with
  | failed f => exact .ofAttempt (.error _)
  | _ => exact .pure _

theorem alike_applyPlaced (h : b.Alike R other) (current : Option η) (steps : List PlacedStep) :
    Work.Alike R (applyPlaced b current steps) (applyPlaced other current steps) := by
  induction steps generalizing current with
  | nil => exact .pure _
  | cons placed rest ih =>
    refine (alike_applyStep h placed.index placed.tag current placed.step).bind fun applied => ?_
    exact (ih applied.1).bind fun _ => .pure _

theorem alike_finish (h : b.Alike R other) (current : Option η) :
    Work.Alike R (finish b current) (finish other current) := by
  refine (alike_resolve h.exposes current _ _).bind fun found => ?_
  intro world world' hR
  obtain ⟨houtcome, hleft⟩ := h.call found.1 found.2 .complete world world' hR
  exact ⟨congrArg content houtcome, hleft⟩

/-- Builders that are alike compile alike. -/
theorem alike_run (h : b.Alike R other) (start : η) (actions : List Action) :
    Work.Alike R (run b start actions) (run other start actions) := by
  unfold run
  cases actions with
  | nil => exact fun _ _ hR => ⟨rfl, hR⟩
  | cons action rest =>
    simp only [List.isEmpty_cons, Bool.false_eq_true, if_false, applyActions_eq_applyPlaced]
    refine (alike_applyPlaced h _ _).bind fun applied => ?_
    exact (alike_finish h applied.1).bind fun _ => .pure _

end Alike

end Compile

end TxDraft
