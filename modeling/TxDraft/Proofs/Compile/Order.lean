import TxDraft.Proofs.Builder.Log
import TxDraft.Proofs.Compile.Loop

/-!
# The order of the calls of a compilation

`run_calls_in_order`: whatever the builder does, the calls of a compilation are a beginning of the
steps of all actions, in order, followed by the completion; each is made on the builder that is
current, by the first candidate name that it exposes then.  Only the last call may have failed, a
transaction comes out only if every call was made and returned, and it names the operations as they
were called.

The induction is on the one loop over all steps (`applyActions_eq_applyPlaced`).  What it carries
along the log is `Builder.Reached`: the calls so far are in order and all of them returned.
-/

namespace TxDraft

variable {η ω : Type}

/-! ### Runs of calls -/

namespace Builder

/-- The calls are in order, and all of them returned. -/
structure Reached (b : Builder η ω) (start : η) (world : ω) (calls : List (Call η)) (left : ω) :
    Prop extends b.Orderly start world calls left where
  returned : ∀ c ∈ calls, c.returned = true

/-- The calls are in order, they are for the first of the given operations, each once, and all of
them returned but perhaps the last. -/
structure Follows (b : Builder η ω) (start : η) (world : ω) (goals : List Operation)
    (calls : List (Call η)) (left : ω) : Prop extends b.Orderly start world calls left where
  aimed : calls.map Call.operation <+: goals
  returned : ∀ c ∈ calls.dropLast, c.returned = true

/-- Why no more calls are made: the last one failed; or, in the world that the calls leave, no
operation is found for what is next, because the builder that is current exposes nothing for it or
a look fails. -/
inductive Stopped (b : Builder η ω) (start : η) (goals : List Operation) (calls : List (Call η)) :
    ω → ω → Prop
  | failed {c : Call η} {world : ω} (last : calls.getLast? = some c)
      (unreturned : c.returned = false) : Stopped b start goals calls world world
  | unexposed {operation : Operation} {world left : ω}
      (next : goals[calls.length]? = some operation)
      (unexposed : b.Unexposed (currentAfter start calls) operation world left) :
      Stopped b start goals calls world left
  | lookFails {operation : Operation} {world left : ω} {f : Failure}
      (next : goals[calls.length]? = some operation)
      (fails : b.LookFails (currentAfter start calls) operation world f left) :
      Stopped b start goals calls world left

variable {b : Builder η ω} {start : η} {world between left : ω} {goals : List Operation}
  {calls : List (Call η)}

theorem Reached.nil (b : Builder η ω) (start : η) (world : ω) : b.Reached start world [] world where
  toOrderly := Orderly.nil b start world
  returned c hc := by simp at hc

theorem Reached.concat {c : Call η} (h : b.Reached start world calls between)
    (hc : b.Orderly start world (calls ++ [c]) left) (hreturned : c.returned = true) :
    b.Reached start world (calls ++ [c]) left where
  toOrderly := hc
  returned d hd := by
    rcases List.mem_append.mp hd with hd | hd
    · exact h.returned d hd
    · obtain rfl := List.mem_singleton.mp hd
      exact hreturned

theorem Reached.follows (h : b.Reached start world calls left)
    (haimed : calls.map Call.operation <+: goals) : b.Follows start world goals calls left where
  toOrderly := h.toOrderly
  aimed := haimed
  returned c hc := h.returned c (List.dropLast_subset calls hc)

/-- One more call may follow calls that all returned, whatever becomes of it. -/
theorem Reached.follows_concat {c : Call η} (h : b.Reached start world calls between)
    (hc : b.Orderly start world (calls ++ [c]) left)
    (haimed : (calls ++ [c]).map Call.operation <+: goals) :
    b.Follows start world goals (calls ++ [c]) left where
  toOrderly := hc
  aimed := haimed
  returned d hd := h.returned d (by simpa using hd)

theorem Follows.mono {more : List Operation} (h : b.Follows start world goals calls left)
    (hmore : goals <+: more) : b.Follows start world more calls left :=
  { h with aimed := h.aimed.trans hmore }

theorem Stopped.of_resolve (operation : Operation) {place : Place} {f : Failure}
    (hnext : goals[calls.length]? = some operation)
    (h : (b.resolve (currentAfter start calls) operation.capability.name place).outcomeIn between =
      (.error f, left)) : b.Stopped start goals calls between left := by
  rcases (resolve_eq_error_iff operation).mp h with ⟨hunexposed, -⟩ | hfails
  · exact .unexposed hnext hunexposed
  · exact .lookFails hnext hfails

theorem Stopped.mono {more : List Operation} (h : b.Stopped start goals calls between left)
    (hmore : goals <+: more) : b.Stopped start more calls between left := by
  have hnext : ∀ operation, goals[calls.length]? = some operation →
      more[calls.length]? = some operation := by
    rintro operation hnext
    obtain ⟨rest, rfl⟩ := hmore
    have hlt : calls.length < goals.length := (List.getElem?_eq_some_iff.mp hnext).1
    rw [List.getElem?_append_left hlt, hnext]
  cases h with
  | failed last unreturned => exact .failed last unreturned
  | unexposed next unexposed => exact .unexposed (hnext _ next) unexposed
  | lookFails next fails => exact .lookFails (hnext _ next) fails

end Builder

namespace Compile

/-! ### The log changes nothing -/

/-- What a computation beside a log came to, without the log. -/
def unlogged {α ρ : Type} : Attempt α × (ω × ρ) → Attempt α × ω :=
  fun r => (r.1, r.2.1)

/-- A builder is like its logged copy, whatever stands in the log. -/
theorem alike_logged (b : Builder η ω) :
    b.Alike (fun world (state : ω × List (Call η)) => world = state.1) b.logged where
  exposes h name world state hworld := by
    subst hworld
    exact ⟨rfl, rfl⟩
  call h name operation world state hworld := by
    subst hworld
    exact ⟨rfl, rfl⟩

/-- A compilation with a logged builder is the compilation with the builder itself. -/
theorem unlogged_run (b : Builder η ω) (start : η) (actions : List Action) (world : ω)
    (log : List (Call η)) :
    (run b start actions).outcomeIn world
      = unlogged ((run b.logged start actions).outcomeIn (world, log)) := by
  obtain ⟨hresult, hleft⟩ := alike_run (alike_logged b) start actions world (world, log) rfl
  exact Prod.ext hresult hleft

/-- Logging hides no operation, and a look is not logged. -/
theorem outcomeIn_resolve_logged (b : Builder η ω) (current : Option η) (capability : String)
    (place : Place) (world : ω) (log : List (Call η)) :
    (b.logged.resolve current capability place).outcomeIn (world, log) =
      (((b.resolve current capability place).outcomeIn world).1,
        (((b.resolve current capability place).outcomeIn world).2, log)) := by
  have hexposes : ∀ handle name, Work.Alike (fun world (state : ω × List (Call η)) =>
      state = (world, log)) (b.exposes handle name) (b.logged.exposes handle name) := by
    rintro handle name world _ rfl
    exact ⟨rfl, rfl⟩
  obtain ⟨hresult, hleft⟩ := alike_resolve hexposes current capability place world (world, log) rfl
  exact Prod.ext hresult.symm hleft

/-! ### What a step does to the log -/

/-- What applying placed steps from calls that are in order may come to: all steps are applied and
the calls are still in order, or the calls stop at a failure. -/
def Applied (b : Builder η ω) (start : η) (world : ω) (before : List (Call η))
    (steps : List PlacedStep) :
    Attempt (Option η × List String) × (ω × List (Call η)) → Prop
  | (.ok (current, names), (left, log)) =>
    b.Reached start world log left ∧ current = Builder.currentAfter start log ∧
      log.map Call.operation = before.map Call.operation ++ steps.map (Operation.step ·.step) ∧
      log.map Call.name = before.map Call.name ++ names
  | (.error _, (left, log)) =>
    let goals := before.map Call.operation ++ steps.map (Operation.step ·.step)
    ∃ called, b.Follows start world goals log called ∧ b.Stopped start goals log called left

/-- A step is applied by a call on the builder that is current, which is then the last call of the
log, or it is not applied at all. -/
theorem applyStep_logged {b : Builder η ω} {start : η} {world between : ω} {log : List (Call η)}
    (h : b.Reached start world log between) (placed : PlacedStep) :
    Applied b start world log [placed]
      (match (applyStep b.logged placed.index placed.tag (Builder.currentAfter start log)
          placed.step).outcomeIn (between, log) with
        | (.ok (current, name), state) => (.ok (current, [name]), state)
        | (.error f, state) => (.error f, state)) := by
  rw [outcomeIn_applyStep, outcomeIn_resolve_logged]
  rcases hr : (b.resolve (Builder.currentAfter start log) placed.step.capability.name
      ⟨some placed.index, some placed.tag⟩).outcomeIn between with ⟨f | ⟨handle, name⟩, found⟩
  · -- nothing is found for the step, and no call is made
    exact ⟨between, h.follows (List.prefix_append _ _),
      .of_resolve (.step placed.step) (by simp) hr⟩
  · obtain ⟨hcurrent, hname⟩ := (Builder.resolve_eq_ok_iff (.step placed.step)).mp hr
    simp only [Builder.call_logged]
    rcases hcall : (b.call handle name (.step placed.step)).run found with ⟨outcome, left⟩
    -- whatever became of it, the call stands in order behind the others
    have horderly := h.toOrderly.concat (c := ⟨handle, name, .step placed.step, outcome⟩)
      hcurrent hname hcall
    have returned : outcome.returned = true →
        Applied b start world log [placed]
          (.ok (Builder.next (Builder.currentAfter start log) outcome, [name]),
            (left, log ++ [⟨handle, name, .step placed.step, outcome⟩])) := fun hret =>
      ⟨h.concat horderly hret,
        (Builder.currentAfter_concat start log (c := ⟨handle, name, _, outcome⟩) hret).symm,
        by simp, by simp⟩
    cases outcome with
    | failed f =>
      exact ⟨left, h.follows_concat horderly (by simp), .failed List.getLast?_concat rfl⟩
    | _ => exact returned rfl

theorem applyPlaced_logged (b : Builder η ω) (start : η) (world : ω) (steps : List PlacedStep) :
    ∀ (between : ω) (log : List (Call η)), b.Reached start world log between →
      Applied b start world log steps
        ((applyPlaced b.logged (Builder.currentAfter start log) steps).outcomeIn
          (between, log)) := by
  -- `Reached` is what the steps applied so far leave for the next one
  induction steps with
  | nil =>
    intro between log h
    exact ⟨h, rfl, by simp, by simp⟩
  | cons placed rest ih =>
    intro between log h
    have hstep := applyStep_logged h placed
    rw [applyPlaced, Work.outcomeIn_bind]
    rcases hres : (applyStep b.logged placed.index placed.tag (Builder.currentAfter start log)
      placed.step).outcomeIn (between, log) with ⟨result, left, log'⟩
    rw [hres] at hstep
    cases result with
    | error f =>
      -- the goals up to the failed step are the first of all goals
      have hgoals : log.map Call.operation ++ [placed].map (Operation.step ·.step) <+:
          log.map Call.operation ++ (placed :: rest).map (Operation.step ·.step) := by simp
      obtain ⟨called, hfollows, hstopped⟩ := hstep
      exact ⟨called, hfollows.mono hgoals, hstopped.mono hgoals⟩
    | ok applied =>
      -- the calls of the rest are logged behind that of the step
      obtain ⟨current, name⟩ := applied
      obtain ⟨hreached, rfl, hops, hnames⟩ := hstep
      have hrest := ih left log' hreached
      simp only [Work.outcomeIn_bind]
      rcases hres' : (applyPlaced b.logged (Builder.currentAfter start log') rest).outcomeIn
        (left, log') with ⟨result', left', log''⟩
      rw [hres'] at hrest
      cases result' with
      | error f => simpa [Applied, hops] using hrest
      | ok applied' =>
        obtain ⟨current', names⟩ := applied'
        obtain ⟨hreached', hcurrent', hops', hnames'⟩ := hrest
        refine ⟨hreached', hcurrent', ?_, ?_⟩
        · rw [hops', hops]; simp
        · rw [hnames', hnames]; simp

/-! ### The order of the calls -/

/-- How a compilation ends, in the world that the calls leave: with a transaction if every call was
made and returned, and without one only if the calls stopped before that or completion gave nothing
that is a transaction. -/
def Ends (b : Builder η ω) (start : η) (actions : List Action) (calls : List (Call η))
    (called left : ω) : Attempt UnsignedTransaction → Prop
  | .ok tx =>
    left = called ∧
      calls.map Call.operation = operations actions ∧ (∀ c ∈ calls, c.returned = true) ∧
      tx.operations = calls.dropLast.map Call.name ∧
      ∃ last, calls.getLast? = some last ∧ content last.outcome = .ok tx.content
  | .error f =>
    b.Stopped start (operations actions) calls called left ∨
      left = called ∧
        calls.map Call.operation = operations actions ∧ (∀ c ∈ calls, c.returned = true) ∧
        ∃ last, calls.getLast? = some last ∧ content last.outcome = .error f

/-- Completion, after all steps were applied, is one more call on the builder that is current. -/
theorem finish_logged {b : Builder η ω} {start : η} {world between : ω} (actions : List Action)
    {log : List (Call η)} (h : b.Reached start world log between)
    (hops : log.map Call.operation = (actions.flatMap Action.steps).map Operation.step) :
    ∃ result left called calls,
      (finish b.logged (Builder.currentAfter start log)).outcomeIn (between, log)
        = (result, (left, calls)) ∧
      b.Follows start world (operations actions) calls called ∧
      Ends b start actions calls called left (result.map fun v => ⟨v, log.map Call.name⟩) := by
  rw [outcomeIn_finish, outcomeIn_resolve_logged]
  rcases hr : (b.resolve (Builder.currentAfter start log) Capability.complete.name
      .unknown).outcomeIn between with ⟨f | ⟨handle, name⟩, found⟩
  · -- nothing is found for completion, which is the goal behind all steps
    have hnext : (operations actions)[log.length]? = some .complete := by
      rw [← List.length_map Call.operation, hops, operations, List.getElem?_concat_length]
    exact ⟨.error f, found, between, log, rfl, h.follows ⟨[.complete], by rw [hops]; rfl⟩,
      Or.inl (.of_resolve .complete hnext hr)⟩
  · obtain ⟨hcurrent, hname⟩ := (Builder.resolve_eq_ok_iff .complete).mp hr
    simp only [Builder.call_logged]
    rcases hcall : (b.call handle name .complete).run found with ⟨outcome, left⟩
    have horderly := h.toOrderly.concat (c := ⟨handle, name, .complete, outcome⟩)
      hcurrent hname hcall
    have hall : (log ++ [(⟨handle, name, .complete, outcome⟩ : Call η)]).map Call.operation
        = operations actions := by
      rw [List.map_append, hops]; rfl
    refine ⟨content outcome, left, left, _, rfl,
      h.follows_concat horderly (hall ▸ List.prefix_rfl), ?_⟩
    by_cases hret : outcome.returned = true
    · have hreached := (h.concat horderly hret).returned
      cases hcontent : content outcome with
      | error f => exact Or.inr ⟨rfl, hall, hreached, _, List.getLast?_concat, hcontent⟩
      | ok v => exact ⟨rfl, hall, hreached, by simp, _, List.getLast?_concat, hcontent⟩
    · cases outcome with
      | failed f => exact Or.inl (.failed List.getLast?_concat rfl)
      | _ => exact absurd rfl hret

/-- The calls of a compilation are a beginning of the ideal run, and it gives a transaction only at
the end of that run. -/
theorem run_calls_in_order (b : Builder η ω) (start : η) (world : ω) (actions : List Action)
    (h : actions ≠ []) :
    ∃ result left called calls,
      (run b.logged start actions).outcomeIn (world, []) = (result, (left, calls)) ∧
      (run b start actions).outcomeIn world = (result, left) ∧
      b.Follows start world (operations actions) calls called ∧
      Ends b start actions calls called left result := by
  have hsteps := map_operation_placedSteps actions 0
  have happlied := applyPlaced_logged b start world (placedSteps 0 actions) world []
    (Builder.Reached.nil b start world)
  rw [unlogged_run b start actions world []]
  -- the run without a log is read off the logged one
  suffices hrun : ∃ result left called calls,
      (run b.logged start actions).outcomeIn (world, []) = (result, (left, calls)) ∧
      b.Follows start world (operations actions) calls called ∧
      Ends b start actions calls called left result by
    obtain ⟨result, left, called, calls, hrun, hrest⟩ := hrun
    exact ⟨result, left, called, calls, hrun, by rw [hrun]; rfl, hrest⟩
  rcases hloop : (applyActions b.logged 0 (some start) actions).outcomeIn (world, []) with
    ⟨result, left, log⟩
  rw [Builder.currentAfter_nil, ← applyActions_eq_applyPlaced, hloop] at happlied
  cases result with
  | error f =>
    -- a step stopped the run, and completion was never tried
    have hgoals : ([] : List (Call η)).map Call.operation
        ++ (placedSteps 0 actions).map (Operation.step ·.step) <+: operations actions := by
      rw [hsteps]; exact List.prefix_append _ _
    obtain ⟨called, hfollows, hstopped⟩ := happlied
    exact ⟨_, _, called, _, outcomeIn_run_of_failed hloop, hfollows.mono hgoals,
      Or.inl (hstopped.mono hgoals)⟩
  | ok applied =>
    obtain ⟨current, names⟩ := applied
    obtain ⟨hreached, rfl, hops, hnames⟩ := happlied
    obtain ⟨result, left', called, calls, hfinish, hfollows, hends⟩ :=
      finish_logged actions hreached (by rw [hops, hsteps]; rfl)
    obtain rfl : log.map Call.name = names := by simpa using hnames
    have hrun := outcomeIn_run_of_applied h hloop
    rw [hfinish] at hrun
    cases result with
    | error f => exact ⟨_, _, _, _, hrun, hfollows, hends⟩
    | ok v => exact ⟨_, _, _, _, hrun, hfollows, hends⟩

/-- A failure in the loop is the failure of the compilation, and completion is never called. -/
theorem run_logged_of_applyActions {b : Builder η ω} {start : η} {actions : List Action}
    {world left : ω} {f : Failure}
    (h : (applyActions b 0 (some start) actions).outcomeIn world = (.error f, left)) :
    ∃ calls, (run b.logged start actions).outcomeIn (world, []) = (.error f, (left, calls)) ∧
      ∀ c ∈ calls, c.operation ≠ .complete := by
  rw [applyActions_eq_applyPlaced] at h
  have halike := alike_applyPlaced (alike_logged b) (some start) (placedSteps 0 actions) world
    (world, []) rfl
  have happlied := applyPlaced_logged b start world (placedSteps 0 actions) world []
    (.nil b start world)
  rcases hloop : (applyPlaced b.logged (some start) (placedSteps 0 actions)).outcomeIn (world, [])
    with ⟨result, left', calls⟩
  rw [h, hloop] at halike
  obtain ⟨rfl, rfl⟩ := halike
  rw [Builder.currentAfter_nil, hloop] at happlied
  refine ⟨calls, ?_, fun c hc hcomplete => ?_⟩
  · exact outcomeIn_run_of_failed (by rw [applyActions_eq_applyPlaced, hloop])
  · -- the calls are for steps
    obtain ⟨called, hfollows, -⟩ := happlied
    have hmem := hfollows.aimed.subset (List.mem_map_of_mem hc)
    simp [hcomplete] at hmem

/-- A builder that exposes a payment, under a name of its own, until it has paid, and completion
from then on: the call for the payment returns nothing. -/
def relay : Builder Unit Bool where
  exposes _ name := do return name = if ← get then "build_unsigned" else "payLovelace"
  call _ _ _ := fun paid => (if paid then .bytes [132, 164, 0] else .nothing, true)

theorem run_calls_in_order_relay :
    [Action.payLovelace "addr_test1qqqqqq" 2] ≠ [] ∧
      (∃ result left called calls,
        (run relay.logged () [.payLovelace "addr_test1qqqqqq" 2]).outcomeIn (false, [])
          = (result, (left, calls)) ∧
        (run relay () [.payLovelace "addr_test1qqqqqq" 2]).outcomeIn false = (result, left) ∧
        relay.Follows () false (operations [.payLovelace "addr_test1qqqqqq" 2]) calls called ∧
        Ends relay () [.payLovelace "addr_test1qqqqqq" 2] calls called left result) ∧
      (run relay () [.payLovelace "addr_test1qqqqqq" 2]).outcomeIn false
        = (.ok ⟨.str "84a400", ["payLovelace"]⟩, true) := by
  have hne : [Action.payLovelace "addr_test1qqqqqq" 2] ≠ [] := List.cons_ne_nil _ _
  exact ⟨hne, run_calls_in_order relay () false _ hne, rfl⟩

end Compile

end TxDraft
