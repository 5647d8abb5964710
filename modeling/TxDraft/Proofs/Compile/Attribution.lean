import TxDraft.Proofs.Compile.Order

/-!
# Which action a failed compilation belongs to

`run_fails_where`: a compilation that fails does so at one step of one action, or behind all of
them.  In the first case the calls are exactly the steps before that one, in order, with the failing
call behind them if there was one; the failure says the position and the tag of that action, unless
it came with a position of its own or is of a class that has none.  In the second case no position
is added to the failure.  Calls are attributed, and that there is nothing to call; a failure of the
look itself is left as it is.

The failing step is the first one that fails in the one loop over all steps
(`outcomeIn_applyPlaced_eq_error`), and it is found again in the actions by `exists_site`.
-/

namespace TxDraft

variable {η ω : Type}

/-- The position of an action that a failure says, if it says one. -/
def Failure.index? (f : Failure) : Option Int :=
  f.place?.bind Place.index

theorem Action.tag_ne_empty (action : Action) : action.tag ≠ "" := by
  cases action <;> exact of_decide_eq_true rfl

namespace Compile

/-! ### Steps in their sequence -/

/-- A step of an action in a sequence of actions, with all that comes before it and behind it. -/
structure Site (actions : List Action) where
  earlier : List Action
  action : Action
  later : List Action
  done : List Step
  step : Step
  rest : List Step
  actions_eq : actions = earlier ++ action :: later
  steps_eq : action.steps = done ++ step :: rest

namespace Site

variable {actions : List Action}

/-- The position of the action. -/
def index (s : Site actions) : Int :=
  s.earlier.length

/-- What is to be done before the step: all steps of earlier actions, and the earlier steps of the
same action. -/
def before (s : Site actions) : List Operation :=
  (s.earlier.flatMap Action.steps ++ s.done).map Operation.step

/-- The same step in a sequence with one more action in front. -/
def behind (s : Site actions) (action : Action) : Site (action :: actions) :=
  { s with
    earlier := action :: s.earlier
    actions_eq := congrArg (action :: ·) s.actions_eq }

theorem before_behind (s : Site actions) (action : Action) :
    (s.behind action).before = action.steps.map Operation.step ++ s.before := by
  simp only [before, behind, List.flatMap_cons, List.append_assoc, List.map_append]

end Site

/-- Each placed step stands at a site, with the position of its action counted from the first. -/
theorem exists_site {actions : List Action} {index : Int} {before after : List PlacedStep}
    {placed : PlacedStep} (h : placedSteps index actions = before ++ placed :: after) :
    ∃ s : Site actions, placed = ⟨index + s.index, s.action.tag, s.step⟩ ∧
      before.map (Operation.step ·.step) = s.before := by
  induction actions generalizing index before with
  | nil => simp [placedSteps] at h
  | cons action rest ih =>
    rw [placedSteps] at h
    -- the step is one of a later action, or one of the first
    have later : ∀ before', before = action.steps.map (PlacedStep.mk index action.tag) ++ before' →
        placedSteps (index + 1) rest = before' ++ placed :: after →
        ∃ s : Site (action :: rest), placed = ⟨index + s.index, s.action.tag, s.step⟩ ∧
          before.map (Operation.step ·.step) = s.before := by
      rintro before' rfl hrest
      obtain ⟨s, rfl, hbefore⟩ := ih hrest
      refine ⟨s.behind action, ?_, ?_⟩
      · simp only [Site.behind, Site.index, List.length_cons, PlacedStep.mk.injEq, and_true]
        omega
      · rw [Site.before_behind, List.map_append, hbefore, List.map_map]
        rfl
    rcases List.append_eq_append_iff.mp h with ⟨before', hbefore, hrest⟩ | ⟨own, hown, hrest⟩
    · exact later before' hbefore hrest
    · cases own with
      | nil => exact later [] (by simpa using hown.symm) hrest.symm
      | cons first more =>
        obtain ⟨rfl, -⟩ := List.cons.inj hrest
        obtain ⟨done, steps, hsteps, rfl, hmore⟩ := List.map_eq_append_iff.mp hown
        obtain ⟨step, rest', rfl, rfl, -⟩ := List.map_eq_cons_iff.mp hmore
        refine ⟨⟨[], action, rest, done, step, rest', rfl, hsteps⟩, ?_, ?_⟩
        · simp [Site.index]
        · simp [Site.before]

/-! ### How a compilation fails -/

/-- What becomes of a failure that was raised for an action: without a position it gets the place
of the action, a failure that is not worded gets words and that place, and all others are kept. -/
inductive Attributed (index : Int) (tag : String) : Failure → Failure → Prop
  | unworded (why : Unexpected) :
      Attributed index tag (.unexpected why)
        (.compilation (.stepFailed tag why) ⟨some index, some tag⟩)
  | compilation (cause : CompilationCause) (action : Option String) :
      Attributed index tag (.compilation cause ⟨none, action⟩)
        (.compilation cause ⟨some index, some tag⟩)
  | unsupported (operation : String) (candidates : List String) (action : Option String) :
      Attributed index tag (.unsupported operation candidates ⟨none, action⟩)
        (.unsupported operation candidates ⟨some index, some tag⟩)
  | kept (f : Failure) (worded : f.isWorded = true)
      (placed : ∀ place, f.place? = some place → place.index ≠ none) : Attributed index tag f f

theorem attributed_locate (index : Int) (tag : String) (f : Failure) :
    Attributed index tag f (locate index tag f) := by
  have kept : ∀ place : Place, place.index ≠ none → ∀ place', some place = some place' →
      place'.index ≠ none := by
    rintro place h _ ⟨⟩
    exact h
  cases f with
  | compilation cause place =>
    obtain ⟨_ | n, action⟩ := place
    · exact .compilation cause action
    · exact .kept _ rfl (kept _ (Option.some_ne_none n))
  | unsupported operation candidates place =>
    obtain ⟨_ | n, action⟩ := place
    · exact .unsupported operation candidates action
    · exact .kept _ rfl (kept _ (Option.some_ne_none n))
  | unexpected why => exact .unworded why
  | _ => exact .kept _ rfl nofun

/-- How a compilation fails, after which calls and in which world. -/
inductive Fails (b : Builder η ω) (start : η) (world : ω) (actions : List Action) :
    List (Call η) → ω → Failure → Prop
  /-- There is nothing to compile. -/
  | empty (nothing : actions = []) :
      Fails b start world actions [] world
        (.single "actions" "at least one action is required")
  /-- The current builder exposes nothing for a step. -/
  | missing (s : Site actions) {calls : List (Call η)} {called left : ω}
      (reached : b.Reached start world calls called)
      (applied : calls.map Call.operation = s.before)
      (unexposed : b.Unexposed (Builder.currentAfter start calls) (.step s.step) called left) :
      Fails b start world actions calls left
        (.unsupported s.action.tag s.step.capability.candidates ⟨some s.index, some s.action.tag⟩)
  /-- A look for a step's operation fails; nothing was called for the step, and the failure is left
  as it is. -/
  | unseen (s : Site actions) {calls : List (Call η)} {called left : ω} {f : Failure}
      (reached : b.Reached start world calls called)
      (applied : calls.map Call.operation = s.before)
      (fails : b.LookFails (Builder.currentAfter start calls) (.step s.step) called f left) :
      Fails b start world actions calls left f
  /-- The call for a step fails. -/
  | raised (s : Site actions) {calls : List (Call η)} {call : Call η} {called left : ω}
      {raised f : Failure}
      (reached : b.Reached start world calls called)
      (applied : calls.map Call.operation = s.before)
      (orderly : b.Orderly start world (calls ++ [call]) left)
      (operation : call.operation = .step s.step)
      (outcome : call.outcome = .failed raised)
      (attributed : Attributed s.index s.action.tag raised f) :
      Fails b start world actions (calls ++ [call]) left f
  /-- All steps are applied, and the current builder exposes nothing to complete it. -/
  | incomplete {calls : List (Call η)} {called left : ω}
      (reached : b.Reached start world calls called)
      (applied : calls.map Call.operation = (actions.flatMap Action.steps).map Operation.step)
      (unexposed : b.Unexposed (Builder.currentAfter start calls) .complete called left) :
      Fails b start world actions calls left
        (.unsupported "complete" Capability.complete.candidates ⟨none, some "complete"⟩)
  /-- All steps are applied, and a look for completion fails; the failure is left as it is. -/
  | unseenEnd {calls : List (Call η)} {called left : ω} {f : Failure}
      (reached : b.Reached start world calls called)
      (applied : calls.map Call.operation = (actions.flatMap Action.steps).map Operation.step)
      (fails : b.LookFails (Builder.currentAfter start calls) .complete called f left) :
      Fails b start world actions calls left f
  /-- All steps are applied, and completion gives no transaction: the failure has no position but
  one that it was raised with. -/
  | unfinished {calls : List (Call η)} {call : Call η} {called left : ω} {f : Failure}
      (reached : b.Reached start world calls called)
      (applied : calls.map Call.operation = (actions.flatMap Action.steps).map Operation.step)
      (orderly : b.Orderly start world (calls ++ [call]) left)
      (operation : call.operation = .complete)
      (refused : content call.outcome = .error f)
      (unplaced : f.index? = none ∨ call.outcome = .failed f) :
      Fails b start world actions (calls ++ [call]) left f

variable {b : Builder η ω} {start : η} {world left : ω} {actions : List Action}
  {calls : List (Call η)} {f : Failure}

/-- A failure in the loop belongs to the action whose step failed. -/
theorem fails_of_applyPlaced
    (h : (applyPlaced b.logged (some start) (placedSteps 0 actions)).outcomeIn (world, [])
      = (.error f, (left, calls))) : Fails b start world actions calls left f := by
  obtain ⟨before, placed, after, current, names, ⟨between, log⟩, hsplit, hbefore, hstep⟩ :=
    outcomeIn_applyPlaced_eq_error h
  -- the steps before the failing one were applied, and their calls are the log
  have happlied := applyPlaced_logged b start world before world [] (.nil b start world)
  rw [Builder.currentAfter_nil, hbefore] at happlied
  obtain ⟨hreached, rfl, hops, -⟩ := happlied
  obtain ⟨s, rfl, hdone⟩ := exists_site hsplit
  have happlied : log.map Call.operation = s.before := by rw [hops, ← hdone]; rfl
  simp only [Int.zero_add] at hstep
  rcases outcomeIn_applyStep_eq_error_iff.mp hstep with hresolve |
    ⟨handle, name, ⟨found, log'⟩, raised, hresolve, hcall, rfl⟩
  · rw [outcomeIn_resolve_logged] at hresolve
    obtain ⟨hresult, hleft⟩ := Prod.mk.inj hresolve
    cases hleft
    rcases (Builder.resolve_eq_error_iff (.step s.step)).mp (Prod.ext hresult rfl) with
      ⟨hunexposed, rfl⟩ | hfails
    · rw [Operation.wanted_of_action _ _ s.action.tag_ne_empty]
      exact .missing s hreached happlied hunexposed
    · exact .unseen s hreached happlied hfails
  · rw [outcomeIn_resolve_logged] at hresolve
    obtain ⟨hresult, hleft⟩ := Prod.mk.inj hresolve
    cases hleft
    obtain ⟨hcurrent, hname⟩ :=
      (Builder.resolve_eq_ok_iff (.step s.step)).mp (Prod.ext hresult rfl)
    rw [Builder.call_logged] at hcall
    obtain ⟨hraised, hleft⟩ := Prod.mk.inj hcall
    cases hleft
    rw [hraised]
    exact .raised s hreached happlied
      (hreached.toOrderly.concat hcurrent hname (Prod.ext hraised rfl)) rfl rfl
      (attributed_locate _ _ raised)

/-- What completion gives gets no position. -/
theorem index?_of_content {outcome : Outcome η} (h : content outcome = .error f) :
    f.index? = none ∨ outcome = .failed f := by
  cases outcome with
  | nothing | handle => cases h; exact Or.inl rfl
  | failed raised =>
    cases raised with
    | unexpected why => cases h; exact Or.inl rfl
    | _ => cases h; exact Or.inr rfl
  | bytes bytes =>
    cases bytes with
    | nil => cases h; exact Or.inl rfl
    | cons byte rest => cases h
  | value v =>
    -- refused is what counts as false, and what has no length
    dsimp only [content] at h
    split at h
    · cases h; exact Or.inl rfl
    · cases v <;> cases h <;> exact Or.inl rfl

/-- A failure behind the loop belongs to no action. -/
theorem fails_of_finish {between : ω} {log : List (Call η)}
    (hreached : b.Reached start world log between)
    (hops : log.map Call.operation = (actions.flatMap Action.steps).map Operation.step)
    (h : (finish b.logged (Builder.currentAfter start log)).outcomeIn (between, log)
      = (.error f, (left, calls))) : Fails b start world actions calls left f := by
  rw [outcomeIn_finish, outcomeIn_resolve_logged] at h
  rcases hresolve : (b.resolve (Builder.currentAfter start log) Capability.complete.name
      .unknown).outcomeIn between with ⟨f' | ⟨handle, name⟩, found⟩
  · rw [hresolve] at h
    cases h
    rcases (Builder.resolve_eq_error_iff .complete).mp hresolve with ⟨hunexposed, rfl⟩ | hfails
    · exact .incomplete hreached hops hunexposed
    · exact .unseenEnd hreached hops hfails
  · obtain ⟨hcurrent, hname⟩ := (Builder.resolve_eq_ok_iff .complete).mp hresolve
    simp only [hresolve, Builder.call_logged] at h
    rcases hcall : (b.call handle name .complete).run found with ⟨outcome, after⟩
    rw [hcall] at h
    obtain ⟨hcontent, hleft⟩ := Prod.mk.inj h
    cases hleft
    exact .unfinished hreached hops (hreached.toOrderly.concat hcurrent hname hcall) rfl hcontent
      (index?_of_content hcontent)

/-- A compilation fails at the first step that fails, after all steps before it were applied and
none behind it, and the failure is attributed to the action of that step; or it fails behind all
steps, and then it belongs to no action. -/
theorem run_fails_where (b : Builder η ω) (start : η) (world left : ω) (actions : List Action)
    (f : Failure) (h : (run b start actions).outcomeIn world = (.error f, left)) :
    ∃ calls, (run b.logged start actions).outcomeIn (world, []) = (.error f, (left, calls)) ∧
      Fails b start world actions calls left f := by
  rw [unlogged_run b start actions world []] at h
  rcases hrun : (run b.logged start actions).outcomeIn (world, []) with ⟨result, left', calls⟩
  rw [hrun] at h
  cases h
  refine ⟨calls, rfl, ?_⟩
  by_cases hempty : actions = []
  · subst hempty
    cases hrun
    exact .empty rfl
  unfold run at hrun
  simp only [List.isEmpty_iff, hempty, if_false, applyActions_eq_applyPlaced] at hrun
  rcases Work.outcomeIn_bind_eq_error_iff.mp hrun with hloop |
    ⟨⟨current, names⟩, ⟨between, log⟩, hloop, hrest⟩
  · exact fails_of_applyPlaced hloop
  · have happlied := applyPlaced_logged b start world (placedSteps 0 actions) world []
      (.nil b start world)
    rw [Builder.currentAfter_nil, hloop] at happlied
    obtain ⟨hreached, rfl, hops, -⟩ := happlied
    rcases Work.outcomeIn_bind_eq_error_iff.mp hrest with hfinish | ⟨_, _, -, hpure⟩
    · exact fails_of_finish hreached (by rw [hops, map_operation_placedSteps]; rfl) hfinish
    · cases hpure

/-- A builder that counts its calls and refuses to let a transaction end. -/
def endless : Builder Unit Nat where
  exposes _ _ := return true
  call _ _ operation := fun count =>
    match operation with
    | .step (.validTo _) => (.failed (.compilation (.reported "no end") .unknown), count + 1)
    | _ => (.nothing, count + 1)

/-- The end of the validity is the second step of the second action. -/
theorem run_fails_where_endless :
    (run endless () [.requiredSigner "00", .validity (some 5) (some 9)]).outcomeIn 0 =
        (.error (.compilation (.reported "no end") ⟨some 1, some "validity"⟩), 3) ∧
      ∃ calls,
        (run endless.logged () [.requiredSigner "00", .validity (some 5) (some 9)]).outcomeIn
            (0, []) =
          (.error (.compilation (.reported "no end") ⟨some 1, some "validity"⟩), (3, calls)) ∧
        Fails endless () 0 [.requiredSigner "00", .validity (some 5) (some 9)] calls 3
          (.compilation (.reported "no end") ⟨some 1, some "validity"⟩) :=
  ⟨rfl, run_fails_where endless () 0 3 _ _ rfl⟩

end Compile

end TxDraft
