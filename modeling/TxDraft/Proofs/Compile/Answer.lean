import TxDraft.Action.Validation
import TxDraft.Proofs.Builder.Log
import TxDraft.Proofs.Compile.Loop

/-!
# Answers of a compilation

Whatever a builder does, compiling comes to a transaction with a text that is not empty or to a
failure that is worded, unless all steps were applied and completion gave something that counts as
true and is neither a text nor bytes, or a look for an operation failed without words
(`run_settled_iff`).
-/

namespace TxDraft

variable {η ω : Type}

namespace Compile

/-- A transaction with a text that is not empty, or a failure that is worded. -/
def Settled : Attempt UnsignedTransaction → Prop
  | .ok tx => ∃ s, tx.content = .str s ∧ s ≠ ""
  | .error f => f.isWorded = true

/-- What completion may give that counts as true and is neither a text nor bytes, and what becomes
of it: a list or an object has a length, and goes out as it is. -/
inductive Escapes : Outcome η → Attempt Json → Prop
  | handle (h : η) : Escapes (.handle h) (.error (.unexpected .unsized))
  | truth : Escapes (.value (.bool true)) (.error (.unexpected .unsized))
  | int (n : Int) (h : n ≠ 0) : Escapes (.value (.int n)) (.error (.unexpected .unsized))
  | float (x : Binary64) (h : x.isZero = false) :
      Escapes (.value (.float x)) (.error (.unexpected .unsized))
  | list (item : Json) (rest : List Json) :
      Escapes (.value (.arr (item :: rest))) (.ok (.arr (item :: rest)))
  | object (field : Json.Str × Json) (rest : Json.Fields) :
      Escapes (.value (.obj (field :: rest))) (.ok (.obj (field :: rest)))

/-- There are actions, their steps are applied under these names, and completion gives this. -/
structure Completes (b : Builder η ω) (start : η) (actions : List Action) (world : ω)
    (names : List String) (outcome : Outcome η) (left : ω) : Prop where
  nonempty : actions ≠ []
  completed : ∃ current between h name found,
    (applyActions b 0 (some start) actions).outcomeIn world = (.ok (current, names), between) ∧
      (b.resolve current Capability.complete.name .unknown).outcomeIn between =
        (.ok (h, name), found) ∧
      (b.call h name .complete).run found = (outcome, left)

/-- There are actions, and a look fails: for a step, when those before it are applied, or for
completion, when all are. -/
inductive StopsAtLook (b : Builder η ω) (start : η) (actions : List Action) (world : ω) :
    Failure → ω → Prop
  | step {before after : List PlacedStep} {placed : PlacedStep} {current : Option η}
      {names : List String} {between left : ω} {f : Failure}
      (split : placedSteps 0 actions = before ++ placed :: after)
      (applied : (applyPlaced b (some start) before).outcomeIn world =
        (.ok (current, names), between))
      (fails : b.LookFails current (.step placed.step) between f left) :
      StopsAtLook b start actions world f left
  | completion {current : Option η} {names : List String} {between left : ω} {f : Failure}
      (nonempty : actions ≠ [])
      (applied : (applyActions b 0 (some start) actions).outcomeIn world =
        (.ok (current, names), between))
      (fails : b.LookFails current .complete between f left) :
      StopsAtLook b start actions world f left

/-! ### Failures of steps -/

theorem isWorded_or_lookFails {b : Builder η ω} {current : Option η} (operation : Operation)
    {place : Place} {f : Failure} {world left : ω}
    (h : (b.resolve current operation.capability.name place).outcomeIn world = (.error f, left)) :
    f.isWorded = true ∨ b.LookFails current operation world f left := by
  rcases (Builder.resolve_eq_error_iff operation).mp h with ⟨-, rfl⟩ | hfails
  · exact Or.inl rfl
  · exact Or.inr hfails

theorem isWorded_locate (index : Int) (tag : String) (f : Failure) :
    (locate index tag f).isWorded = true := by
  cases f <;> rfl

/-- A step that fails, fails with words, or a look for it failed. -/
theorem isWorded_or_stops_of_applyActions {b : Builder η ω} {start : η} {actions : List Action}
    {world left : ω} {f : Failure}
    (h : (applyActions b 0 (some start) actions).outcomeIn world = (.error f, left)) :
    f.isWorded = true ∨ StopsAtLook b start actions world f left := by
  rw [applyActions_eq_applyPlaced] at h
  obtain ⟨_, placed, _, _, _, _, hsplit, hbefore, hstep⟩ := outcomeIn_applyPlaced_eq_error h
  rcases outcomeIn_applyStep_eq_error_iff.mp hstep with hresolve | ⟨_, _, _, raised, -, -, rfl⟩
  · exact (isWorded_or_lookFails (.step placed.step) hresolve).imp_right (.step hsplit hbefore)
  · exact Or.inl (isWorded_locate _ _ raised)

/-! ### What completion gives -/

theorem isWorded_wordFinish (f : Failure) : (wordFinish f).isWorded = true := by
  cases f <;> rfl

theorem encode_cons_ne_empty (byte : UInt8) (rest : Bytes) : Hex.encode (byte :: rest) ≠ "" := by
  intro h
  have hchars := congrArg String.toList h
  rw [Hex.encode, String.toList_ofList, Hex.encodeChars] at hchars
  cases hchars

theorem content_of_escapes {outcome : Outcome η} {answer : Attempt Json}
    (h : Escapes outcome answer) : content outcome = answer := by
  cases h with
  | int n h => simp [content, Json.isTruthy, h]
  | float x h => simp [content, Json.isTruthy, h]
  | _ => rfl

/-- What completion gave becomes a transaction with a text or a worded failure, or escapes. -/
theorem settled_content_iff (names : List String) (outcome : Outcome η) :
    Settled ((content outcome).map fun v => ⟨v, names⟩) ↔ ¬ ∃ answer, Escapes outcome answer := by
  constructor
  · rintro hsettled ⟨answer, h⟩
    rw [content_of_escapes h] at hsettled
    cases h with
    | list | object =>
      obtain ⟨s, hs, -⟩ := hsettled
      cases hs
    | _ => cases hsettled
  · intro h
    rcases outcome with _ | handle | v | bytes | f
    · rfl
    · exact absurd ⟨_, .handle handle⟩ h
    · rcases v with _ | b | n | x | s | items | fields
      · rfl
      · cases b with
        | false => rfl
        | true => exact absurd ⟨_, .truth⟩ h
      · by_cases hn : n = 0
        · subst hn
          rfl
        · exact absurd ⟨_, .int n hn⟩ h
      · cases hx : x.isZero with
        | true =>
          simp [content, Json.isTruthy, hx, Except.map, Settled, Failure.isWorded, Failure.status?]
        | false => exact absurd ⟨_, .float x hx⟩ h
      · by_cases hs : s = .plain ""
        · subst hs
          rfl
        · simp [content, Json.isTruthy, hs, Except.map, Settled]
      · cases items with
        | nil => rfl
        | cons item rest => exact absurd ⟨_, .list item rest⟩ h
      · cases fields with
        | nil => rfl
        | cons field rest => exact absurd ⟨_, .object field rest⟩ h
    · cases bytes with
      | nil => rfl
      | cons byte rest =>
        exact ⟨_, rfl, fun h => encode_cons_ne_empty byte rest (Json.Str.plain.inj h)⟩
    · exact isWorded_wordFinish f

/-! ### Runs -/

/-- A completed run answers with what became of the outcome of completion. -/
theorem Completes.outcomeIn_run {b : Builder η ω} {start : η} {actions : List Action}
    {world left : ω} {names : List String} {outcome : Outcome η}
    (h : Completes b start actions world names outcome left) :
    (run b start actions).outcomeIn world =
      ((content outcome).map fun v => ⟨v, names⟩, left) := by
  obtain ⟨current, between, handle, name, found, happly, hresolve, hcall⟩ := h.completed
  rw [outcomeIn_run_of_applied h.nonempty happly, outcomeIn_finish, hresolve]
  simp only [hcall]

/-- A failure of a look leaves the run as it is. -/
theorem StopsAtLook.outcomeIn_run {b : Builder η ω} {start : η} {actions : List Action}
    {world left : ω} {f : Failure} (h : StopsAtLook b start actions world f left) :
    (run b start actions).outcomeIn world = (.error f, left) := by
  cases h with
  | @step before after placed current names between left f split applied fails =>
    have hstep : (applyStep b placed.index placed.tag current placed.step).outcomeIn between =
        (.error f, left) :=
      outcomeIn_applyStep_eq_error_iff.mpr
        (Or.inl ((Builder.resolve_eq_error_iff (.step placed.step)).mpr (Or.inr fails)))
    apply outcomeIn_run_of_failed
    rw [applyActions_eq_applyPlaced, split, applyPlaced_append]
    simp only [Work.outcomeIn_bind, applied, applyPlaced, hstep]
  | @completion current names between left f nonempty applied fails =>
    have hresolve : (b.resolve current Capability.complete.name .unknown).outcomeIn between =
        (.error f, left) := (Builder.resolve_eq_error_iff .complete).mpr (Or.inr fails)
    rw [outcomeIn_run_of_applied nonempty applied, outcomeIn_finish, hresolve]
    rfl

/-- A run is completed, it fails with words, or a look fails in it. -/
theorem completes_or_fails (b : Builder η ω) (start : η) (actions : List Action) (world : ω) :
    (∃ names outcome left, Completes b start actions world names outcome left) ∨
      ∃ f left, (run b start actions).outcomeIn world = (.error f, left) ∧
        (f.isWorded = true ∨ StopsAtLook b start actions world f left) := by
  by_cases hne : actions = []
  · subst hne
    exact .inr ⟨_, world, rfl, .inl rfl⟩
  rcases happly : (applyActions b 0 (some start) actions).outcomeIn world
    with ⟨f | ⟨current, names⟩, between⟩
  · exact .inr ⟨f, between, outcomeIn_run_of_failed happly,
      isWorded_or_stops_of_applyActions happly⟩
  rcases hresolve : (b.resolve current Capability.complete.name .unknown).outcomeIn between with
    ⟨f | ⟨handle, name⟩, found⟩
  · refine .inr ⟨f, found, ?_, (isWorded_or_lookFails .complete hresolve).imp_right
      (.completion hne happly)⟩
    rw [outcomeIn_run_of_applied hne happly, outcomeIn_finish, hresolve]
    rfl
  · exact .inl ⟨names, _, _, hne, current, between, handle, name, found, happly, hresolve, rfl⟩

/-- Compiling comes to a transaction with a text or to a worded failure, unless completion gave
something that escapes, or a look failed without words; then that comes out. -/
theorem run_settled_iff (b : Builder η ω) (start : η) (actions : List Action) (world : ω) :
    (Settled ((run b start actions).outcomeIn world).1 ↔
      (¬ ∃ names outcome left answer,
        Completes b start actions world names outcome left ∧ Escapes outcome answer) ∧
      ∀ f left, StopsAtLook b start actions world f left → f.isWorded = true) ∧
    (∀ names outcome left answer, Completes b start actions world names outcome left →
      Escapes outcome answer →
        (run b start actions).outcomeIn world = (answer.map fun v => ⟨v, names⟩, left)) ∧
    ∀ f left, StopsAtLook b start actions world f left →
      (run b start actions).outcomeIn world = (.error f, left) := by
  refine ⟨⟨fun hsettled => ⟨?_, fun f left hstops => ?_⟩, fun ⟨hnone, hworded⟩ => ?_⟩,
    fun names outcome left answer h hescapes => ?_, fun f left hstops => hstops.outcomeIn_run⟩
  · rintro ⟨names, outcome, left, answer, h, hescapes⟩
    rw [h.outcomeIn_run] at hsettled
    exact (settled_content_iff names outcome).mp hsettled ⟨answer, hescapes⟩
  · rw [hstops.outcomeIn_run] at hsettled
    exact hsettled
  · rcases completes_or_fails b start actions world with
      ⟨names, outcome, left, h⟩ | ⟨f, left, hf, hw⟩
    · rw [h.outcomeIn_run]
      refine (settled_content_iff names outcome).mpr ?_
      rintro ⟨answer, hescapes⟩
      exact hnone ⟨names, outcome, left, answer, h, hescapes⟩
    · rw [hf]
      exact hw.elim id (hworded f left)
  · rw [h.outcomeIn_run, content_of_escapes hescapes]

/-- A builder that exposes everything, and whose completion gives five. -/
def counting : Builder Unit Unit where
  exposes _ _ := return true
  call _ _ operation := pure <|
    match operation with
    | .step _ => .nothing
    | .complete => .value (.int 5)

theorem completes_counting :
    Completes counting () [.validity (some 5) none] () ["valid_from"] (.value (.int 5)) () :=
  ⟨List.cons_ne_nil _ _, some (), (), (), "complete", (), rfl, rfl, rfl⟩

/-- A builder that breaks when it is asked for completion. -/
def brittle : Builder Unit Unit where
  exposes _ name :=
    .ofAttempt (if name = "complete" then .error (.unexpected .ledger) else .ok true)
  call _ _ _ := pure .nothing

theorem stopsAtLook_brittle :
    StopsAtLook brittle () [.validity (some 5) none] () (.unexpected .ledger) () :=
  .completion (List.cons_ne_nil _ _) rfl ⟨(), rfl, .failed rfl⟩

theorem run_settled_iff_counting :
    Completes counting () [.validity (some 5) none] () ["valid_from"] (.value (.int 5)) () ∧
      Escapes (.value (.int 5) : Outcome Unit) (.error (.unexpected .unsized)) ∧
      (run counting () [.validity (some 5) none]).outcomeIn () =
        (.error (.unexpected .unsized), ()) ∧
      StopsAtLook brittle () [.validity (some 5) none] () (.unexpected .ledger) () ∧
      (run brittle () [.validity (some 5) none]).outcomeIn () =
        (.error (.unexpected .ledger), ()) :=
  ⟨completes_counting, .int 5 (by decide),
    (run_settled_iff counting () _ ()).2.1 _ _ _ _ completes_counting (.int 5 (by decide)),
    stopsAtLook_brittle, (run_settled_iff brittle () _ ()).2.2 _ _ stopsAtLook_brittle⟩

/-- A number for a transaction is neither: it cannot be measured, and no words are found for it. -/
theorem counting_not_settled :
    Action.validateAll none (.arr [.obj [("type", .str "validity"), ("validFrom", .int 5)]]) =
        .ok [.validity (some 5) none] ∧
      ¬ Settled ((run counting () [.validity (some 5) none]).outcomeIn ()).1 :=
  ⟨rfl, fun h => Bool.false_ne_true h⟩

end Compile

end TxDraft
