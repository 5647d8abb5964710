import TxDraft.Failure

/-!
# What a computation in a world does

`Work.outcomeIn` runs a computation in a world and gives its result together with the world that it
leaves.  The equations below say what it is for each way of putting computations together, so that
a proof about a run never looks inside the monads; `outcomeIn_bind` is the one that carries the
rule that a failure ends the work and keeps the world as it is.

A computation fails in some way (`Work.FailsAs`) if one of its parts does, in the world that the
parts before it leave (`failsAs_bind`).  It leads from a world only to worlds in some relation to it
(`Work.Leads`) if each of its parts does and the relation is a preorder.

Two computations in different worlds are alike (`Work.Alike`) if in related worlds they give the
same result and leave related worlds.  So a computation is compared with its copy that keeps a log:
likeness is put together from the parts, by one rule for each way of putting computations together.
-/

namespace TxDraft.Work

variable {ω δ α β : Type}

/-- The result of a computation in a world, and the world that it leaves. -/
def outcomeIn (work : Work ω α) (world : ω) : Attempt α × ω :=
  work.run.run world

@[simp] theorem outcomeIn_pure (a : α) (world : ω) :
    (pure a : Work ω α).outcomeIn world = (.ok a, world) := rfl

@[simp] theorem outcomeIn_ofAttempt (a : Attempt α) (world : ω) :
    (ofAttempt a).outcomeIn world = (a, world) := rfl

@[simp] theorem outcomeIn_lift (act : StateM ω α) (world : ω) :
    outcomeIn (ExceptT.lift act) world = (.ok (act.run world).1, (act.run world).2) := rfl

/-- An action on the world whose result is read as an attempt. -/
@[simp] theorem outcomeIn_mk_map (act : StateM ω β) (read : β → Attempt α) (world : ω) :
    outcomeIn (ExceptT.mk (StateT.map read act)) world
      = (read (act.run world).1, (act.run world).2) := rfl

/-- To attempt something is to keep its failure as a result. -/
theorem outcomeIn_attempt (work : Work ω α) (world : ω) :
    work.attempt.outcomeIn world = (.ok (work.outcomeIn world).1, (work.outcomeIn world).2) := rfl

/-- One computation after another: the second runs in the world that the first leaves, unless the
first fails. -/
theorem outcomeIn_bind (work : Work ω α) (next : α → Work ω β) (world : ω) :
    (work >>= next).outcomeIn world =
      match work.outcomeIn world with
      | (.ok a, left) => (next a).outcomeIn left
      | (.error f, left) => (.error f, left) := by
  show (work >>= next).run.run world = _
  rw [ExceptT.run_bind, StateT.run_bind]
  unfold outcomeIn
  rcases h : work.run.run world with ⟨r, left⟩
  show StateT.run _ left = _
  cases r <;> rfl

@[simp] theorem outcomeIn_mapFailure (f : Failure → Failure) (work : Work ω α) (world : ω) :
    (work.mapFailure f).outcomeIn world =
      ((work.outcomeIn world).1.mapError f, (work.outcomeIn world).2) := rfl

theorem outcomeIn_get_bind (next : ω → Work ω α) (world : ω) :
    (get >>= next).outcomeIn world = (next world).outcomeIn world := rfl

/-- What comes out of two computations comes out of the second, after the first came to a result. -/
theorem outcomeIn_bind_eq_ok_iff {work : Work ω α} {next : α → Work ω β} {world left : ω} {b : β} :
    (work >>= next).outcomeIn world = (.ok b, left) ↔
      ∃ a between, work.outcomeIn world = (.ok a, between) ∧
        (next a).outcomeIn between = (.ok b, left) := by
  rw [outcomeIn_bind]
  rcases work.outcomeIn world with ⟨_ | a, between⟩
  · simp
  · constructor
    · exact fun h => ⟨a, between, rfl, h⟩
    · rintro ⟨_, _, ⟨⟩, h⟩
      exact h

/-- What fails in two computations fails in the first, or in the second after the first came to a
result. -/
theorem outcomeIn_bind_eq_error_iff {work : Work ω α} {next : α → Work ω β} {world left : ω}
    {f : Failure} :
    (work >>= next).outcomeIn world = (.error f, left) ↔
      work.outcomeIn world = (.error f, left) ∨
        ∃ a between, work.outcomeIn world = (.ok a, between) ∧
          (next a).outcomeIn between = (.error f, left) := by
  rw [outcomeIn_bind]
  rcases work.outcomeIn world with ⟨_ | a, between⟩
  · simp
  · constructor
    · exact fun h => Or.inr ⟨a, between, rfl, h⟩
    · rintro (hwork | ⟨_, _, ⟨⟩, h⟩)
      · cases hwork
      · exact h

theorem outcomeIn_ofAttempt_bind_eq_ok_iff {a : Attempt α} {next : α → Work ω β} {world left : ω}
    {b : β} :
    (ofAttempt a >>= next).outcomeIn world = (.ok b, left) ↔
      ∃ x, a = .ok x ∧ (next x).outcomeIn world = (.ok b, left) := by
  rw [outcomeIn_bind, outcomeIn_ofAttempt]
  cases a <;> simp

theorem forM_cons_eq_ok_iff {work : α → Work ω PUnit} {a : α} {rest : List α} {world left : ω} :
    ((a :: rest).forM work).outcomeIn world = (.ok (), left) ↔
      ∃ between, (work a).outcomeIn world = (.ok (), between) ∧
        (rest.forM work).outcomeIn between = (.ok (), left) := by
  show (work a >>= fun _ => rest.forM work).outcomeIn world = _ ↔ _
  rw [outcomeIn_bind_eq_ok_iff]
  exact ⟨fun ⟨⟨⟩, h⟩ => h, fun h => ⟨⟨⟩, h⟩⟩

theorem forM_singleton_eq_ok_iff {work : α → Work ω PUnit} {a : α} {world left : ω} :
    ([a].forM work).outcomeIn world = (.ok (), left) ↔
      (work a).outcomeIn world = (.ok (), left) := by
  rw [forM_cons_eq_ok_iff]
  constructor
  · rintro ⟨_, ha, ⟨⟩⟩
    exact ha
  · exact fun ha => ⟨left, ha, rfl⟩

theorem forM_append_eq_ok_iff {work : α → Work ω PUnit} {first second : List α} {world left : ω} :
    ((first ++ second).forM work).outcomeIn world = (.ok (), left) ↔
      ∃ between, (first.forM work).outcomeIn world = (.ok (), between) ∧
        (second.forM work).outcomeIn between = (.ok (), left) := by
  induction first generalizing world with
  | nil =>
    constructor
    · exact fun h => ⟨world, rfl, h⟩
    · rintro ⟨_, ⟨⟩, h⟩
      exact h
  | cons a rest ih =>
    simp only [List.cons_append, forM_cons_eq_ok_iff, ih]
    constructor
    · rintro ⟨between, ha, between', hrest, hsecond⟩
      exact ⟨between', ⟨between, ha, hrest⟩, hsecond⟩
    · rintro ⟨between', ⟨between, ha, hrest⟩, hsecond⟩
      exact ⟨between, ha, between', hrest, hsecond⟩

/-! ### Computations that fail -/

/-- The computation fails, with a failure of this kind. -/
def FailsAs (P : Failure → Prop) (work : Work ω α) (world : ω) : Prop :=
  ∃ f left, work.outcomeIn world = (.error f, left) ∧ P f

variable {P : Failure → Prop}

@[simp] theorem not_failsAs_pure (a : α) (world : ω) :
    ¬ FailsAs P (pure a : Work ω α) world := by
  rintro ⟨f, left, h, -⟩
  cases h

@[simp] theorem failsAs_ofAttempt {a : Attempt α} {world : ω} :
    FailsAs P (ofAttempt a) world ↔ ∃ f, a = .error f ∧ P f := by
  simp [FailsAs]

/-- Two computations fail if the first one does, or if the second does in the world that the first
leaves with its result. -/
theorem failsAs_bind {work : Work ω α} {next : α → Work ω β} {world : ω} :
    FailsAs P (work >>= next) world ↔
      FailsAs P work world ∨
        ∃ a left, work.outcomeIn world = (.ok a, left) ∧ FailsAs P (next a) left := by
  unfold FailsAs
  rw [outcomeIn_bind]
  rcases work.outcomeIn world with ⟨_ | a, between⟩
  · simp
  · constructor
    · exact fun h => Or.inr ⟨a, between, rfl, h⟩
    · rintro (⟨_, _, ⟨⟩, -⟩ | ⟨_, _, ⟨⟩, h⟩)
      exact h

theorem failsAs_bind_pure {work : Work ω α} {g : α → β} {world : ω} :
    FailsAs P (work >>= fun a => pure (g a)) world ↔ FailsAs P work world := by
  simp only [failsAs_bind, not_failsAs_pure, and_false, exists_false, or_false]

theorem failsAs_ofAttempt_bind {a : Attempt α} {next : α → Work ω β} {world : ω} :
    FailsAs P (ofAttempt a >>= next) world ↔
      (∃ f, a = .error f ∧ P f) ∨ ∃ x, a = .ok x ∧ FailsAs P (next x) world := by
  rw [failsAs_bind, failsAs_ofAttempt]
  simp [and_assoc]

/-! ### Where computations lead -/

/-- Whatever becomes of the computation, the world that it finds is related to the one it leaves. -/
def Leads (R : ω → ω → Prop) (work : Work ω α) : Prop :=
  ∀ world, R world (work.outcomeIn world).2

namespace Leads

variable {R : ω → ω → Prop}

theorem ofAttempt [Std.Refl R] (a : Attempt α) : Leads R (Work.ofAttempt a) :=
  fun world => Std.Refl.refl world

theorem change {f : ω → ω} (h : ∀ world, R world (f world)) : Leads R (Work.change f) :=
  h

theorem bind [Trans R R R] {work : Work ω α} {next : α → Work ω β} (h : Leads R work)
    (hnext : ∀ a, Leads R (next a)) : Leads R (work >>= next) := by
  intro world
  have hwork : R world (work.outcomeIn world).2 := h world
  rw [outcomeIn_bind]
  rcases hrun : work.outcomeIn world with ⟨_ | a, left⟩
  · rwa [hrun] at hwork
  · rw [hrun] at hwork
    exact Trans.trans hwork (hnext a left)

theorem get [Std.Refl R] : Leads R (get : Work ω ω) :=
  fun world => Std.Refl.refl world

/-- A computation that may be refused, and else goes on. -/
theorem refused_or [Std.Refl R] {c : Prop} [Decidable c] {f : Failure}
    {next : PUnit → Work ω α} (h : Leads R (next ⟨⟩)) :
    Leads R (if c then (throw f : Work ω PUnit) >>= next else next ⟨⟩) := by
  split
  · exact fun world => Std.Refl.refl world
  · exact h

/-- A part of the world is exchanged for another one. -/
theorem within {get : ω → δ} {put : δ → ω → ω} {work : Work δ α}
    (h : ∀ inner world, R world (put inner world)) : Leads R (work.within get put) :=
  fun world => h _ world

end Leads

/-! ### Computations that are alike -/

/-- In related worlds the computations give the same result, and they leave related worlds. -/
def Alike (R : ω → δ → Prop) (work : Work ω α) (other : Work δ α) : Prop :=
  ∀ world world', R world world' →
    (work.outcomeIn world).1 = (other.outcomeIn world').1 ∧
      R (work.outcomeIn world).2 (other.outcomeIn world').2

variable {R : ω → δ → Prop}

theorem Alike.ofAttempt (a : Attempt α) : Alike R (Work.ofAttempt a) (Work.ofAttempt a) :=
  fun _ _ h => ⟨rfl, h⟩

theorem Alike.pure (a : α) : Alike R (pure a) (pure a) :=
  fun _ _ h => ⟨rfl, h⟩

theorem Alike.mapFailure {work : Work ω α} {other : Work δ α} (h : Alike R work other)
    (f : Failure → Failure) : Alike R (work.mapFailure f) (other.mapFailure f) := by
  intro world world' hR
  obtain ⟨hresult, hleft⟩ := h world world' hR
  exact ⟨congrArg (Except.mapError f) hresult, hleft⟩

theorem Alike.bind {work : Work ω α} {other : Work δ α} {next : α → Work ω β}
    {next' : α → Work δ β} (h : Alike R work other) (hnext : ∀ a, Alike R (next a) (next' a)) :
    Alike R (work >>= next) (other >>= next') := by
  intro world world' hR
  obtain ⟨hresult, hleft⟩ := h world world' hR
  rw [outcomeIn_bind, outcomeIn_bind]
  rcases hwork : work.outcomeIn world with ⟨result, left⟩
  rcases hother : other.outcomeIn world' with ⟨result', left'⟩
  rw [hwork, hother] at hresult hleft
  obtain rfl : result = result' := hresult
  cases result with
  | error f => exact ⟨rfl, hleft⟩
  | ok a => exact hnext a left left' hleft

end TxDraft.Work
