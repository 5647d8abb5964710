import TxDraft.Builder
import TxDraft.Proofs.Work

/-!
# Logged builders

`Builder.logged` is a builder that writes down every call of an operation behind its own world:
on which handle, by which name, for what, and with what outcome.  A row of calls is read on its
own: `currentAfter` is the builder that is current after it, the last one that a call gave back,
and `Happened` says that in a given world the builder itself did this, one call after the other:
the candidates for the operation were looked up in order, the name of the call is the first that was
exposed then (`Looks`), and the call had this outcome.  `Orderly` adds that every call was made on
the builder that was current.
-/

namespace TxDraft

variable {η ω : Type}

namespace Outcome

/-- Did the call return? -/
def returned : Outcome η → Bool
  | failed _ => false
  | _ => true

/-- What the call gave in the place of the current builder, if it gave anything: another builder,
or a value that is none. -/
def given? : Outcome η → Option (Option η)
  | nothing | failed _ => none
  | handle h => some (some h)
  | value _ | bytes _ => some none

/-- The builder that goes on after a call that returned is the one that the call gave, if any. -/
theorem next_eq_given?_getD {outcome : Outcome η} (h : outcome.returned = true)
    (current : Option η) : Builder.next current outcome = outcome.given?.getD current := by
  cases outcome with
  | failed f => simp [returned] at h
  | _ => rfl

end Outcome

/-- A call of an operation, and what became of it. -/
structure Call (η : Type) where
  handle : η
  name : String
  operation : Operation
  outcome : Outcome η

namespace Call

/-- Did the call return? -/
def returned (c : Call η) : Bool :=
  c.outcome.returned

end Call

namespace Operation

/-- What was to be done, as a failure names it: the action at the place, or else the capability. -/
def wanted (operation : Operation) (place : Place) : String :=
  match place.action with
  | some action => if action = "" then operation.capability.name else action
  | none => operation.capability.name

theorem wanted_of_action (operation : Operation) (index : Option Int) {tag : String}
    (h : tag ≠ "") : operation.wanted ⟨index, some tag⟩ = tag :=
  if_neg h

end Operation

namespace Builder

/-- The builder with a log of its calls behind its world. -/
def logged (b : Builder η ω) : Builder η (ω × List (Call η)) where
  exposes h name := (b.exposes h name).within Prod.fst fun world state => (world, state.2)
  call h name operation := fun state =>
    let (outcome, world) := (b.call h name operation).run state.1
    (outcome, (world, state.2 ++ [⟨h, name, operation, outcome⟩]))

/-- The builder that is current after a row of calls: the last one given, or the first of all. -/
def currentAfter (start : η) (calls : List (Call η)) : Option η :=
  ((calls.filterMap fun c => c.outcome.given?).getLast?).getD (some start)

/-- Names are looked up on a handle in order, up to the first that is exposed or a look that fails:
what comes of it, and the world that is left. -/
inductive Looks (b : Builder η ω) (h : η) : List String → ω → Attempt (Option String) → ω → Prop
  | done (world : ω) : Looks b h [] world (.ok none) world
  | found {name : String} {rest : List String} {world left : ω}
      (exposed : (b.exposes h name).outcomeIn world = (.ok true, left)) :
      Looks b h (name :: rest) world (.ok (some name)) left
  | passed {name : String} {rest : List String} {world between left : ω}
      {result : Attempt (Option String)}
      (unexposed : (b.exposes h name).outcomeIn world = (.ok false, between))
      (further : Looks b h rest between result left) : Looks b h (name :: rest) world result left
  | failed {name : String} {rest : List String} {world left : ω} {f : Failure}
      (fails : (b.exposes h name).outcomeIn world = (.error f, left)) :
      Looks b h (name :: rest) world (.error f) left

/-- In this world the calls happened, one after the other, each by the first candidate name for its
operation that its handle exposed, and they left that world. -/
def Happened (b : Builder η ω) : ω → List (Call η) → ω → Prop
  | world, [], left => left = world
  | world, c :: rest, left =>
    ∃ found between,
      b.Looks c.handle c.operation.capability.candidates world (.ok (some c.name)) found ∧
      (b.call c.handle c.name c.operation).run found = (c.outcome, between) ∧
      b.Happened between rest left

/-- The calls happened, each on the builder that was current. -/
structure Orderly (b : Builder η ω) (start : η) (world : ω) (calls : List (Call η)) (left : ω) :
    Prop where
  happened : b.Happened world calls left
  onCurrent : ∀ (k : Nat) (c : Call η), calls[k]? = some c →
    currentAfter start (calls.take k) = some c.handle

/-- The builder that is current exposes none of the candidates for an operation, or there is no
builder any more. -/
def Unexposed (b : Builder η ω) (current : Option η) (operation : Operation) (world left : ω) :
    Prop :=
  match current with
  | none => left = world
  | some h => b.Looks h operation.capability.candidates world (.ok none) left

/-- A look for an operation at the builder that is current fails. -/
def LookFails (b : Builder η ω) (current : Option η) (operation : Operation) (world : ω)
    (f : Failure) (left : ω) : Prop :=
  ∃ h, current = some h ∧ b.Looks h operation.capability.candidates world (.error f) left

/-! ### Calls in a log -/

theorem call_logged (b : Builder η ω) (h : η) (name : String) (operation : Operation) (world : ω)
    (log : List (Call η)) :
    (b.logged.call h name operation).run (world, log) =
      (((b.call h name operation).run world).1, (((b.call h name operation).run world).2,
        log ++ [⟨h, name, operation, ((b.call h name operation).run world).1⟩])) := rfl

/-! ### One more call -/

@[simp] theorem currentAfter_nil (start : η) : currentAfter start [] = some start := rfl

theorem currentAfter_concat (start : η) (calls : List (Call η)) {c : Call η}
    (h : c.returned = true) :
    currentAfter start (calls ++ [c]) = next (currentAfter start calls) c.outcome := by
  rw [Outcome.next_eq_given?_getD h, currentAfter, List.filterMap_append]
  cases hg : c.outcome.given? with
  | none => simp [hg, currentAfter]
  | some given => simp [hg]

theorem happened_concat {b : Builder η ω} {world between found left : ω} {calls : List (Call η)}
    {c : Call η} (h : b.Happened world calls between)
    (hname : b.Looks c.handle c.operation.capability.candidates between (.ok (some c.name)) found)
    (hc : (b.call c.handle c.name c.operation).run found = (c.outcome, left)) :
    b.Happened world (calls ++ [c]) left := by
  -- the world in which the earlier calls begin moves along with the induction
  induction calls generalizing world with
  | nil =>
    obtain rfl : between = world := h
    exact ⟨found, left, hname, hc, rfl⟩
  | cons first rest ih =>
    obtain ⟨mid, after, hlook, hfirst, hrest⟩ := h
    exact ⟨mid, after, hlook, hfirst, ih hrest⟩

theorem Orderly.nil (b : Builder η ω) (start : η) (world : ω) : b.Orderly start world [] world where
  happened := rfl
  onCurrent k c h := by simp at h

/-- Calls in order stay in order when one more is made on the builder that is current. -/
theorem Orderly.concat {b : Builder η ω} {start : η} {world between found left : ω}
    {calls : List (Call η)} {c : Call η} (h : b.Orderly start world calls between)
    (hcurrent : currentAfter start calls = some c.handle)
    (hname : b.Looks c.handle c.operation.capability.candidates between (.ok (some c.name)) found)
    (hc : (b.call c.handle c.name c.operation).run found = (c.outcome, left)) :
    b.Orderly start world (calls ++ [c]) left where
  happened := happened_concat h.happened hname hc
  onCurrent k d hd := by
    -- an earlier call, the new one, or a position behind it
    rcases Nat.lt_trichotomy k calls.length with hk | hk | hk
    · rw [List.getElem?_append_left hk] at hd
      rw [List.take_append_of_le_length (Nat.le_of_lt hk)]
      exact h.onCurrent k d hd
    · subst hk
      obtain rfl : c = d := by simpa using hd
      simpa using hcurrent
    · rw [List.getElem?_eq_none (by simp; omega)] at hd
      cases hd

/-! ### Finding an operation -/

theorem looks_iff {b : Builder η ω} {h : η} {names : List String} {world left : ω}
    {result : Attempt (Option String)} :
    b.Looks h names world result left ↔
      (b.firstExposed h names).outcomeIn world = (result, left) := by
  constructor
  · intro hlooks
    induction hlooks with
    | done world => rfl
    | found exposed => rw [firstExposed, Work.outcomeIn_bind, exposed]; rfl
    | passed unexposed further ih => rw [firstExposed, Work.outcomeIn_bind, unexposed]; exact ih
    | failed fails => rw [firstExposed, Work.outcomeIn_bind, fails]
  · intro hrun
    induction names generalizing world with
    | nil =>
      cases hrun
      exact .done _
    | cons name rest ih =>
      rw [firstExposed, Work.outcomeIn_bind] at hrun
      rcases hexposes : (b.exposes h name).outcomeIn world with ⟨f | _ | _, between⟩
      all_goals rw [hexposes] at hrun
      · cases hrun
        exact .failed hexposes
      · exact .passed hexposes (ih hrun)
      · cases hrun
        exact .found hexposes

theorem outcomeIn_resolve (b : Builder η ω) (h : η) (operation : Operation) (place : Place)
    (world : ω) :
    (b.resolve (some h) operation.capability.name place).outcomeIn world =
      match (b.firstExposed h operation.capability.candidates).outcomeIn world with
      | (.ok (some name), left) => (.ok (h, name), left)
      | (.ok none, left) =>
        (.error (.unsupported (operation.wanted place) operation.capability.candidates
          ⟨place.index, some (operation.wanted place)⟩), left)
      | (.error f, left) => (.error f, left) := by
  unfold resolve find?
  rw [Capability.candidatesFor_name]
  simp only [Work.outcomeIn_bind]
  rcases (b.firstExposed h operation.capability.candidates).outcomeIn world with
    ⟨f | _ | name, left⟩ <;> rfl

/-- What is found for an operation is the builder that is current, with the first name it
exposes. -/
theorem resolve_eq_ok_iff {b : Builder η ω} {current : Option η} (operation : Operation)
    {place : Place} {h : η} {name : String} {world left : ω} :
    (b.resolve current operation.capability.name place).outcomeIn world = (.ok (h, name), left) ↔
      current = some h ∧
        b.Looks h operation.capability.candidates world (.ok (some name)) left := by
  cases current with
  | none => exact iff_of_false nofun nofun
  | some h' =>
    rw [outcomeIn_resolve]
    constructor
    · rcases hlook : (b.firstExposed h' operation.capability.candidates).outcomeIn world with
        ⟨f | _ | name', left'⟩ <;> rintro ⟨⟩
      exact ⟨rfl, looks_iff.mpr hlook⟩
    · rintro ⟨⟨⟩, hlook⟩
      rw [looks_iff.mp hlook]

/-- What is found for an operation fails because nothing is exposed, and then the failure lists
every candidate and names what was to be done, the action or else the capability; or a look fails,
and its failure is left as it is. -/
theorem resolve_eq_error_iff {b : Builder η ω} {current : Option η} (operation : Operation)
    {place : Place} {f : Failure} {world left : ω} :
    (b.resolve current operation.capability.name place).outcomeIn world = (.error f, left) ↔
      (b.Unexposed current operation world left ∧
        f = .unsupported (operation.wanted place) operation.capability.candidates
          ⟨place.index, some (operation.wanted place)⟩) ∨
      b.LookFails current operation world f left := by
  cases current with
  | none =>
    unfold resolve find?
    rw [Capability.candidatesFor_name]
    constructor
    · rintro ⟨⟩
      exact Or.inl ⟨rfl, rfl⟩
    · rintro (⟨rfl, rfl⟩ | ⟨_, ⟨⟩, -⟩)
      rfl
  | some h =>
    rw [outcomeIn_resolve]
    constructor
    · rcases hlook : (b.firstExposed h operation.capability.candidates).outcomeIn world with
        ⟨f | _ | name, left'⟩ <;> rintro ⟨⟩
      · exact Or.inr ⟨h, rfl, looks_iff.mpr hlook⟩
      · exact Or.inl ⟨looks_iff.mpr hlook, rfl⟩
    · rintro (⟨hlook, rfl⟩ | ⟨_, ⟨⟩, hlook⟩)
      · rw [looks_iff.mp hlook]
      · rw [looks_iff.mp hlook]

end Builder

end TxDraft
