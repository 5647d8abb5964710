import Mathlib.Data.List.Forall2

/-!
# Reading the items of a list in order

A list of items is read if every item is (`mapM_eq_ok_iff`), and fails with the fault of the first
item that cannot be read (`mapM_eq_error_iff`).
-/

namespace TxDraft.Traversal

variable {ε δ α β : Type} {f : α → Except ε β}

theorem bind_eq_ok_iff {c : Except ε α} {next : α → Except ε β} {b : β} :
    c >>= next = .ok b ↔ ∃ a, c = .ok a ∧ next a = .ok b := by
  cases c <;> simp [bind, Except.bind]

theorem bind_eq_error_iff {c : Except ε α} {next : α → Except ε β} {e : ε} :
    c >>= next = .error e ↔ c = .error e ∨ ∃ a, c = .ok a ∧ next a = .error e := by
  cases c <;> simp [bind, Except.bind]

@[simp] theorem mapError_ok (g : ε → δ) (a : α) :
    (.ok a : Except ε α).mapError g = .ok a := rfl

@[simp] theorem mapError_error (g : ε → δ) (e : ε) :
    (.error e : Except ε α).mapError g = .error (g e) := rfl

@[simp] theorem map_ok (g : α → β) (a : α) :
    Except.map g (.ok a : Except ε α) = .ok (g a) := rfl

@[simp] theorem map_error (g : α → β) (e : ε) :
    Except.map g (.error e : Except ε α) = .error e := rfl

@[simp] theorem map_eq_ok_iff {g : α → β} {c : Except ε α} {b : β} :
    Except.map g c = .ok b ↔ ∃ a, c = .ok a ∧ g a = b := by
  cases c <;> simp

@[simp] theorem mapError_eq_ok_iff {g : ε → δ} {c : Except ε α} {a : α} :
    c.mapError g = .ok a ↔ c = .ok a := by
  cases c <;> simp

theorem mapError_eq_error_iff {g : ε → δ} {c : Except ε α} {d : δ} :
    c.mapError g = .error d ↔ ∃ e, c = .error e ∧ g e = d := by
  cases c <;> simp

theorem mapM_eq_ok_iff {xs : List α} {ys : List β} :
    xs.mapM f = .ok ys ↔ List.Forall₂ (fun x y => f x = .ok y) xs ys := by
  induction xs generalizing ys with
  | nil => cases ys <;> simp [pure, Except.pure]
  | cons x rest ih =>
    rw [List.mapM_cons, bind_eq_ok_iff]
    simp only [bind_eq_ok_iff, ih]
    constructor
    · rintro ⟨y, hy, ys', hrest, hys⟩
      cases hys
      exact .cons hy hrest
    · rintro (_ | ⟨hy, hrest⟩)
      exact ⟨_, hy, _, hrest, rfl⟩

/-- A list is read exactly if every item is. -/
theorem mapM_isOk_iff {xs : List α} :
    (∃ ys, xs.mapM f = .ok ys) ↔ ∀ x ∈ xs, ∃ y, f x = .ok y := by
  induction xs with
  | nil => simp [pure, Except.pure]
  | cons x rest ih =>
    rw [List.forall_mem_cons, ← ih]
    simp only [mapM_eq_ok_iff]
    constructor
    · rintro ⟨_, hall⟩
      obtain ⟨y, ys, hy, hys, -⟩ := List.forall₂_cons_left_iff.mp hall
      exact ⟨⟨y, hy⟩, ys, hys⟩
    · rintro ⟨⟨y, hy⟩, ys, hys⟩
      exact ⟨y :: ys, .cons hy hys⟩

/-- Everything that is read is read from an item. -/
theorem exists_of_mem_mapM {xs : List α} {ys : List β} (h : xs.mapM f = .ok ys) :
    ∀ y ∈ ys, ∃ x ∈ xs, f x = .ok y := by
  have hall := mapM_eq_ok_iff.mp h
  clear h
  induction hall with
  | nil => simp
  | cons hx _ ih =>
    intro y hy
    rcases List.mem_cons.mp hy with rfl | hy
    · exact ⟨_, List.mem_cons_self, hx⟩
    · obtain ⟨x, hmem, hread⟩ := ih y hy
      exact ⟨x, List.mem_cons_of_mem _ hmem, hread⟩

/-- Replacing the faults of the items is replacing the fault of the list. -/
theorem mapM_mapError (g : ε → δ) (xs : List α) :
    xs.mapM (fun x => (f x).mapError g) = (xs.mapM f).mapError g := by
  induction xs with
  | nil => rfl
  | cons x rest ih =>
    rw [List.mapM_cons, List.mapM_cons, ih]
    cases f x with
    | error e => rfl
    | ok y => cases rest.mapM f <;> rfl

/-- A list fails with the fault of its first item that cannot be read. -/
theorem mapM_eq_error_iff {xs : List α} {e : ε} :
    xs.mapM f = .error e ↔
      ∃ before bad after, xs = before ++ bad :: after ∧ (∀ x ∈ before, ∃ y, f x = .ok y) ∧
        f bad = .error e := by
  induction xs with
  | nil => simp [pure, Except.pure]
  | cons x rest ih =>
    rw [List.mapM_cons, bind_eq_error_iff]
    simp only [bind_eq_error_iff, ih]
    constructor
    · rintro (hx | ⟨y, hy, ⟨before, bad, after, rfl, hbefore, hbad⟩ | ⟨ys, -, hpure⟩⟩)
      · exact ⟨[], x, rest, rfl, by simp, hx⟩
      · exact ⟨x :: before, bad, after, rfl, List.forall_mem_cons.mpr ⟨⟨y, hy⟩, hbefore⟩, hbad⟩
      · cases hpure
    · rintro ⟨before, bad, after, heq, hbefore, hbad⟩
      cases before with
      | nil =>
        obtain ⟨rfl, rfl⟩ := List.cons.inj heq
        exact Or.inl hbad
      | cons z before =>
        obtain ⟨rfl, rfl⟩ := List.cons.inj heq
        obtain ⟨⟨y, hy⟩, hrest⟩ := List.forall_mem_cons.mp hbefore
        exact Or.inr ⟨y, hy, Or.inl ⟨before, bad, after, rfl, hrest, hbad⟩⟩

end TxDraft.Traversal
