import Mathlib.Data.List.Nodup
import TxDraft.Proofs.Entries
import TxDraft.Proofs.Form

/-!
# Writing what a form reads

A value that a form was filled with is written back field by field: each field under its first
spelling, or not at all if that leaves it with the value (`Form.Writes`).  If no two fields share a
spelling, the form is filled with the same value again, and there is nothing in the object that it
does not know (`Form.Writes.fill`).
-/

namespace TxDraft

variable {α β : Type} {fields : Json.Fields}

/-- What there is to write: a value for each name, or nothing. -/
abbrev Slots := List (String × Option Json)

/-- The fields that are written. -/
def Slots.written (slots : Slots) : Json.Fields :=
  slots.filterMap fun slot => slot.2.map fun v => (.plain slot.1, v)

namespace Slots

theorem mem_written_iff {slots : Slots} {name : String} {v : Json} :
    (.plain name, v) ∈ slots.written ↔ (name, some v) ∈ slots := by
  simp [written]

theorem written_append (slots slots' : Slots) :
    written (slots ++ slots') = slots.written ++ slots'.written :=
  List.filterMap_append

theorem field?_single (name name' : String) (o : Option Json) :
    Json.field? (written [(name, o)]) name' = if name = name' then o else none := by
  cases o <;> simp [written, Json.field?, Entries.get?]

end Slots

/-! ### One field -/

/-- The field has the value if this is written for it, or nothing. -/
def Field.Takes (f : Field α) (a : α) : Option Json → Prop
  | some v => f.read v = .ok a
  | none => f.absent = some a

/-- A field that has nothing under any spelling but its first is filled from what is there. -/
theorem Field.fill_of_takes {f : Field α} {a : α} {name : String} {o : Option Json}
    (h : f.Takes a o) (hname : f.spellings.head? = some name)
    (hfields : ∀ s ∈ f.spellings, Json.field? fields s = if name = s then o else none) :
    f.fill fields = .ok a ∧ f.spelling? fields = o.map fun _ => name := by
  cases o with
  | none =>
    have hspelling : f.spelling? fields = none := by
      rw [spelling?, List.find?_eq_none]
      intro s hs
      simp [hfields s hs]
    exact ⟨fill_eq_ok_iff.mpr (.inr ⟨hspelling, h⟩), hspelling⟩
  | some v =>
    obtain ⟨rest, hspellings⟩ := List.head?_eq_some_iff.mp hname
    have hv : Json.field? fields name = some v := by
      rw [hfields name (by rw [hspellings]; exact List.mem_cons_self), if_pos rfl]
    have hspelling : f.spelling? fields = some name := by
      rw [spelling?, hspellings, List.find?_cons_of_pos (by rw [hv]; rfl)]
    have hread : f.read (Json.field fields name) = .ok a := by
      rw [Json.field, hv]
      exact h
    exact ⟨fill_eq_ok_iff.mpr (.inl ⟨name, hspelling, hread⟩), hspelling⟩

/-! ### All fields -/

namespace Form

/-- The spellings of all fields. -/
def spellings {α : Type} : Form α → List String
  | done _ => []
  | and form field => form.spellings ++ field.spellings

/-- The slots hold the value, one slot to a field of the form and under its first spelling. -/
inductive Writes : {α : Type} → Form α → α → Slots → Prop
  | done {α : Type} (a : α) : Writes (.done a) a []
  | and {α β : Type} {form : Form (α → β)} {field : Field α} {g : α → β} {a : α} {slots : Slots}
    {name : String} {o : Option Json} (forms : Writes form g slots)
    (hname : field.spellings.head? = some name) (takes : field.Takes a o) :
    Writes (form.and field) (g a) (slots ++ [(name, o)])

namespace Writes

section fields

variable {α₁ α₂ α₃ : Type} {x₁ : Field α₁} {x₂ : Field α₂} {x₃ : Field α₃} {a₁ : α₁} {a₂ : α₂}
  {a₃ : α₃} {name₁ name₂ name₃ : String} {o₁ o₂ o₃ : Option Json}

theorem one {f : α₁ → β} (hname₁ : x₁.spellings.head? = some name₁) (h₁ : x₁.Takes a₁ o₁) :
    (Form.and (.done f) x₁).Writes (f a₁) [(name₁, o₁)] :=
  (Writes.done f).and hname₁ h₁

theorem two {f : α₁ → α₂ → β} (hname₁ : x₁.spellings.head? = some name₁) (h₁ : x₁.Takes a₁ o₁)
    (hname₂ : x₂.spellings.head? = some name₂) (h₂ : x₂.Takes a₂ o₂) :
    (Form.and (.and (.done f) x₁) x₂).Writes (f a₁ a₂) [(name₁, o₁), (name₂, o₂)] :=
  (one hname₁ h₁).and hname₂ h₂

theorem three {f : α₁ → α₂ → α₃ → β} (hname₁ : x₁.spellings.head? = some name₁)
    (h₁ : x₁.Takes a₁ o₁) (hname₂ : x₂.spellings.head? = some name₂) (h₂ : x₂.Takes a₂ o₂)
    (hname₃ : x₃.spellings.head? = some name₃) (h₃ : x₃.Takes a₃ o₃) :
    (((Form.and (.done f) x₁).and x₂).and x₃).Writes (f a₁ a₂ a₃)
      [(name₁, o₁), (name₂, o₂), (name₃, o₃)] :=
  (two hname₁ h₁ hname₂ h₂).and hname₃ h₃

end fields

theorem mem_spellings {form : Form α} {a : α} {slots : Slots} (h : form.Writes a slots) {s : String}
    {v : Json} (hs : (s, some v) ∈ slots) : s ∈ form.spellings := by
  induction h with
  | done a => cases hs
  | and _ hname _ ih =>
    rcases List.mem_append.mp hs with hs | hs
    · exact List.mem_append_left _ (ih hs)
    · cases List.mem_singleton.mp hs
      exact List.mem_append_right _ (List.mem_of_head? hname)

/-- The value is read from every object that has, under the spellings of the form, what the slots
say, and each of the slots that hold a value is used. -/
theorem fill_of_agrees {form : Form α} {a : α} {slots : Slots} (h : form.Writes a slots)
    (hdistinct : form.spellings.Nodup)
    (hfields : ∀ s ∈ form.spellings, Json.field? fields s = Json.field? slots.written s) :
    form.fill fields = .ok a ∧ ∀ s v, (s, some v) ∈ slots → s ∈ form.used fields := by
  induction h with
  | done a => exact ⟨rfl, fun _ _ hs => absurd hs List.not_mem_nil⟩
  | @and α β form field g a slots name o hforms hname htakes ih =>
    obtain ⟨hform, -, hapart⟩ := List.nodup_append.mp hdistinct
    have happend : ∀ s, Json.field? (Slots.written (slots ++ [(name, o)])) s =
        (Json.field? slots.written s).or (if name = s then o else none) := by
      intro s
      rw [Slots.written_append, Json.field?, Entries.get?_append, ← Slots.field?_single]
      rfl
    -- the new slot is none of the form's, and the slots of the form are none of the new field's
    have hbefore : ∀ s ∈ form.spellings, Json.field? fields s = Json.field? slots.written s := by
      intro s hs
      have hother : name ≠ s := fun heq => hapart s hs name (List.mem_of_head? hname) heq.symm
      rw [hfields s (List.mem_append_left _ hs), happend, if_neg hother, Option.or_none]
    have hlast : ∀ s ∈ field.spellings,
        Json.field? fields s = if name = s then o else none := by
      intro s hs
      have hnone : Json.field? slots.written s = none := by
        rw [Json.field?, Entries.get?_eq_none_iff]
        intro hmem
        obtain ⟨⟨_, v⟩, hv, hkey⟩ := List.mem_map.mp hmem
        cases hkey
        exact hapart _ (hforms.mem_spellings (Slots.mem_written_iff.mp hv)) _ hs rfl
      rw [hfields s (List.mem_append_right _ hs), happend, hnone, Option.none_or]
    obtain ⟨hfill, hused⟩ := ih hform hbefore
    obtain ⟨hfill', hspelling⟩ := Field.fill_of_takes htakes hname hlast
    refine ⟨fill_and_eq_ok_iff.mpr ⟨g, a, hfill, hfill', rfl⟩, fun s v hs => ?_⟩
    rw [used, List.mem_append, hspelling]
    rcases List.mem_append.mp hs with hs | hs
    · exact .inl (hused s v hs)
    · cases List.mem_singleton.mp hs
      exact .inr (List.mem_singleton_self name)

/-- The value is read from what is written behind other fields, and nothing else is there. -/
theorem fill {form : Form α} {a : α} {slots : Slots} (h : form.Writes a slots)
    {names : List String} {others : Json.Fields}
    (hnames : Entries.keys others = names.map Json.Str.plain)
    (hdistinct : (names ++ form.spellings).Nodup) :
    form.fill (others ++ slots.written) = .ok a ∧
      form.fillOnly names (others ++ slots.written) = .ok a := by
  obtain ⟨-, hform, hapart⟩ := List.nodup_append.mp hdistinct
  have hagrees : ∀ s ∈ form.spellings,
      Json.field? (others ++ slots.written) s = Json.field? slots.written s := by
    intro s hs
    have hnone : Entries.get? (.plain s) others = none := by
      rw [Entries.get?_eq_none_iff, hnames, List.mem_map]
      rintro ⟨name, hname, hkey⟩
      exact hapart name hname s hs (Json.Str.plain.inj hkey)
    rw [Json.field?, Entries.get?_append, hnone, Option.none_or, Json.field?]
  obtain ⟨hfill, hused⟩ := h.fill_of_agrees hform hagrees
  refine ⟨hfill, fillOnly_eq_ok_iff.mpr ⟨hfill, fun e he => ?_⟩⟩
  rw [List.map_append, List.mem_append, ← hnames]
  rcases List.mem_append.mp he with he | he
  · exact .inl (List.mem_map_of_mem he)
  · obtain ⟨⟨name, o⟩, hslot, hwritten⟩ := List.mem_filterMap.mp he
    obtain ⟨v, rfl, rfl⟩ := Option.map_eq_some_iff.mp hwritten
    exact .inr (List.mem_map_of_mem (hused name v hslot))

end Writes

end Form

end TxDraft
