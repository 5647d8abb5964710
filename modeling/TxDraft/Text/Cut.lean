/-!
# Cutting texts

Texts are cut at characters of a class: `cut` gives the part before the first one and, if there is
one, what follows it; `cutLast` cuts at the last one, and `splitAt` at every one.
-/

namespace TxDraft.Text

/-- The part before the first character of a class, and what follows that character. -/
def cut (p : Char → Bool) : List Char → List Char × Option (List Char)
  | [] => ([], none)
  | c :: rest =>
    if p c then ([], some rest)
    else
      let (before, after) := cut p rest
      (c :: before, after)

/-- What precedes the last character of a class, if there is one, and what follows it. -/
def cutLast (p : Char → Bool) (cs : List Char) : Option (List Char) × List Char :=
  let (after, before) := cut p cs.reverse
  (before.map List.reverse, after.reverse)

/-- The parts between the places where a character stands; one more than there are places. -/
def splitAt (separator : Char) : List Char → List (List Char)
  | [] => [[]]
  | c :: rest =>
    if c = separator then [] :: splitAt separator rest
    else
      match splitAt separator rest with
      | [] => [[c]]
      | part :: parts => (c :: part) :: parts

/-- What follows a text at the beginning of another, if it is there. -/
def after? (beginning cs : List Char) : Option (List Char) :=
  if beginning.isPrefixOf cs then some (cs.drop beginning.length) else none

/-- Does a row of characters stand somewhere in another? -/
def standsIn (part : List Char) : List Char → Bool
  | [] => part.isEmpty
  | c :: rest => part.isPrefixOf (c :: rest) || standsIn part rest

/-- Does a text occur in another? -/
def occursIn (part whole : String) : Bool :=
  standsIn part.toList whole.toList

/-! ### Small facts -/

/-- What follows a beginning is found behind it. -/
theorem after?_eq_some_iff {beginning cs rest : List Char} :
    after? beginning cs = some rest ↔ cs = beginning ++ rest := by
  unfold after?
  constructor
  · intro h
    split at h
    · next hp =>
      obtain ⟨tail, rfl⟩ := List.isPrefixOf_iff_prefix.1 hp
      simp_all
    · cases h
  · rintro rfl
    simp

/-- A text that holds no character of the class is not cut. -/
theorem cut_of_forall {p : Char → Bool} {cs : List Char} (h : ∀ c ∈ cs, p c = false) :
    cut p cs = (cs, none) := by
  induction cs with
  | nil => rfl
  | cons c rest ih =>
    obtain ⟨hc, hrest⟩ := List.forall_mem_cons.mp h
    rw [cut, hc, ih hrest]
    rfl

/-- A text is cut at its first character of the class. -/
theorem cut_append_cons {p : Char → Bool} {before : List Char} {c : Char}
    (h : ∀ d ∈ before, p d = false) (hc : p c = true) (after : List Char) :
    cut p (before ++ c :: after) = (before, some after) := by
  induction before with
  | nil => rw [List.nil_append, cut, if_pos hc]
  | cons d rest ih =>
    obtain ⟨hd, hrest⟩ := List.forall_mem_cons.mp h
    rw [List.cons_append, cut, hd, ih hrest]
    rfl

theorem cutLast_of_forall {p : Char → Bool} {cs : List Char} (h : ∀ c ∈ cs, p c = false) :
    cutLast p cs = (none, cs) := by
  rw [cutLast, cut_of_forall fun c hc => h c (List.mem_reverse.mp hc)]
  show (none, cs.reverse.reverse) = (none, cs)
  rw [List.reverse_reverse]

end TxDraft.Text
