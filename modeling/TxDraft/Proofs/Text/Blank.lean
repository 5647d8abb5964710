import Mathlib.Data.List.DropRight
import TxDraft.Proofs.Text.LowerCase
import TxDraft.Text.Blank

/-!
# Blanks and lower case

A text is trimmed if it has no blank at either end.  Stripping trims a text (`trimmed_stripChars`)
and takes nothing but blanks away, so what it leaves is the one trimmed text that blanks were put
around (`stripChars_eq_iff`); in particular it leaves trimmed texts alone (`Trimmed.stripChars_eq`).
Lower-casing keeps a text trimmed (`Trimmed.lowerChars`), since no character but a blank has a blank
for its lower case.
-/

namespace TxDraft.Text

/-- No blank stands at either end. -/
structure Trimmed (cs : List Char) : Prop where
  first : ∀ c, cs.head? = some c → isBlank c = false
  last : ∀ c, cs.getLast? = some c → isBlank c = false

/-! ### Stripping -/

theorem dropEndWhile_eq (p : Char → Bool) (cs : List Char) :
    dropEndWhile p cs = cs.rdropWhile p := rfl

theorem trimmed_stripChars (cs : List Char) : Trimmed (stripChars cs) := by
  rw [stripChars, dropEndWhile_eq]
  constructor
  · intro c hc
    -- what is left after the end was cut begins as it did before
    obtain ⟨cut, hcut⟩ := List.rdropWhile_prefix isBlank (cs.dropWhile isBlank)
    have hfirst := List.head?_dropWhile_not isBlank cs
    rw [← hcut, List.head?_append, hc] at hfirst
    exact hfirst
  · intro c hc
    have hne : (cs.dropWhile isBlank).rdropWhile isBlank ≠ [] := by
      intro hnil
      rw [hnil] at hc
      cases hc
    have hlast := List.rdropWhile_last_not isBlank _ hne
    rw [List.getLast?_eq_getLast_of_ne_nil hne, Option.some.injEq] at hc
    rwa [hc, Bool.not_eq_true] at hlast

/-- The second text is the first one with blanks put around it. -/
def Padded (core cs : List Char) : Prop :=
  ∃ before after, (∀ c ∈ before, isBlank c = true) ∧ (∀ c ∈ after, isBlank c = true) ∧
    cs = before ++ core ++ after

/-- Nothing but blanks is taken away. -/
theorem padded_stripChars (cs : List Char) : Padded (stripChars cs) cs := by
  refine ⟨cs.takeWhile isBlank, (cs.dropWhile isBlank).rtakeWhile isBlank, ?_, ?_, ?_⟩
  · exact fun c hc => List.mem_takeWhile_imp hc
  · exact fun c hc => List.mem_rtakeWhile_imp hc
  · rw [List.append_assoc, stripChars, dropEndWhile_eq, List.rdropWhile_append_rtakeWhile,
      List.takeWhile_append_dropWhile]

/-- What is no blank is left. -/
theorem mem_stripChars {c : Char} {cs : List Char} (h : isBlank c = false) (hc : c ∈ cs) :
    c ∈ stripChars cs := by
  obtain ⟨before, after, hbefore, hafter, hcs⟩ := padded_stripChars cs
  rw [hcs, List.mem_append, List.mem_append] at hc
  rcases hc with (hfront | hcore) | hback
  · exact absurd (hbefore c hfront) (by simp [h])
  · exact hcore
  · exact absurd (hafter c hback) (by simp [h])

theorem stripChars_of_padded {core cs : List Char} (hcore : Trimmed core) (h : Padded core cs) :
    stripChars cs = core := by
  obtain ⟨before, after, hbefore, hafter, rfl⟩ := h
  have hfront : (before ++ core ++ after).dropWhile isBlank =
      (core ++ after).dropWhile isBlank := by
    rw [List.append_assoc, List.dropWhile_append_of_pos hbefore]
  have hback : (core ++ after).rdropWhile isBlank = core.rdropWhile isBlank := by
    rw [List.rdropWhile, List.reverse_append,
      List.dropWhile_append_of_pos fun c hc => hafter c (List.mem_reverse.mp hc), List.rdropWhile]
  rw [stripChars, dropEndWhile_eq, hfront]
  cases core with
  | nil =>
    rw [List.nil_append, List.dropWhile_eq_nil_iff.mpr hafter, List.rdropWhile_nil]
  | cons c rest =>
    -- a trimmed text stops both cuts, with its first character and with its last one
    have hstop : (c :: rest ++ after).dropWhile isBlank = c :: rest ++ after := by
      rw [List.cons_append, List.dropWhile_cons, hcore.first c rfl]
      rfl
    rw [hstop, hback, List.rdropWhile_eq_self_iff]
    intro hne
    rw [hcore.last _ (List.getLast?_eq_getLast_of_ne_nil hne)]
    exact Bool.false_ne_true

/-- What stripping leaves is the trimmed text that blanks were put around. -/
theorem stripChars_eq_iff {core cs : List Char} (hcore : Trimmed core) :
    stripChars cs = core ↔ Padded core cs := by
  constructor
  · rintro rfl
    exact padded_stripChars cs
  · exact stripChars_of_padded hcore

theorem Trimmed.stripChars_eq {cs : List Char} (h : Trimmed cs) : stripChars cs = cs :=
  stripChars_of_padded h ⟨[], [], nofun, nofun, (List.append_nil cs).symm⟩

/-! ### Lower case -/

/-- The images of the runs lie apart from the blanks. -/
theorem caseRuns_apart : ∀ r ∈ caseRuns, ∀ b ∈ blankRanges, r.stop < b.1 ∨ b.2 < r.start := by
  decide +kernel

theorem isBlank_image {r : CaseRun} {n : Nat} (hr : r ∈ caseRuns) (hn : r.moves n = true) :
    isBlank (Char.ofNat (Int.toNat (n + r.shift))) = false := by
  obtain ⟨m, hcode, -, hleast, hmost⟩ := toNat_image hr hn
  rw [isBlank, hcode, inRanges, List.any_eq_false]
  intro b hb
  have hapart := caseRuns_apart r hr b hb
  simp only [Bool.and_eq_true, decide_eq_true_eq]
  omega

theorem isBlank_lowerChar {c : Char} (h : isBlank c = false) : isBlank (lowerChar c) = false := by
  rcases Nat.lt_or_ge c.toNat 0x80 with hc | hc
  · rw [lowerChar_of_lt hc]
    exact of_ascii (P := fun c => isBlank c = false → isBlank c.toLower = false)
      (by decide +kernel) hc h
  · rw [lowerChar_of_le hc]
    split
    · next r hr =>
      have hmoves : r.moves c.toNat = true :=
        List.find?_some (p := fun s : CaseRun => s.moves c.toNat) hr
      exact isBlank_image (List.mem_of_find?_eq_some hr) hmoves
    · exact h

theorem isBlank_of_mem_expansion {before rest : List Char} {c d : Char} (h : isBlank c = false)
    (hd : d ∈ expansion before c rest) : isBlank d = false := by
  have hspecials : (specials.all fun d => !isBlank d) = true := by decide +kernel
  rcases mem_expansion hd with hd | ⟨-, rfl⟩
  · exact Bool.not_eq_true' _ ▸ List.all_eq_true.mp hspecials d hd
  · exact isBlank_lowerChar h

theorem isBlank_of_head?_lowerFrom {before cs : List Char} {d : Char}
    (h : ∀ c, cs.head? = some c → isBlank c = false)
    (hd : (lowerFrom before cs).head? = some d) : isBlank d = false := by
  cases cs with
  | nil => cases hd
  | cons c rest =>
    rw [lowerFrom_cons, List.head?_append_of_ne_nil _ (expansion_ne_nil _ _ _)] at hd
    exact isBlank_of_mem_expansion (h c rfl) (List.mem_of_head? hd)

theorem isBlank_of_getLast?_lowerFrom {before cs : List Char} {d : Char}
    (h : ∀ c, cs.getLast? = some c → isBlank c = false)
    (hd : (lowerFrom before cs).getLast? = some d) : isBlank d = false := by
  induction cs generalizing before with
  | nil => cases hd
  | cons c rest ih =>
    cases rest with
    | nil =>
      rw [lowerFrom_cons, lowerFrom, List.append_nil] at hd
      exact isBlank_of_mem_expansion (h c rfl) (List.mem_of_getLast? hd)
    | cons c' rest =>
      -- the characters behind the first one are not used up
      have hne : lowerFrom (c :: before) (c' :: rest) ≠ [] := by
        rw [lowerFrom_cons]
        exact List.append_ne_nil_of_left_ne_nil (expansion_ne_nil _ _ _) _
      rw [lowerFrom_cons, List.getLast?_append_of_ne_nil _ hne] at hd
      exact ih (fun e he => h e (by rwa [List.getLast?_cons_cons])) hd

theorem Trimmed.lowerChars {cs : List Char} (h : Trimmed cs) : Trimmed (lowerChars cs) where
  first _ := isBlank_of_head?_lowerFrom h.first
  last _ := isBlank_of_getLast?_lowerFrom h.last

end TxDraft.Text
