import Mathlib.Tactic.SplitIfs
import TxDraft.Text.LowerCase

/-!
# Lower case of lower case

A character is lowered (`Lowered`) if lower-casing leaves it alone wherever it stands.  Every
character of a text in lower case is (`lowered_of_mem_lowerChars`), and a text of such characters
is its own lower case (`lowerChars_of_lowered`), so lower-casing twice is lower-casing once
(`lowerChars_lowerChars`).

That the image of no run of the table meets a run of the table is checked run by run against all
runs (`caseRuns_miss`); from there on it is arithmetic.
-/

namespace TxDraft.Text

/-! ### Runs of the table -/

namespace CaseRun

/-- Does the run move the code point? -/
def moves (r : CaseRun) (n : Nat) : Bool :=
  r.first ≤ n && n ≤ r.last && (n - r.first) % r.step == 0

/-- Where the first code point of the run goes. -/
def start (r : CaseRun) : Nat :=
  (r.first + r.shift).toNat

/-- Where the last code point of the run goes. -/
def stop (r : CaseRun) : Nat :=
  (r.last + r.shift).toNat

/-- The images of the run are code points of characters, none of which has a lower case of its own
kind: neither capital sigma nor dotted capital I, and in ASCII only the letter `k`. -/
def Lands (r : CaseRun) : Prop :=
  0 ≤ r.first + r.shift ∧
    (0x80 ≤ r.start ∧ r.stop < 0xD800 ∨ 0xE000 ≤ r.start ∧ r.stop < 0x110000 ∨
      r.start = 0x6B ∧ r.stop = 0x6B) ∧
    (r.stop < 0x130 ∨ 0x130 < r.start) ∧ (r.stop < 0x3A3 ∨ 0x3A3 < r.start)

instance (r : CaseRun) : Decidable r.Lands :=
  inferInstanceAs (Decidable (_ ∧ _))

/-- The images of a run lie outside another, or at the places between its places. -/
def misses (r r' : CaseRun) : Bool :=
  !(Nat.ble r'.first r.stop && Nat.ble r.start r'.last) ||
    r'.step == 2 && (r.first == r.last || r.step == 2) && (r.start + r'.first) % 2 == 1

theorem moves_iff {r : CaseRun} {n : Nat} :
    r.moves n = true ↔ r.first ≤ n ∧ n ≤ r.last ∧ (n - r.first) % r.step = 0 := by
  simp [moves, and_assoc]

theorem misses_iff {r r' : CaseRun} :
    r.misses r' = true ↔ ¬ (r'.first ≤ r.stop ∧ r.start ≤ r'.last) ∨
      (r'.step = 2 ∧ (r.first = r.last ∨ r.step = 2)) ∧ (r.start + r'.first) % 2 = 1 := by
  simp only [misses, Bool.or_eq_true, Bool.not_eq_true', Bool.and_eq_true, beq_iff_eq,
    ← Bool.not_eq_true, Nat.ble_eq]

theorem Lands.start_eq {r : CaseRun} (h : r.Lands) : (r.start : Int) = r.first + r.shift :=
  Int.toNat_of_nonneg h.1

theorem Lands.stop_eq {r : CaseRun} (h : r.Lands) (hle : r.first ≤ r.last) :
    (r.stop : Int) = r.last + r.shift := by
  have hnonneg : 0 ≤ (r.first : Int) + r.shift := h.1
  exact Int.toNat_of_nonneg (by omega)

/-- A run that the images of another miss moves none of them. -/
theorem moves_eq_false {r r' : CaseRun} (hland : r.Lands) (h : r.misses r' = true) {n m : Nat}
    (hn : r.moves n = true) (hm : (m : Int) = n + r.shift) : r'.moves m = false := by
  obtain ⟨hfirst, hlast, hstep⟩ := moves_iff.mp hn
  have hstart := hland.start_eq
  have hstop := hland.stop_eq (Nat.le_trans hfirst hlast)
  rw [← Bool.not_eq_true, moves_iff]
  rintro ⟨hfirst', hlast', hstep'⟩
  rcases misses_iff.mp h with hapart | ⟨⟨htwo', htwo⟩, hodd⟩
  · exact hapart ⟨by omega, by omega⟩
  -- both runs hold every other code point, and the images the ones between
  · rw [htwo'] at hstep'
    rcases htwo with hone | htwo
    · omega
    · rw [htwo] at hstep
      omega

end CaseRun

/-- Every image of a run is a character of the kind that it may be. -/
theorem caseRuns_land : ∀ r ∈ caseRuns, r.Lands := by
  decide +kernel

/-- No run moves an image of a run. -/
theorem caseRuns_miss : (caseRuns.all fun r => caseRuns.all r.misses) = true := by
  decide +kernel

/-! ### Lowered characters -/

/-- A character that lower-casing leaves alone, whatever stands around it. -/
def Lowered (c : Char) : Prop :=
  c.toNat ≠ 0x3A3 ∧ c.toNat ≠ 0x130 ∧ lowerChar c = c

instance (c : Char) : Decidable (Lowered c) :=
  inferInstanceAs (Decidable (_ ∧ _))

theorem lowerChar_of_lt {c : Char} (h : c.toNat < 0x80) : lowerChar c = c.toLower := by
  rw [lowerChar, if_pos h]

theorem lowerChar_of_le {c : Char} (h : 0x80 ≤ c.toNat) :
    lowerChar c = match caseRuns.find? (·.moves c.toNat) with
      | some r => Char.ofNat (Int.toNat (c.toNat + r.shift))
      | none => c := by
  rw [lowerChar, if_neg (Nat.not_lt.mpr h)]
  rfl

theorem toNat_ofNat {n : Nat} (h : n < 0xD800 ∨ 0xE000 ≤ n ∧ n < 0x110000) :
    (Char.ofNat n).toNat = n := by
  have hvalid : n.isValidChar := by
    unfold Nat.isValidChar
    omega
  rw [Char.ofNat, dif_pos hvalid]
  rfl

/-- What holds of all characters of ASCII is checked one by one. -/
theorem of_ascii {P : Char → Prop} (hall : ∀ n < 0x80, P (Char.ofNat n)) {c : Char}
    (h : c.toNat < 0x80) : P c := by
  have hc := hall c.toNat h
  rwa [Char.ofNat_toNat] at hc

theorem lowered_toLower {c : Char} (h : c.toNat < 0x80) : Lowered c.toLower :=
  of_ascii (P := fun c => Lowered c.toLower) (by decide +kernel) h

/-- An image of a run is a character, between the images of its first and its last code point. -/
theorem toNat_image {r : CaseRun} {n : Nat} (hr : r ∈ caseRuns) (hn : r.moves n = true) :
    ∃ m, (Char.ofNat (Int.toNat (n + r.shift))).toNat = m ∧ (m : Int) = n + r.shift ∧
      r.start ≤ m ∧ m ≤ r.stop := by
  obtain ⟨hfirst, hlast, -⟩ := CaseRun.moves_iff.mp hn
  have hland := caseRuns_land r hr
  have hstart := hland.start_eq
  have hstop := hland.stop_eq (Nat.le_trans hfirst hlast)
  obtain ⟨hnonneg, hrange, -, -⟩ := hland
  obtain ⟨m, hm⟩ := Int.eq_ofNat_of_zero_le (show 0 ≤ (n : Int) + r.shift by omega)
  refine ⟨m, ?_, hm.symm, by omega, by omega⟩
  rw [hm, Int.toNat_natCast]
  exact toNat_ofNat (by omega)

/-- An image of a run is lowered. -/
theorem lowered_of_moves {r : CaseRun} {n : Nat} (hr : r ∈ caseRuns) (hn : r.moves n = true) :
    Lowered (Char.ofNat (Int.toNat (n + r.shift))) := by
  obtain ⟨m, hcode, hm, hleast, hmost⟩ := toNat_image hr hn
  obtain ⟨-, hrange, hdotted, hsigma⟩ := caseRuns_land r hr
  rcases Nat.lt_or_ge m 0x80 with hlow | hhigh
  -- the one image in ASCII
  · have hk : Lowered 'k'.toLower := lowered_toLower (by decide)
    obtain rfl : m = 'k'.toNat := by
      have : 'k'.toNat = 0x6B := rfl
      omega
    rwa [← Char.ofNat_toNat (Char.ofNat _), hcode, Char.ofNat_toNat]
  -- outside ASCII no run moves the image
  · refine ⟨by omega, by omega, ?_⟩
    rw [lowerChar_of_le (by omega), hcode, List.find?_eq_none.mpr]
    intro r' hr'
    have hmiss : r.misses r' = true :=
      List.all_eq_true.mp (List.all_eq_true.mp caseRuns_miss r hr) r' hr'
    rw [Bool.not_eq_true]
    exact CaseRun.moves_eq_false (caseRuns_land r hr) hmiss hn hm

theorem lowered_lowerChar {c : Char} (hsigma : c.toNat ≠ 0x3A3) (hdotted : c.toNat ≠ 0x130) :
    Lowered (lowerChar c) := by
  rcases Nat.lt_or_ge c.toNat 0x80 with h | h
  · rw [lowerChar_of_lt h]
    exact lowered_toLower h
  · rw [lowerChar_of_le h]
    split
    · next r hr =>
      have hmoves : r.moves c.toNat = true :=
        List.find?_some (p := fun s : CaseRun => s.moves c.toNat) hr
      exact lowered_of_moves (List.mem_of_find?_eq_some hr) hmoves
    · next hnone =>
      refine ⟨hsigma, hdotted, ?_⟩
      rw [lowerChar_of_le h, hnone]

/-! ### Lowered texts -/

/-- What a character becomes, between those before it in reverse order and those behind it. -/
def expansion (before : List Char) (c : Char) (rest : List Char) : List Char :=
  if c.toNat = 0x3A3 then
    [Char.ofNat (if meetsCased before && !meetsCased rest then 0x3C2 else 0x3C3)]
  else if c.toNat = 0x130 then [Char.ofNat 0x69, Char.ofNat 0x307]
  else [lowerChar c]

theorem lowerFrom_cons (before : List Char) (c : Char) (rest : List Char) :
    lowerFrom before (c :: rest) = expansion before c rest ++ lowerFrom (c :: before) rest := rfl

theorem expansion_ne_nil (before : List Char) (c : Char) (rest : List Char) :
    expansion before c rest ≠ [] := by
  unfold expansion
  split_ifs <;> simp

/-- The characters that the two special letters become. -/
def specials : List Char :=
  [Char.ofNat 0x3C2, Char.ofNat 0x3C3, Char.ofNat 0x69, Char.ofNat 0x307]

theorem mem_expansion {before rest : List Char} {c d : Char} (h : d ∈ expansion before c rest) :
    d ∈ specials ∨ (c.toNat ≠ 0x3A3 ∧ c.toNat ≠ 0x130) ∧ d = lowerChar c := by
  unfold expansion at h
  split at h
  · obtain rfl := List.mem_singleton.mp h
    split <;> simp [specials]
  · next hsigma =>
    split at h
    · rcases List.mem_cons.mp h with rfl | h
      · simp [specials]
      · obtain rfl := List.mem_singleton.mp h
        simp [specials]
    · next hdotted => exact .inr ⟨⟨hsigma, hdotted⟩, List.mem_singleton.mp h⟩

theorem lowered_of_mem_lowerFrom {before cs : List Char} :
    ∀ c ∈ lowerFrom before cs, Lowered c := by
  have hspecials : (specials.all fun c => decide (Lowered c)) = true := by decide +kernel
  induction cs generalizing before with
  | nil => simp [lowerFrom]
  | cons d rest ih =>
    intro c hc
    rw [lowerFrom_cons] at hc
    rcases List.mem_append.mp hc with hc | hc
    · rcases mem_expansion hc with hc | ⟨⟨hsigma, hdotted⟩, rfl⟩
      · exact of_decide_eq_true (List.all_eq_true.mp hspecials c hc)
      · exact lowered_lowerChar hsigma hdotted
    · exact ih c hc

theorem lowerFrom_of_lowered {before cs : List Char} (h : ∀ c ∈ cs, Lowered c) :
    lowerFrom before cs = cs := by
  induction cs generalizing before with
  | nil => rfl
  | cons c rest ih =>
    obtain ⟨⟨hsigma, hdotted, hfixed⟩, hrest⟩ := List.forall_mem_cons.mp h
    rw [lowerFrom_cons, expansion, if_neg hsigma, if_neg hdotted, hfixed, ih hrest]
    rfl

/-- A lowered character stays where it is. -/
theorem mem_lowerFrom {before cs : List Char} {c : Char} (h : Lowered c) (hc : c ∈ cs) :
    c ∈ lowerFrom before cs := by
  induction cs generalizing before with
  | nil => cases hc
  | cons d rest ih =>
    rw [lowerFrom_cons, List.mem_append]
    rcases List.mem_cons.mp hc with rfl | hrest
    · obtain ⟨hsigma, hdotted, hfixed⟩ := h
      rw [expansion, if_neg hsigma, if_neg hdotted, hfixed]
      exact .inl List.mem_cons_self
    · exact .inr (ih hrest)

/-- In ASCII every letter is lowered on its own. -/
theorem lowerFrom_of_ascii {before cs : List Char} (h : ∀ c ∈ cs, c.toNat < 0x80) :
    lowerFrom before cs = cs.map Char.toLower := by
  induction cs generalizing before with
  | nil => rfl
  | cons c rest ih =>
    obtain ⟨hc, hrest⟩ := List.forall_mem_cons.mp h
    rw [lowerFrom_cons, expansion, if_neg (by omega), if_neg (by omega), lowerChar_of_lt hc,
      ih hrest]
    rfl

/-- Every character of a text in lower case is lowered. -/
theorem lowered_of_mem_lowerChars {cs : List Char} : ∀ c ∈ lowerChars cs, Lowered c :=
  lowered_of_mem_lowerFrom

/-- A text of lowered characters is its own lower case. -/
theorem lowerChars_of_lowered {cs : List Char} (h : ∀ c ∈ cs, Lowered c) : lowerChars cs = cs :=
  lowerFrom_of_lowered h

/-- Lower-casing twice is lower-casing once. -/
theorem lowerChars_lowerChars (cs : List Char) : lowerChars (lowerChars cs) = lowerChars cs :=
  lowerChars_of_lowered lowered_of_mem_lowerChars

end TxDraft.Text
