import TxDraft.Proofs.Text.LowerCase
import TxDraft.Token

/-!
# Tokens of unit texts

What a unit text denotes is plain: in lower case, and with no point in the policy
(`plain_ofUnit`).  The unit of a plain token denotes that token (`ofUnit_unit`), so plain tokens
are told apart by their units (`unit_injective`) and the unit of ADA is no other token's.  A policy
of full length and a name may also be run together (`ofUnit_append`).
-/

namespace TxDraft.Token

/-- A token in lower case, with no point in its policy. -/
structure Plain (t : Token) : Prop where
  undotted : '.' ∉ t.policy.toList
  lowered : ∀ c ∈ t.policy.toList ++ t.name.toList, Text.Lowered c

theorem lowered_dot : Text.Lowered '.' := by
  decide +kernel

theorem isAda_iff {t : Token} : t.isAda = true ↔ t = ada := by
  cases t
  simp [isAda, ada]

theorem plain_ada : ada.Plain :=
  ⟨List.not_mem_nil, fun _ hc => absurd hc List.not_mem_nil⟩

/-! ### What a unit denotes -/

theorem plain_splitUnit {cs : List Char} (h : ∀ c ∈ cs, Text.Lowered c) : (splitUnit cs).Plain := by
  unfold splitUnit
  split
  -- with a point the policy ends before the first one, and without a point there is none at all
  · constructor
    · intro hdot
      rw [String.toList_ofList] at hdot
      have hbefore := List.all_eq_true.mp List.all_takeWhile '.' hdot
      simp at hbefore
    · intro c hc
      rw [String.toList_ofList, String.toList_ofList] at hc
      rcases List.mem_append.mp hc with hc | hc
      · exact h c ((List.takeWhile_sublist _).mem hc)
      · exact h c ((List.dropWhile_sublist _).mem ((List.drop_sublist _ _).mem hc))
  · next hdot =>
    rw [List.contains_iff_mem] at hdot
    constructor
    · rw [String.toList_ofList]
      exact fun hmem => hdot (List.mem_of_mem_take hmem)
    · rw [String.toList_ofList, String.toList_ofList, List.take_append_drop]
      exact h

/-- What a unit denotes is plain. -/
theorem plain_ofUnit (unit : String) : (ofUnit unit).Plain := by
  unfold ofUnit
  split
  · exact plain_ada
  · exact plain_splitUnit Text.lowered_of_mem_lowerChars

/-! ### What the unit of a token denotes -/

theorem toList_unit {t : Token} (h : t.isAda = false) :
    t.unit.toList = t.policy.toList ++ '.' :: t.name.toList := by
  rw [unit, if_neg (by simp [h]), String.toList_append, String.toList_append, List.append_assoc]
  rfl

theorem splitUnit_dotted {policy name : List Char} (h : '.' ∉ policy) :
    splitUnit (policy ++ '.' :: name) = ⟨String.ofList policy, String.ofList name⟩ := by
  have hfree : ∀ c ∈ policy, decide (c ≠ '.') = true := by
    intro c hc
    exact decide_eq_true fun hdot => h (hdot ▸ hc)
  have hcut : decide ('.' ≠ '.') = false := by decide
  rw [splitUnit, if_pos (by simp), List.takeWhile_append_of_pos hfree,
    List.dropWhile_append_of_pos hfree, List.takeWhile_cons, List.dropWhile_cons]
  simp

/-- The unit of any token but ADA is none of the texts that stand for ADA. -/
theorem unit_ne {t : Token} (h : t.isAda = false) :
    t.unit ≠ "" ∧ t.unit ≠ "lovelace" ∧ t.unit ≠ "." := by
  have hlist := toList_unit h
  have hdot : '.' ∈ t.unit.toList := by
    rw [hlist]
    exact List.mem_append_right _ List.mem_cons_self
  refine ⟨?_, ?_, ?_⟩
  · intro hempty
    rw [hempty] at hdot
    exact absurd hdot (by decide)
  · intro hword
    rw [hword] at hdot
    exact absurd hdot (by decide)
  -- a point alone leaves nothing for the policy and the name
  · intro hpoint
    have hlength : 1 = t.policy.toList.length + (t.name.toList.length + 1) := by
      rw [← List.length_cons, ← List.length_append, ← hlist, hpoint]
      rfl
    have hempty : ∀ {s : String}, s.toList.length = 0 → s = "" := fun hzero =>
      String.toList_eq_nil_iff.mp (List.length_eq_zero_iff.mp hzero)
    have hpolicy : t.policy = "" := hempty (by omega)
    have hname : t.name = "" := hempty (by omega)
    rw [isAda, hpolicy, hname] at h
    exact absurd h (by decide)

theorem lowered_of_mem_unit {t : Token} (h : t.Plain) (hada : t.isAda = false) :
    ∀ c ∈ t.unit.toList, Text.Lowered c := by
  intro c hc
  rw [toList_unit hada] at hc
  rcases List.mem_append.mp hc with hc | hc
  · exact h.lowered c (List.mem_append_left _ hc)
  · rcases List.mem_cons.mp hc with rfl | hc
    · exact lowered_dot
    · exact h.lowered c (List.mem_append_right _ hc)

/-- The unit of a plain token denotes the token. -/
theorem ofUnit_unit {t : Token} (h : t.Plain) : ofUnit t.unit = t := by
  rcases Bool.eq_false_or_eq_true t.isAda with hada | hada
  · rw [isAda_iff.mp hada]
    rfl
  · obtain ⟨hempty, hword, hpoint⟩ := unit_ne hada
    -- lower-casing leaves the unit alone, and it splits at the point that it was joined with
    rw [ofUnit, if_neg (by simp [hempty, hword, hpoint]),
      Text.lowerChars_of_lowered (lowered_of_mem_unit h hada), toList_unit hada,
      splitUnit_dotted h.undotted, String.ofList_toList, String.ofList_toList]

/-- A policy of full length and a name that are run together are split behind the policy. -/
theorem ofUnit_append {policy name : String} (hlength : policy.toList.length = policyLength)
    (hundotted : '.' ∉ policy.toList ++ name.toList)
    (hlowered : ∀ c ∈ policy.toList ++ name.toList, Text.Lowered c) :
    ofUnit (policy ++ name) = ⟨policy, name⟩ := by
  have hlist : (policy ++ name).toList = policy.toList ++ name.toList := String.toList_append
  have hlong : 56 ≤ (policy ++ name).toList.length := by
    rw [hlist, List.length_append, hlength, policyLength]
    omega
  -- the texts that stand for ADA are too short
  have hada : ∀ word : String, word.toList.length < 56 → policy ++ name ≠ word := by
    rintro word hshort rfl
    omega
  have hempty : policy ++ name ≠ "" := hada "" (by decide)
  have hword : policy ++ name ≠ "lovelace" := hada "lovelace" (by decide)
  have hpoint : policy ++ name ≠ "." := hada "." (by decide)
  have hnone : ¬ (policy.toList ++ name.toList).contains '.' = true := by
    rwa [List.contains_iff_mem]
  rw [ofUnit, if_neg (by simp [hempty, hword, hpoint]), hlist, Text.lowerChars_of_lowered hlowered,
    splitUnit, if_neg hnone, ← hlength, List.take_left, List.drop_left, String.ofList_toList,
    String.ofList_toList]

theorem unit_injective {t t' : Token} (h : t.Plain) (h' : t'.Plain) (heq : t.unit = t'.unit) :
    t = t' := by
  rw [← ofUnit_unit h, heq, ofUnit_unit h']

end TxDraft.Token
