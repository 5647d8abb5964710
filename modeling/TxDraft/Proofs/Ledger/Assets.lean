import Mathlib.Data.List.Lex
import Mathlib.Data.List.Sort
import Mathlib.Data.Prod.Lex
import TxDraft.Ledger.Assets
import TxDraft.Proofs.Encoding.Hex
import TxDraft.Proofs.Entries
import TxDraft.Proofs.Utxo.Total
import TxDraft.Proofs.Value.Holding

/-!
# Maps of assets

The order of keys is the lexical order of policy, length of the name, and name (`precedes_iff`).
Maps are kept in this order and without zeros (`Canonical`), by setting one quantity and so by
adding maps; the quantities of a sum are the sums of the quantities (`quantity_add`).  A map in this
form is told by its quantities alone (`Canonical.ext`).  A map that is read from the units of minted
tokens has the quantities that were written (`ofUnits?_of_isUnit`).
-/

namespace TxDraft

theorem Bytes.precedes_iff (a b : Bytes) :
    a.precedes b = true ↔ a.map UInt8.toNat < b.map UInt8.toNat := by
  induction a generalizing b with
  | nil => cases b <;> simp [precedes]
  | cons x xs ih =>
    cases b with
    | nil => simp [precedes]
    | cons y ys =>
      simp [precedes, List.cons_lt_cons_iff, ih, UInt8.lt_iff_toNat_lt, UInt8.toNat_inj]

theorem Bytes.map_toNat_injective : Function.Injective (List.map UInt8.toNat) :=
  List.map_injective_iff.mpr fun _ _ h => UInt8.toNat_inj.mp h

namespace Ledger

/-! ### The order of keys -/

namespace AssetKey

/-- The parts of a key in the order in which they count. -/
def rank (k : AssetKey) : List Nat ×ₗ Nat ×ₗ List Nat :=
  toLex (k.policy.map UInt8.toNat, toLex (k.name.length, k.name.map UInt8.toNat))

theorem rank_injective : Function.Injective rank := by
  rintro ⟨p, n⟩ ⟨p', n'⟩ h
  simp only [rank, toLex_inj, Prod.mk.injEq] at h
  rw [Bytes.map_toNat_injective h.1, Bytes.map_toNat_injective h.2.2]

theorem precedes_iff (k k' : AssetKey) : k.precedes k' = true ↔ k.rank < k'.rank := by
  rw [rank, rank, Prod.Lex.toLex_lt_toLex, Prod.Lex.toLex_lt_toLex, precedes]
  by_cases hpolicy : k.policy = k'.policy
  · simp [hpolicy, Bytes.precedes_iff]
  · simp [hpolicy, Bytes.precedes_iff, Bytes.map_toNat_injective.eq_iff]

/-! ### The unit of a key -/

/-- The unit of a key has its policy before the first point and its name behind it. -/
theorem unit_eq_iff {k : AssetKey} {policy name : String} :
    k.unit = policy ++ "." ++ name ↔ Hex.encode k.policy = policy ∧ Hex.encode k.name = name := by
  have hdigits : ∀ bytes, '.' ∉ (Hex.encode bytes).toList := fun bytes hdot => by
    rw [Hex.encode, String.toList_ofList] at hdot
    exact Token.not_hexDigit_dot (Hex.hexDigit_of_mem_encodeChars hdot)
  constructor
  · intro heq
    have hlist := congrArg String.toList heq
    simp only [unit, String.toList_append, List.append_assoc] at hlist
    obtain ⟨hp, -, hn⟩ := (List.append_cons_inj_of_notMem (hdigits _) (hdigits _)).mp hlist
    exact ⟨String.toList_inj.mp hp, String.toList_inj.mp hn⟩
  · rintro ⟨rfl, rfl⟩
    rfl

theorem unit_injective : Function.Injective unit := by
  rintro ⟨policy, name⟩ ⟨policy', name'⟩ h
  obtain ⟨hpolicy, hname⟩ := unit_eq_iff.mp h
  rw [mk.injEq]
  exact ⟨Hex.encode_injective hpolicy, Hex.encode_injective hname⟩

end AssetKey

namespace Assets

/-! ### Maps in order -/

/-- In order, and without zeros. -/
structure Canonical (a : Assets) : Prop where
  ordered : a.Pairwise fun e e' => e.1.rank < e'.1.rank
  nonzero : ∀ e ∈ a, e.2 ≠ 0

theorem canonical_nil : Canonical [] :=
  ⟨.nil, nofun⟩

theorem canonical_cons_iff {e : AssetKey × Int} {rest : Assets} :
    Canonical (e :: rest) ↔
      (∀ e' ∈ rest, e.1.rank < e'.1.rank) ∧ e.2 ≠ 0 ∧ Canonical rest := by
  constructor
  · rintro ⟨hordered, hnonzero⟩
    obtain ⟨hfirst, hrest⟩ := List.pairwise_cons.mp hordered
    obtain ⟨hne, hall⟩ := List.forall_mem_cons.mp hnonzero
    exact ⟨hfirst, hne, hrest, hall⟩
  · rintro ⟨hfirst, hne, hrest⟩
    exact ⟨List.pairwise_cons.mpr ⟨hfirst, hrest.ordered⟩,
      List.forall_mem_cons.mpr ⟨hne, hrest.nonzero⟩⟩

/-- There is nothing under a key that comes before all others. -/
theorem get?_eq_none_of_forall_lt {k : AssetKey} {a : Assets}
    (h : ∀ e ∈ a, k.rank < e.1.rank) : Entries.get? k a = none := by
  rw [Entries.get?_eq_none_iff, Entries.keys, List.mem_map]
  rintro ⟨e, he, rfl⟩
  exact lt_irrefl _ (h e he)

theorem Canonical.nodup_keys {a : Assets} (h : Canonical a) : (Entries.keys a).Nodup := by
  refine List.pairwise_map.mpr (h.ordered.imp ?_)
  intro e e' hlt heq
  rw [heq] at hlt
  exact lt_irrefl _ hlt

/-- Two maps with the same quantities have the same entries. -/
theorem Canonical.ext {a b : Assets} (ha : Canonical a) (hb : Canonical b)
    (h : ∀ k, Entries.get? k a = Entries.get? k b) : a = b := by
  let before : AssetKey × Int → AssetKey × Int → Prop := fun e e' => e.1.rank < e'.1.rank
  have : Std.Antisymm before := ⟨fun _ _ hlt hgt => absurd (lt_trans hlt hgt) (lt_irrefl _)⟩
  have : Std.Irrefl before := ⟨fun _ => lt_irrefl _⟩
  refine List.Pairwise.eq_of_mem_iff (r := before) ha.ordered hb.ordered ?_
  rintro ⟨k, n⟩
  rw [Entries.mem_iff_get?_eq_some ha.nodup_keys, Entries.mem_iff_get?_eq_some hb.nodup_keys, h]

/-! ### Setting one quantity -/

/-- The map with a quantity in front, unless it is zero. -/
def front (k : AssetKey) (n : Int) (a : Assets) : Assets :=
  if n = 0 then a else (k, n) :: a

theorem set_cons (k k₀ : AssetKey) (n n₀ : Int) (rest : Assets) :
    set k n ((k₀, n₀) :: rest) =
      if k₀ = k then front k n rest
      else if k.precedes k₀ then front k n ((k₀, n₀) :: rest)
      else (k₀, n₀) :: set k n rest := rfl

theorem mem_front {k : AssetKey} {n : Int} {a : Assets} {e : AssetKey × Int} (h : e ∈ front k n a) :
    e = (k, n) ∨ e ∈ a := by
  unfold front at h
  split at h
  · exact .inr h
  · exact List.mem_cons.mp h

theorem canonical_front {k : AssetKey} {n : Int} {a : Assets} (h : Canonical a)
    (hk : ∀ e ∈ a, k.rank < e.1.rank) : Canonical (front k n a) := by
  unfold front
  split
  · exact h
  · next hn => exact canonical_cons_iff.mpr ⟨hk, hn, h⟩

theorem get?_front {k : AssetKey} {n : Int} {a : Assets} (hk : ∀ e ∈ a, k.rank < e.1.rank)
    (k' : AssetKey) :
    Entries.get? k' (front k n a) =
      if k = k' then (if n = 0 then none else some n) else Entries.get? k' a := by
  unfold front
  by_cases hn : n = 0
  · rw [if_pos hn, if_pos hn]
    split
    · next heq => rw [← heq, get?_eq_none_of_forall_lt hk]
    · rfl
  · rw [if_neg hn, if_neg hn, Entries.get?_cons]

theorem mem_set {k : AssetKey} {n : Int} {a : Assets} {e : AssetKey × Int} (h : e ∈ set k n a) :
    e = (k, n) ∨ e ∈ a := by
  induction a with
  | nil => exact mem_front h
  | cons e₀ rest ih =>
    obtain ⟨k₀, n₀⟩ := e₀
    rw [set_cons] at h
    split_ifs at h
    · exact (mem_front h).imp_right (List.mem_cons_of_mem _)
    · exact mem_front h
    · rcases List.mem_cons.mp h with rfl | h
      · exact .inr List.mem_cons_self
      · exact (ih h).imp_right (List.mem_cons_of_mem _)

theorem forall_lt_of_precedes {k k₀ : AssetKey} {n₀ : Int} {rest : Assets}
    (h : Canonical ((k₀, n₀) :: rest)) (hlt : k.precedes k₀ = true) :
    ∀ e ∈ (k₀, n₀) :: rest, k.rank < e.1.rank := by
  have hk := (AssetKey.precedes_iff _ _).mp hlt
  exact List.forall_mem_cons.mpr ⟨hk, fun e he => lt_trans hk ((canonical_cons_iff.mp h).1 e he)⟩

theorem canonical_set {a : Assets} (h : Canonical a) (k : AssetKey) (n : Int) :
    Canonical (set k n a) := by
  induction a with
  | nil => exact canonical_front canonical_nil nofun
  | cons e₀ rest ih =>
    obtain ⟨k₀, n₀⟩ := e₀
    obtain ⟨hfirst, hne, hrest⟩ := canonical_cons_iff.mp h
    rw [set_cons]
    split_ifs with hk hlt
    · subst hk
      exact canonical_front hrest hfirst
    · exact canonical_front h (forall_lt_of_precedes h hlt)
    · -- neither the same nor before: the order is linear, so the key goes further back
      have hgt : k₀.rank < k.rank := by
        rw [AssetKey.precedes_iff, not_lt] at hlt
        exact lt_of_le_of_ne hlt fun heq => hk (AssetKey.rank_injective heq)
      refine canonical_cons_iff.mpr ⟨fun e he => ?_, hne, ih hrest⟩
      rcases mem_set he with rfl | he
      · exact hgt
      · exact hfirst e he

/-- After setting a quantity, it is what is read under its key, and all else is as before. -/
theorem get?_set {a : Assets} (h : Canonical a) (k k' : AssetKey) (n : Int) :
    Entries.get? k' (set k n a) =
      if k = k' then (if n = 0 then none else some n) else Entries.get? k' a := by
  induction a with
  | nil => exact get?_front (fun _ he => absurd he List.not_mem_nil) k'
  | cons e₀ rest ih =>
    obtain ⟨k₀, n₀⟩ := e₀
    obtain ⟨hfirst, -, hrest⟩ := canonical_cons_iff.mp h
    rw [set_cons]
    by_cases hk : k₀ = k
    · subst hk
      rw [if_pos rfl, get?_front hfirst, Entries.get?_cons]
      split <;> rfl
    · rw [if_neg hk]
      by_cases hlt : k.precedes k₀ = true
      · rw [if_pos hlt, get?_front (forall_lt_of_precedes h hlt)]
      · rw [if_neg hlt, Entries.get?_cons, Entries.get?_cons, ih hrest]
        by_cases hk₀ : k₀ = k'
        · subst hk₀
          rw [if_pos rfl, if_pos rfl, if_neg fun heq => hk heq.symm]
        · rw [if_neg hk₀, if_neg hk₀]

/-! ### Sums -/

theorem quantity_nil (k : AssetKey) : quantity k [] = 0 := rfl

/-- Zero is not kept. -/
theorem Canonical.get?_eq {a : Assets} (h : Canonical a) (k : AssetKey) :
    Entries.get? k a = if a.quantity k = 0 then none else some (a.quantity k) := by
  rw [quantity]
  cases hget : Entries.get? k a with
  | none => rfl
  | some n =>
    have hne : n ≠ 0 := h.nonzero _ ((Entries.mem_iff_get?_eq_some h.nodup_keys).mpr hget)
    rw [Option.getD_some, if_neg hne]

theorem Canonical.eq_of_quantity {a b : Assets} (ha : Canonical a) (hb : Canonical b)
    (h : ∀ k, a.quantity k = b.quantity k) : a = b :=
  ha.ext hb fun k => by rw [ha.get?_eq, hb.get?_eq, h]

theorem quantity_set {a : Assets} (h : Canonical a) (k k' : AssetKey) (n : Int) :
    quantity k' (set k n a) = if k = k' then n else a.quantity k' := by
  rw [quantity, get?_set h]
  split
  · split
    · next hn => exact hn.symm
    · rfl
  · rfl

theorem quantity_plus {a : Assets} (h : Canonical a) (k k' : AssetKey) (n : Int) :
    quantity k' (plus a k n) = a.quantity k' + if k = k' then n else 0 := by
  rw [plus, quantity_set h]
  split
  · next hk => rw [hk]
  · rw [add_zero]

theorem canonical_plus {a : Assets} (h : Canonical a) (k : AssetKey) (n : Int) :
    Canonical (plus a k n) :=
  canonical_set h k _

theorem canonical_add {a : Assets} (h : Canonical a) (b : Assets) : Canonical (add a b) := by
  induction b generalizing a with
  | nil => exact h
  | cons e rest ih => exact ih (canonical_plus h e.1 e.2)

theorem quantity_cons {k : AssetKey} {e : AssetKey × Int} {rest : Assets}
    (h : Canonical (e :: rest)) :
    quantity k (e :: rest) = (if e.1 = k then e.2 else 0) + rest.quantity k := by
  obtain ⟨hfirst, -, -⟩ := canonical_cons_iff.mp h
  rw [quantity, Entries.get?_cons]
  split
  · next hk =>
    rw [quantity, get?_eq_none_of_forall_lt (hk ▸ hfirst), Option.getD_none, add_zero,
      Option.getD_some]
  · rw [zero_add, quantity]

/-- The quantities of a sum are the sums of the quantities. -/
theorem quantity_add {a b : Assets} (ha : Canonical a) (hb : Canonical b) (k : AssetKey) :
    quantity k (add a b) = a.quantity k + b.quantity k := by
  induction b generalizing a with
  | nil => rw [quantity_nil, add_zero]; rfl
  | cons e rest ih =>
    have hrest := (canonical_cons_iff.mp hb).2.2
    show quantity k (add (plus a e.1 e.2) rest) = _
    rw [ih (canonical_plus ha e.1 e.2) hrest, quantity_plus ha, quantity_cons hb, add_assoc]

/-! ### Unit texts -/

/-- The text is the unit of a minted token. -/
def IsUnit (unit : String) : Prop :=
  ∃ t : Token, t.Minted ∧ t.unit = unit

/-- A minted token stands for the one key that has its unit. -/
theorem key?_of_minted {t : Token} (h : t.Minted) : ∃ k, key? t = some k ∧ k.unit = t.unit := by
  obtain ⟨policy, name⟩ := t
  obtain ⟨policyBytes, hpolicy, hpolicyDigits⟩ := Hex.exists_encode_eq (s := policy)
    ⟨by rw [h.policy.1]; decide, h.policy.2⟩
  obtain ⟨nameBytes, hname, hnameDigits⟩ := Hex.exists_encode_eq h.name.2
  have hlengths : policyBytes.length = policyLength ∧ nameBytes.length ≤ maxName := by
    have hpolicyFixed := h.policy.1
    have hnameMost := h.name.1
    rw [policyLength, maxName]
    dsimp only at hnameDigits hpolicyFixed hnameMost
    omega
  subst hpolicy hname
  refine ⟨⟨policyBytes, nameBytes⟩, ?_, h.unit_eq.symm⟩
  rw [key?, Hex.decode?_encode, Hex.decode?_encode]
  exact if_pos (by simp [hlengths])

theorem lengths_of_key? {t : Token} {k : AssetKey} (h : key? t = some k) :
    k.policy.length = policyLength ∧ k.name.length ≤ maxName := by
  obtain ⟨policy, -, h⟩ := Option.bind_eq_some_iff.mp h
  obtain ⟨name, -, h⟩ := Option.bind_eq_some_iff.mp h
  split at h
  · next hfits =>
    cases h
    simpa using hfits
  · cases h

/-- Reading the units of minted tokens sets the quantity of each, and leaves all others alone. -/
theorem foldlM_units_of_isUnit {units : Entries String Int} (sign : Int)
    (hunits : ∀ unit ∈ Entries.keys units, IsUnit unit) (hdistinct : (Entries.keys units).Nodup)
    {before : Assets} (h : Canonical before) :
    ∃ m, units.foldlM (fun m e => do
        let k ← key? (Token.ofUnit e.1)
        return set k (sign * e.2) m) before = some m ∧ Canonical m ∧
      ∀ k, quantity k m =
        if k.unit ∈ Entries.keys units then sign * units.quantity k.unit
        else before.quantity k := by
  induction units generalizing before with
  | nil => exact ⟨before, rfl, h, fun k => (if_neg List.not_mem_nil).symm⟩
  | cons e rest ih =>
    obtain ⟨unit, n⟩ := e
    obtain ⟨hnew, hrest⟩ : unit ∉ Entries.keys rest ∧ (Entries.keys rest).Nodup :=
      List.nodup_cons.mp hdistinct
    obtain ⟨⟨t, hminted, rfl⟩, hothers⟩ := List.forall_mem_cons.mp hunits
    obtain ⟨k₀, hk₀, hkey⟩ := key?_of_minted hminted
    obtain ⟨m, hm, hcanonical, hquantity⟩ := ih hothers hrest (canonical_set h k₀ (sign * n))
    refine ⟨m, ?_, hcanonical, fun k => ?_⟩
    · rw [List.foldlM_cons, Token.ofUnit_unit hminted.plain, hk₀]
      exact hm
    · have hsame : k₀ = k ↔ t.unit = k.unit := by
        rw [← hkey, AssetKey.unit_injective.eq_iff]
      rw [hquantity, quantity_set h, Entries.keys_cons, Entries.quantity_cons]
      simp only [hsame, List.mem_cons]
      -- what was set for this unit stays, since the unit does not come again
      by_cases hunit : t.unit = k.unit
      · simp [← hunit, hnew]
      · simp [hunit, Ne.symm hunit]

/-- Distinct units of minted tokens are read as what they are. -/
theorem ofUnits?_of_isUnit {units : Entries String Int} (sign : Int)
    (hunits : ∀ unit ∈ Entries.keys units, IsUnit unit) (hdistinct : (Entries.keys units).Nodup) :
    ∃ m, ofUnits? sign units = some m ∧ Canonical m ∧
      ∀ k, quantity k m = sign * units.quantity k.unit := by
  obtain ⟨m, hm, hcanonical, hquantity⟩ :=
    foldlM_units_of_isUnit sign hunits hdistinct canonical_nil
  refine ⟨m, hm, hcanonical, fun k => ?_⟩
  rw [hquantity, quantity_nil]
  split
  · rfl
  · next hk => rw [Entries.quantity_of_not_mem hk, mul_zero]

theorem keys_under (policy : String) (assets : Entries String Int) :
    Entries.keys (assets.map fun e => (policy ++ "." ++ e.1, e.2)) =
      (Entries.keys assets).map (policy ++ "." ++ ·) := by
  rw [Entries.keys, Entries.keys, List.map_map, List.map_map]
  rfl

/-- Under a policy there are the quantities of its names, and no others. -/
theorem quantity_under (policy : String) (assets : Entries String Int) (k : AssetKey) :
    Entries.quantity k.unit (assets.map fun e => (policy ++ "." ++ e.1, e.2)) =
      if Hex.encode k.policy = policy then assets.quantity (Hex.encode k.name) else 0 := by
  induction assets with
  | nil => exact (ite_self 0).symm
  | cons e rest ih =>
    have hsame : policy ++ "." ++ e.1 = k.unit ↔
        Hex.encode k.policy = policy ∧ e.1 = Hex.encode k.name := by
      rw [eq_comm, AssetKey.unit_eq_iff, eq_comm (a := e.1)]
    rw [List.map_cons, Entries.quantity_cons, Entries.quantity_cons, ih]
    simp only [hsame]
    by_cases hp : Hex.encode k.policy = policy <;> simp [hp]

/-- The assets of a policy under distinct names are read as what they are. -/
theorem ofUnits?_of_minted {policy : String} {assets : Entries String Int} (sign : Int)
    (hminted : ∀ name ∈ Entries.keys assets, Token.Minted ⟨policy, name⟩)
    (hdistinct : (Entries.keys assets).Nodup) :
    ∃ m, ofUnits? sign (assets.map fun e => (policy ++ "." ++ e.1, e.2)) = some m ∧ Canonical m ∧
      ∀ k, quantity k m =
        sign * if Hex.encode k.policy = policy then assets.quantity (Hex.encode k.name)
          else 0 := by
  have hunits : ∀ unit ∈ Entries.keys (assets.map fun e => (policy ++ "." ++ e.1, e.2)),
      IsUnit unit := by
    rw [keys_under]
    rintro _ hunit
    obtain ⟨name, hname, rfl⟩ := List.mem_map.mp hunit
    exact ⟨_, hminted name hname, (hminted name hname).unit_eq⟩
  have hnodup : (Entries.keys (assets.map fun e => (policy ++ "." ++ e.1, e.2))).Nodup := by
    rw [keys_under]
    exact hdistinct.map fun name name' h => (String.append_right_inj _).mp h
  obtain ⟨m, hm, hcanonical, hquantity⟩ := ofUnits?_of_isUnit sign hunits hnodup
  exact ⟨m, hm, hcanonical, fun k => by rw [hquantity, quantity_under]⟩

end Assets

end Ledger

end TxDraft
