import TxDraft.Proofs.Entries
import TxDraft.Proofs.Quantity
import TxDraft.Proofs.Token
import TxDraft.Proofs.Traversal
import TxDraft.Value

/-!
# Values read and read back

Whether a credit can be read does not depend on what was added before it: reading all credits and
then adding up the gains is the same as adding credit after credit (`foldlM_add`).  The assets of a
value that was read are canonical (`canonical_of_ofRecord`): their units are distinct, and each is
the unit of the token it denotes.  A map of such assets, printed and read again, adds exactly its
entries (`foldlM_add_printed_iff`).
-/

namespace TxDraft.Value

/-! ### Gains -/

/-- What a credit gives: a quantity of a token. -/
def Credit.read : Credit → Except Fault (Token × Int)
  | .coin quantity => do return (.ada, ← readQuantity quantity)
  | .asset unit quantity => do
    let token ← readUnit unit
    return (token, ← readQuantity quantity)
  | .unreadable => .error .assetsNotMap

/-- The value with all gains added. -/
def gained (value : Value) (gains : List (Token × Int)) : Value :=
  gains.foldl (fun value gain => value.credit gain.1 gain.2) value

theorem add_eq (value : Value) (credit : Credit) :
    value.add credit = credit.read.map fun gain => value.credit gain.1 gain.2 := by
  cases credit with
  | coin quantity =>
    rw [add, Credit.read]
    cases readQuantity quantity <;> rfl
  | asset unit quantity =>
    rw [add, Credit.read]
    cases readUnit unit <;> cases readQuantity quantity <;> rfl
  | unreadable => rfl

/-- Adding credit after credit is reading all of them and adding up the gains. -/
theorem foldlM_add (value : Value) (credits : List Credit) :
    credits.foldlM add value = (credits.mapM Credit.read).map value.gained := by
  -- a credit that cannot be read fails with the same fault on either side
  induction credits generalizing value with
  | nil => rfl
  | cons credit rest ih =>
    rw [List.foldlM_cons, List.mapM_cons, add_eq]
    cases credit.read with
    | error fault => rfl
    | ok gain =>
      show rest.foldlM add (value.credit gain.1 gain.2) = _
      rw [ih]
      cases rest.mapM Credit.read <;> rfl

theorem ofRecord_eq_ok_iff {record : Json.Fields} {value : Value} :
    ofRecord record = .ok value ↔
      ∃ gains, (credits record).mapM Credit.read = .ok gains ∧ zero.gained gains = value := by
  rw [ofRecord, foldlM_add]
  cases (credits record).mapM Credit.read <;> simp

theorem ofRecord_eq_error_iff {record : Json.Fields} {fault : Fault} :
    ofRecord record = .error fault ↔ (credits record).mapM Credit.read = .error fault := by
  rw [ofRecord, foldlM_add]
  cases (credits record).mapM Credit.read <;> simp

/-! ### Distinct gains -/

/-- The lovelace among gains, summed up. -/
def coins (gains : List (Token × Int)) : Int :=
  ((gains.filter fun gain => gain.1.isAda).map Prod.snd).sum

/-- The gains of tokens other than ADA, under their units. -/
def pieces (gains : List (Token × Int)) : Entries String Int :=
  (gains.filter fun gain => !gain.1.isAda).map fun gain => (gain.1.unit, gain.2)

theorem credit_of_isAda {value : Value} {token : Token} (h : token.isAda = true) (n : Int) :
    value.credit token n = { value with lovelace := value.lovelace + n } := by
  rw [credit, if_pos h]

/-- A unit that is not there yet goes to the end. -/
theorem credit_of_not_mem {value : Value} {token : Token} (h : token.isAda = false)
    (hnew : token.unit ∉ Entries.keys value.assets) (n : Int) :
    value.credit token n = { value with assets := value.assets ++ [(token.unit, n)] } := by
  have hheld : (value.assets.get? token.unit).getD 0 + n = n := by
    rw [Entries.get?_eq_none_iff.mpr hnew, Option.getD_none, zero_add]
  rw [← Entries.put_of_not_mem hnew, credit, if_neg (by simp [h])]
  simp only [hheld]

/-- Gains of distinct units that are not there yet go to the end in order. -/
theorem gained_of_nodup {value : Value} {gains : List (Token × Int)}
    (h : (Entries.keys (value.assets ++ pieces gains)).Nodup) :
    value.gained gains = ⟨value.lovelace + coins gains, value.assets ++ pieces gains⟩ := by
  -- the value grows with the induction, by the gains that were added already
  induction gains generalizing value with
  | nil => simp [gained, coins, pieces]
  | cons gain rest ih =>
    show (value.credit gain.1 gain.2).gained rest = _
    cases hada : gain.1.isAda with
    | true =>
      have hpieces : pieces (gain :: rest) = pieces rest := by simp [pieces, hada]
      have hcoins : coins (gain :: rest) = gain.2 + coins rest := by simp [coins, hada]
      rw [hpieces] at h ⊢
      rw [credit_of_isAda hada, hcoins, ← Int.add_assoc]
      exact @ih { value with lovelace := value.lovelace + gain.2 } h
    | false =>
      have hpieces : pieces (gain :: rest) = (gain.1.unit, gain.2) :: pieces rest := by
        simp [pieces, hada]
      have hcoins : coins (gain :: rest) = coins rest := by simp [coins, hada]
      rw [hpieces, List.append_cons] at h ⊢
      have hnew : gain.1.unit ∉ Entries.keys value.assets := by
        intro hmem
        rw [Entries.keys, List.map_append, List.map_append, List.append_assoc] at h
        exact (List.nodup_append.mp h).2.2 _ hmem gain.1.unit (by simp) rfl
      rw [credit_of_not_mem hada hnew, hcoins]
      exact @ih { value with assets := value.assets ++ [(gain.1.unit, gain.2)] } h

/-! ### Canonical assets -/

/-- Distinct units, each of them the unit of a plain token that is not ADA. -/
structure Canonical (assets : Entries String Int) : Prop where
  nodup : (Entries.keys assets).Nodup
  denoted : ∀ unit ∈ Entries.keys assets, ∃ t : Token, t.Plain ∧ t.isAda = false ∧ t.unit = unit

theorem canonical_nil : Canonical [] :=
  ⟨List.nodup_nil, by simp⟩

theorem Canonical.tail {e : String × Int} {rest : Entries String Int} (h : Canonical (e :: rest)) :
    Canonical rest :=
  ⟨(List.nodup_cons.mp h.nodup).2, fun unit hunit => h.denoted unit (List.mem_cons_of_mem _ hunit)⟩

/-- The tokens of gains are plain. -/
theorem Credit.plain_of_read {credit : Credit} {gain : Token × Int} (h : credit.read = .ok gain) :
    gain.1.Plain := by
  cases credit with
  | coin quantity =>
    obtain ⟨n, -, hgain⟩ := Traversal.bind_eq_ok_iff.mp h
    cases hgain
    exact Token.plain_ada
  | asset unit quantity =>
    obtain ⟨token, htoken, hrest⟩ := Traversal.bind_eq_ok_iff.mp h
    obtain ⟨n, -, hgain⟩ := Traversal.bind_eq_ok_iff.mp hrest
    cases hgain
    unfold readUnit at htoken
    split at htoken
    · cases htoken
      exact Token.plain_ofUnit _
    · split at htoken
      · cases htoken
      · cases htoken
        exact Token.plain_ada
  | unreadable => cases h

theorem plain_of_mem_gains {credits : List Credit} {gains : List (Token × Int)}
    (h : credits.mapM Credit.read = .ok gains) : ∀ gain ∈ gains, gain.1.Plain := by
  intro gain hgain
  obtain ⟨credit, -, hcredit⟩ := Traversal.exists_of_mem_mapM h gain hgain
  exact credit.plain_of_read hcredit

theorem Canonical.credit {value : Value} {token : Token} (h : Canonical value.assets)
    (hplain : token.Plain) (quantity : Int) : Canonical (value.credit token quantity).assets := by
  unfold Value.credit
  split
  -- lovelace leaves the assets alone
  · exact h
  · next hada =>
    rw [Bool.not_eq_true] at hada
    refine ⟨Entries.nodup_keys_put _ _ h.nodup, ?_⟩
    intro unit hunit
    rcases Entries.mem_keys_put.mp hunit with rfl | hunit
    · exact ⟨token, hplain, hada, rfl⟩
    · exact h.denoted unit hunit

theorem Canonical.gained {value : Value} {gains : List (Token × Int)}
    (h : Canonical value.assets) (hplain : ∀ gain ∈ gains, gain.1.Plain) :
    Canonical (value.gained gains).assets := by
  induction gains generalizing value with
  | nil => exact h
  | cons gain rest ih =>
    obtain ⟨hgain, hrest⟩ := List.forall_mem_cons.mp hplain
    exact ih (h.credit hgain gain.2) hrest

/-- The assets of a value that was read are canonical. -/
theorem canonical_of_ofRecord {record : Json.Fields} {value : Value}
    (h : ofRecord record = .ok value) : Canonical value.assets := by
  obtain ⟨gains, hread, rfl⟩ := ofRecord_eq_ok_iff.mp h
  have hzero : Canonical zero.assets := canonical_nil
  exact hzero.gained (plain_of_mem_gains hread)

/-! ### Assets read back -/

theorem readQuantity_print_eq_ok_iff {n m : Int} :
    readQuantity (.str (Quantity.print n)) = .ok m ↔ Quantity.Short n ∧ n = m := by
  rw [← Quantity.read_print_eq_ok_iff, readQuantity]
  cases Quantity.read (.str (Quantity.print n)) <;> simp

/-- A quantity of a canonical unit that is not there yet goes to the end, if it is short. -/
theorem add_printed_iff {value after : Value} {unit : String} {n : Int}
    (hdenoted : ∃ t : Token, t.Plain ∧ t.isAda = false ∧ t.unit = unit)
    (hnew : unit ∉ Entries.keys value.assets) :
    value.add (.asset (.str unit) (.str (Quantity.print n))) = .ok after ↔
      Quantity.Short n ∧ { value with assets := value.assets ++ [(unit, n)] } = after := by
  obtain ⟨t, hplain, hada, rfl⟩ := hdenoted
  have hread : readUnit (.str t.unit) = .ok t := congrArg Except.ok (Token.ofUnit_unit hplain)
  rw [add, hread, Traversal.bind_eq_ok_iff]
  simp only [Traversal.bind_eq_ok_iff, readQuantity_print_eq_ok_iff]
  constructor
  · rintro ⟨_, ht, _, ⟨hshort, rfl⟩, hafter⟩
    cases ht
    cases hafter
    exact ⟨hshort, (credit_of_not_mem hada hnew n).symm⟩
  · rintro ⟨hshort, rfl⟩
    exact ⟨t, rfl, n, ⟨hshort, rfl⟩, congrArg Except.ok (credit_of_not_mem hada hnew n)⟩

/-- Canonical assets, printed and read again, are added as they were, if they are short. -/
theorem foldlM_add_printed_iff {value after : Value} {assets : Entries String Int}
    (h : Canonical assets) (hnew : ∀ unit ∈ Entries.keys assets, unit ∉ Entries.keys value.assets) :
    (unitCredits (Json.plainFields (assets.mapValues fun n => .str (Quantity.print n)))).foldlM add
        value = .ok after ↔
      (∀ e ∈ assets, Quantity.Short e.2) ∧
        { value with assets := value.assets ++ assets } = after := by
  -- the value grows with the induction, by the entries that were put already
  induction assets generalizing value with
  | nil => simp [unitCredits, Json.plainFields, Entries.mapValues, pure, Except.pure]
  | cons e rest ih =>
    obtain ⟨unit, n⟩ := e
    obtain ⟨hunit, hrest⟩ := List.forall_mem_cons.mp hnew
    -- the unit that was put is none of those still to come
    have hlater : ∀ unit' ∈ Entries.keys rest,
        unit' ∉ Entries.keys (value.assets ++ [(unit, n)]) := by
      intro unit' hmem hput
      rw [Entries.keys, List.map_append, List.mem_append] at hput
      rcases hput with hheld | hlast
      · exact hrest unit' hmem hheld
      · obtain rfl : unit' = unit := by simpa using hlast
        exact (List.nodup_cons.mp h.nodup).1 hmem
    show (add value (.asset (.str unit) (.str (Quantity.print n))) >>= fun value =>
      (unitCredits (Json.plainFields (Entries.mapValues (fun n => .str (Quantity.print n))
        rest))).foldlM add value) = _ ↔ _
    rw [Traversal.bind_eq_ok_iff]
    simp only [add_printed_iff (h.denoted unit List.mem_cons_self) hunit]
    constructor
    · rintro ⟨_, ⟨hshort, rfl⟩, hfold⟩
      obtain ⟨hshorts, rfl⟩ := (ih h.tail hlater).mp hfold
      exact ⟨List.forall_mem_cons.mpr ⟨hshort, hshorts⟩, by simp⟩
    · rintro ⟨hshorts, rfl⟩
      obtain ⟨hshort, hshorts⟩ := List.forall_mem_cons.mp hshorts
      exact ⟨_, ⟨hshort, rfl⟩, (ih h.tail hlater).mpr ⟨hshorts, by simp⟩⟩

end TxDraft.Value
