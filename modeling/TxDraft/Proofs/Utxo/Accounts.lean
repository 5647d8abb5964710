import TxDraft.Proofs.Utxo.Total

/-!
# Accounts of records

A record of an output is a list of entries (`Value.entries`), most of them a quantity of a unit that
the entry itself names.  Whatever is credited by reading the record comes from exactly one of them
(`map_gain?_credits`), but not every entry is understood: a quantity of nothing in particular is
taken for lovelace, the units of a map of assets that stands where policies are expected are taken
for names of a policy, and what is neither is passed over.

`accounted_iff` says for which records all is well: those of which every entry is understood, and
those that are refused with something to say.  The value of any record that is read is the sum of
its entries as they were taken.
-/

namespace TxDraft

namespace Value

/-! ### Entries -/

/-- One entry of a record. -/
inductive Entry where
  /-- A quantity of a unit that is named. -/
  | named (unit : String) (quantity : Json)
  /-- A quantity of nothing in particular. -/
  | nameless (quantity : Json)
  /-- A quantity of a unit that is named in a map of assets with no count of coins beside it. -/
  | uncounted (unit : String) (quantity : Json)
  /-- Something in the place of a unit, or of a map of assets, that is not one. -/
  | foreign (v : Json)
  /-- Anything else. -/
  | obscure (v : Json)

/-- An entry of a map from units to quantities; neither an empty text nor a point names a unit. -/
def unitEntry (e : Json.Str × Json) : Entry :=
  if e.1.string = "" ∨ e.1.string = "." then .nameless e.2 else .named e.1.string e.2

/-- An item of a list of units with quantities. -/
def itemEntry : Json → Entry
  | .obj item =>
    let quantity := (Json.field? item "quantity").getD (.int 0)
    match Json.field item "unit" with
    | .str unit => unitEntry (unit, quantity)
    | v => if v.isTruthy then .foreign v else .nameless quantity
  | v => .obscure v

/-- The entries under `amount`; a quantity alone is one of lovelace. -/
def amountEntries : Json → List Entry
  | .arr items => items.map itemEntry
  | .null => []
  | v => [.named "lovelace" v]

/-- The entries of a map from units to quantities; anything else that does not count as false is one
entry, as `other` says. -/
def mapEntries (other : Json → Entry) : Json → List Entry
  | .obj fields => fields.map unitEntry
  | v => if v.isTruthy then [other v] else []

/-- The entries of a field under `value`, where no coins are counted. -/
def fieldEntries (name : Json.Str) : Json → List Entry
  | .obj fields =>
    if name = .plain "ada" then
      .named "lovelace" ((Json.field? fields "lovelace").getD (.int 0)) ::
        (fields.filter fun e => e.1 ≠ .plain "lovelace").map fun e => .obscure e.2
    else if name = .plain "assets" then fields.map fun e => .uncounted e.1.string e.2
    else fields.map fun e => unitEntry (.plain (name.string ++ "." ++ e.1.string), e.2)
  | v => if name = .plain "assets" ∧ v.isTruthy = false then [] else [.obscure v]

/-- The entries under `value`; a quantity alone is one of lovelace. -/
def valueEntries : Json → List Entry
  | .obj fields =>
    match Json.field? fields "coins" with
    | some coins =>
      .named "lovelace" coins :: mapEntries .foreign (Json.field fields "assets") ++
        (fields.filter fun e => e.1 ≠ .plain "coins" ∧ e.1 ≠ .plain "assets").map fun e =>
          .obscure e.2
    | none => fields.flatMap fun e => fieldEntries e.1 e.2
  | .null => []
  | v => [.named "lovelace" v]

/-- All entries of a record. -/
def entries (record : Json.Fields) : List Entry :=
  amountEntries (Json.field record "amount") ++ valueEntries (Json.field record "value") ++
    mapEntries .obscure (Json.field record "assets")

namespace Entry

/-- The entry names the unit whose quantity it gives. -/
def Understood : Entry → Prop
  | named _ _ => True
  | _ => False

/-- The token of the unit that the entry names, if it is understood. -/
def token? : Entry → Option Token
  | named unit _ => some (Token.ofUnit unit)
  | _ => none

/-- The quantity of the token that the entry gives. -/
def amountFor (t : Token) : Entry → Int
  | named unit quantity => if Token.ofUnit unit = t then Quantity.amountOf quantity else 0
  | _ => 0

/-- The entry as the reader takes it. -/
def asTaken : Entry → Entry
  | nameless quantity => named "lovelace" quantity
  | uncounted unit quantity => named ("assets." ++ unit) quantity
  | e => e

/-- What the entry gives does not keep the record from being read. -/
def Passes : Entry → Prop
  | named _ quantity | nameless quantity | uncounted _ quantity =>
    ∃ n, Quantity.read quantity = .ok n
  | foreign _ => False
  | obscure _ => True

end Entry

/-! ### Every credit comes from one entry -/

/-- A quantity of the token, if the value is a quantity. -/
def share? (t : Token) (quantity : Json) : Option (Token × Int) :=
  (Quantity.read quantity).toOption.map fun n => (t, n)

/-- What the credit gives, if it can be read. -/
def Credit.gain? (credit : Credit) : Option (Token × Int) :=
  credit.read.toOption

/-- What is credited for the entry: one thing, which may keep the record from being read, or nothing
at all. -/
def Entry.gains : Entry → List (Option (Token × Int))
  | named unit quantity => [share? (Token.ofUnit unit) quantity]
  | nameless quantity => [share? .ada quantity]
  | uncounted unit quantity => [share? (Token.ofUnit ("assets." ++ unit)) quantity]
  | foreign _ => [none]
  | obscure _ => []

theorem Credit.gain?_coin (quantity : Json) : (coin quantity).gain? = share? .ada quantity := by
  rw [gain?, read, readQuantity, share?]
  cases Quantity.read quantity <;> rfl

theorem Credit.gain?_asset {unit : Json} {t : Token} (h : readUnit unit = .ok t) (quantity : Json) :
    (asset unit quantity).gain? = share? t quantity := by
  rw [gain?, read, h, readQuantity, share?]
  cases Quantity.read quantity <;> rfl

theorem Credit.gain?_asset_of_error {unit : Json} {fault : Fault} (h : readUnit unit = .error fault)
    (quantity : Json) : (asset unit quantity).gain? = none := by
  rw [gain?, read, h]
  rfl

theorem gains_unitEntry (e : Json.Str × Json) :
    (unitEntry e).gains = [(Credit.asset (.str e.1) e.2).gain?] := by
  rw [Credit.gain?_asset rfl, unitEntry]
  split
  · next h =>
    -- both texts stand for lovelace
    have hada : Token.ofUnit e.1.string = .ada := by
      rcases h with h | h <;> rw [h] <;> rfl
    rw [hada, Entry.gains]
  · rw [Entry.gains]

/-- The unit of an item is read, or stands for lovelace, or keeps the record from being read. -/
theorem gains_itemEntry (item : Json.Fields) :
    (itemEntry (.obj item)).gains =
      [(Credit.asset (Json.field item "unit")
        ((Json.field? item "quantity").getD (.int 0))).gain?] := by
  rw [itemEntry]
  split
  · next unit hunit =>
    rw [hunit]
    exact gains_unitEntry (unit, _)
  · next htext =>
    -- what is no text is foreign unless it counts as false
    generalize Json.field item "unit" = v at htext
    split
    · next htruthy =>
      have hread : readUnit v = .error .unitNotText := by
        rw [readUnit_eq_error_iff]
        exact ⟨by simpa [NamesUnit, htruthy] using htext, rfl⟩
      rw [Credit.gain?_asset_of_error hread, Entry.gains]
    · next hfalsy =>
      have hread : readUnit v = .ok .ada := by
        unfold readUnit
        split
        · next s => exact absurd rfl (htext s)
        · exact if_neg hfalsy
      rw [Credit.gain?_asset hread, Entry.gains]

/-- Fields that give one thing each. -/
theorem map_fields {credit : Json.Str × Json → Credit} {entry : Json.Str × Json → Entry}
    (h : ∀ e, (entry e).gains = [(credit e).gain?]) (fields : Json.Fields) :
    (fields.map credit).map Credit.gain? = (fields.map entry).flatMap Entry.gains := by
  induction fields with
  | nil => rfl
  | cons e rest ih =>
    simp only [List.map_cons, List.flatMap_cons]
    rw [h, ih]
    rfl

/-- Fields that are passed over. -/
theorem flatMap_obscure (fields : Json.Fields) :
    (fields.map fun e => Entry.obscure e.2).flatMap Entry.gains = [] := by
  rw [List.flatMap_map]
  exact List.flatMap_eq_nil_iff.mpr fun _ _ => rfl

theorem map_entryCredits (items : List Json) :
    (entryCredits items).map Credit.gain? = (items.map itemEntry).flatMap Entry.gains := by
  induction items with
  | nil => rfl
  | cons item rest ih =>
    rw [List.map_cons, List.flatMap_cons, ← ih]
    cases item with
    | obj item =>
      rw [gains_itemEntry]
      rfl
    | _ => rfl

theorem map_amountCredits (amount : Json) :
    (amountCredits amount).map Credit.gain? = (amountEntries amount).flatMap Entry.gains := by
  cases amount with
  | arr items => exact map_entryCredits items
  | null => rfl
  | _ => exact congrArg (fun gain => [gain]) (Credit.gain?_coin _)

theorem map_assetsCredits (assets : Json) :
    (assetsCredits assets).map Credit.gain? =
      (mapEntries .foreign assets).flatMap Entry.gains := by
  cases assets with
  | obj fields => exact map_fields gains_unitEntry fields
  | _ =>
    simp only [assetsCredits, mapEntries]
    split <;> rfl

theorem map_mapCredits (assets : Json) :
    (mapCredits assets).map Credit.gain? = (mapEntries .obscure assets).flatMap Entry.gains := by
  cases assets with
  | obj fields => exact map_fields gains_unitEntry fields
  | _ =>
    simp only [mapCredits, mapEntries]
    split <;> rfl

theorem map_policyCredits (fields : Json.Fields) :
    (policyCredits fields).map Credit.gain? =
      (fields.flatMap fun e => fieldEntries e.1 e.2).flatMap Entry.gains := by
  induction fields with
  | nil => rfl
  | cons e rest ih =>
    obtain ⟨name, v⟩ := e
    rw [List.flatMap_cons, List.flatMap_append, ← ih]
    cases v with
    | obj names =>
      rw [policyCredits, List.map_append, fieldEntries]
      congr 1
      by_cases hada : name = .plain "ada"
      · rw [if_pos hada, if_pos hada, List.flatMap_cons, flatMap_obscure, List.append_nil]
        exact congrArg (fun gain => [gain]) (Credit.gain?_coin _)
      · rw [if_neg hada, if_neg hada]
        by_cases hassets : name = .plain "assets"
        · -- the units are taken for names of the policy `assets`
          subst hassets
          refine map_fields (fun e => ?_) names
          rw [Credit.gain?_asset rfl]
          rfl
        · rw [if_neg hassets]
          exact map_fields
            (fun e => gains_unitEntry (.plain (name.string ++ "." ++ e.1.string), e.2)) names
    | _ =>
      simp only [policyCredits, fieldEntries]
      split <;> rfl

theorem map_valueCredits (value : Json) :
    (valueCredits value).map Credit.gain? = (valueEntries value).flatMap Entry.gains := by
  cases value with
  | obj fields =>
    rw [valueCredits, valueEntries]
    cases Json.field? fields "coins" with
    | some coins =>
      dsimp only
      rw [List.flatMap_append, flatMap_obscure, List.append_nil, List.map_cons, List.flatMap_cons,
        map_assetsCredits, Credit.gain?_coin]
      rfl
    | none => exact map_policyCredits fields
  | null => rfl
  | _ => exact congrArg (fun gain => [gain]) (Credit.gain?_coin _)

/-- Whatever is credited comes from one entry, in the order of the entries. -/
theorem map_gain?_credits (record : Json.Fields) :
    (credits record).map Credit.gain? = (entries record).flatMap Entry.gains := by
  simp only [credits, entries, List.map_append, List.flatMap_append, map_amountCredits,
    map_valueCredits, map_mapCredits]

theorem Credit.gain?_eq_some_iff {credit : Credit} {gain : Token × Int} :
    credit.gain? = some gain ↔ credit.read = .ok gain := by
  rw [gain?]
  cases credit.read <;> simp [Except.toOption]

/-- The gains of a record are what its entries give, if all of them can be read. -/
theorem mapM_read_eq_ok_iff {record : Json.Fields} {gains : List (Token × Int)} :
    (credits record).mapM Credit.read = .ok gains ↔
      (entries record).flatMap Entry.gains = gains.map some := by
  rw [Traversal.mapM_eq_ok_iff, ← map_gain?_credits, ← List.forall₂_eq_eq_eq,
    List.forall₂_map_left_iff, List.forall₂_map_right_iff]
  simp only [Credit.gain?_eq_some_iff]

theorem Entry.passes_iff {e : Entry} : e.Passes ↔ ∀ gain ∈ e.gains, gain.isSome = true := by
  have hshare : ∀ (t : Token) (quantity : Json),
      (share? t quantity).isSome = true ↔ ∃ n, Quantity.read quantity = .ok n := by
    intro t quantity
    rw [share?]
    cases Quantity.read quantity <;> simp [Except.toOption]
  cases e <;> simp [Passes, gains, hshare]

/-- A record has a value exactly if none of its entries keeps it from being read. -/
theorem ofRecord_isOk_iff {record : Json.Fields} :
    (∃ value, ofRecord record = .ok value) ↔ ∀ e ∈ entries record, e.Passes := by
  have hread : (∃ value, ofRecord record = .ok value) ↔
      ∃ gains, (credits record).mapM Credit.read = .ok gains := by
    simp [ofRecord_eq_ok_iff]
  have hcredits : (∀ credit ∈ credits record, ∃ gain, credit.read = .ok gain) ↔
      ∀ gain ∈ (entries record).flatMap Entry.gains, gain.isSome = true := by
    simp [← map_gain?_credits, Option.isSome_iff_exists, Credit.gain?_eq_some_iff]
  rw [hread, Traversal.mapM_isOk_iff, hcredits]
  simp only [Entry.passes_iff, List.forall_mem_flatMap]

/-! ### Gains added up -/

/-- The quantity of the token among gains. -/
def gainOf (t : Token) (gains : List (Token × Int)) : Int :=
  (gains.map fun gain => if gain.1 = t then gain.2 else 0).sum

theorem lovelace_gained (value : Value) (gains : List (Token × Int)) :
    (value.gained gains).lovelace = value.lovelace + gainOf .ada gains := by
  induction gains generalizing value with
  | nil => exact (Int.add_zero _).symm
  | cons gain rest ih =>
    have hfirst : (value.credit gain.1 gain.2).lovelace =
        value.lovelace + if gain.1 = .ada then gain.2 else 0 := by
      rw [credit]
      by_cases hada : gain.1 = .ada
      · rw [if_pos (Token.isAda_iff.mpr hada), if_pos hada]
      · rw [if_neg (mt Token.isAda_iff.mp hada), if_neg hada, Int.add_zero]
    show ((value.credit gain.1 gain.2).gained rest).lovelace = _
    rw [ih, hfirst, Int.add_assoc, gainOf, gainOf, List.map_cons, List.sum_cons]

theorem quantity_credit {value : Value} {t token : Token} (ht : t.Plain) (hada : t ≠ .ada)
    (hplain : token.Plain) (n : Int) :
    (value.credit token n).assets.quantity t.unit =
      value.assets.quantity t.unit + if token = t then n else 0 := by
  rw [credit]
  by_cases htoken : token = .ada
  · have hne : token ≠ t := by
      rintro rfl
      exact hada htoken
    rw [if_pos (Token.isAda_iff.mpr htoken), if_neg hne, Int.add_zero]
  · rw [if_neg (mt Token.isAda_iff.mp htoken)]
    show Entries.quantity t.unit (value.assets.put token.unit _) = _
    rw [Entries.quantity_put]
    -- tokens are told apart by their units
    by_cases heq : token = t
    · rw [if_pos (congrArg Token.unit heq), if_pos heq, heq]
      rfl
    · rw [if_neg fun hunit => heq (Token.unit_injective hplain ht hunit), if_neg heq, Int.add_zero]

theorem quantity_gained {value : Value} {gains : List (Token × Int)} {t : Token} (ht : t.Plain)
    (hada : t ≠ .ada) (hplain : ∀ gain ∈ gains, gain.1.Plain) :
    (value.gained gains).assets.quantity t.unit =
      value.assets.quantity t.unit + gainOf t gains := by
  induction gains generalizing value with
  | nil => exact (Int.add_zero _).symm
  | cons gain rest ih =>
    obtain ⟨hgain, hrest⟩ := List.forall_mem_cons.mp hplain
    show ((value.credit gain.1 gain.2).gained rest).assets.quantity t.unit = _
    rw [ih hrest, quantity_credit ht hada hgain, Int.add_assoc, gainOf, gainOf, List.map_cons,
      List.sum_cons]

theorem mem_keys_credit {value : Value} {token : Token} {n : Int} {unit : String} :
    unit ∈ Entries.keys (value.credit token n).assets ↔
      unit ∈ Entries.keys value.assets ∨ token ≠ .ada ∧ token.unit = unit := by
  rw [credit]
  by_cases htoken : token = .ada
  · rw [if_pos (Token.isAda_iff.mpr htoken)]
    simp [htoken]
  · rw [if_neg (mt Token.isAda_iff.mp htoken), Entries.mem_keys_put]
    simp [htoken, or_comm, eq_comm]

theorem mem_keys_gained {value : Value} {gains : List (Token × Int)} {unit : String} :
    unit ∈ Entries.keys (value.gained gains).assets ↔
      unit ∈ Entries.keys value.assets ∨ ∃ gain ∈ gains, gain.1 ≠ .ada ∧ gain.1.unit = unit := by
  induction gains generalizing value with
  | nil => simp [gained]
  | cons gain rest ih =>
    show unit ∈ Entries.keys ((value.credit gain.1 gain.2).gained rest).assets ↔ _
    rw [ih, mem_keys_credit, List.exists_mem_cons_iff, or_assoc]

/-! ### Entries added up -/

/-- The gains of a token come to what the entries give of it, as they are taken. -/
theorem gainOf_eq_sum {entries : List Entry} {gains : List (Token × Int)}
    (h : entries.flatMap Entry.gains = gains.map some) (t : Token) :
    gainOf t gains = ((entries.map Entry.asTaken).map (Entry.amountFor t)).sum := by
  -- what one entry gives of the token, and zero if it gives nothing
  let part : Option (Token × Int) → Int := fun gain? =>
    gain?.elim 0 fun gain => if gain.1 = t then gain.2 else 0
  have hshare : ∀ (token : Token) (quantity : Json), part (share? token quantity) =
      if token = t then Quantity.amountOf quantity else 0 := by
    intro token quantity
    rw [share?, Quantity.amountOf]
    cases Quantity.read quantity <;> simp [part, Except.toOption]
  have hentry : ∀ e : Entry, (e.gains.map part).sum = e.asTaken.amountFor t := by
    intro e
    cases e with
    | named | nameless | uncounted =>
      simp only [Entry.gains, List.map_singleton, List.sum_singleton, hshare]
      rfl
    | foreign | obscure => rfl
  calc gainOf t gains = ((gains.map some).map part).sum := by
        rw [List.map_map]
        rfl
    _ = (entries.map fun e => (e.gains.map part).sum).sum := by
        rw [← h, List.map_flatMap, List.flatMap, List.sum_flatten, List.map_map]
        rfl
    _ = ((entries.map Entry.asTaken).map (Entry.amountFor t)).sum := by
        rw [List.map_map]
        exact congrArg List.sum (List.map_congr_left fun e _ => hentry e)

/-- An entry that does not keep the record from being read gives something of the token that it
names, as it is taken, and of no other. -/
theorem Entry.token?_asTaken_iff {e : Entry} (h : e.Passes) {t : Token} :
    e.asTaken.token? = some t ↔ ∃ gain, some gain ∈ e.gains ∧ gain.1 = t := by
  have hshare : ∀ {token : Token} {quantity : Json}, (∃ n, Quantity.read quantity = .ok n) →
      (token = t ↔ ∃ gain, some gain = share? token quantity ∧ gain.1 = t) := by
    rintro token quantity ⟨n, hn⟩
    rw [share?, hn]
    simp [Except.toOption]
  cases e with
  | named | uncounted =>
    simp only [asTaken, token?, gains, List.mem_singleton, Option.some.injEq, ← hshare h]
  | nameless =>
    simp only [asTaken, token?, gains, List.mem_singleton, Option.some.injEq, ← hshare h]
    rfl
  | foreign | obscure => simp [asTaken, token?, gains]

/-- The tokens of the gains are those that the entries name, as they are taken. -/
theorem exists_gain_iff {entries : List Entry} {gains : List (Token × Int)}
    (h : entries.flatMap Entry.gains = gains.map some) (hpasses : ∀ e ∈ entries, e.Passes)
    (t : Token) :
    (∃ gain ∈ gains, gain.1 = t) ↔ ∃ e ∈ entries.map Entry.asTaken, e.token? = some t := by
  have hmem : ∀ gain, gain ∈ gains ↔ ∃ e ∈ entries, some gain ∈ e.gains := by
    intro gain
    rw [← List.mem_flatMap, h, List.mem_map_of_injective (Option.some_injective _)]
  simp only [hmem, List.mem_map]
  constructor
  · rintro ⟨gain, ⟨e, he, hgain⟩, ht⟩
    exact ⟨_, ⟨e, he, rfl⟩, (Entry.token?_asTaken_iff (hpasses e he)).mpr ⟨gain, hgain, ht⟩⟩
  · rintro ⟨_, ⟨e, he, rfl⟩, htoken⟩
    obtain ⟨gain, hgain, ht⟩ := (Entry.token?_asTaken_iff (hpasses e he)).mp htoken
    exact ⟨gain, ⟨e, he, hgain⟩, ht⟩

/-- What a record that is read gives of a token is added up under the unit of the token. -/
theorem quantity_of_ofRecord {record : Json.Fields} {value : Value}
    (h : ofRecord record = .ok value) {t : Token} (ht : t.Plain) (hada : t ≠ .ada) :
    value.assets.quantity t.unit =
      (((entries record).map Entry.asTaken).map (Entry.amountFor t)).sum := by
  obtain ⟨gains, hread, rfl⟩ := ofRecord_eq_ok_iff.mp h
  rw [quantity_gained ht hada (plain_of_mem_gains hread),
    gainOf_eq_sum (mapM_read_eq_ok_iff.mp hread)]
  exact Int.zero_add _

end Value

namespace Utxo

open Value (Entry)

/-! ### Outputs of records -/

/-- Every entry is credited once, to the unit that it names, and nothing else is. -/
structure Credits (entries : List Entry) (u : Utxo) : Prop where
  lovelace : u.lovelace = (entries.map (Entry.amountFor .ada)).sum
  quantities : ∀ t : Token, t.Plain → t ≠ .ada →
    u.assets.quantity t.unit = (entries.map (Entry.amountFor t)).sum
  distinct : (Entries.keys u.assets).Nodup
  units : ∀ unit, unit ∈ Entries.keys u.assets ↔
    ∃ t : Token, t ≠ .ada ∧ t.unit = unit ∧ ∃ e ∈ entries, e.token? = some t

/-- Every entry of the record is credited once, to the unit that it names; if there is one that is
not understood, the record is refused for its form. -/
def Accounted (record : Json.Fields) : Prop :=
  (∀ u, ofFields record = .ok u → Credits (Value.entries record) u) ∧
    ((∃ e ∈ Value.entries record, ¬ e.Understood) →
      ∃ fault, ofFields record = .error fault ∧ fault.message?.isSome = true)

/-- The value of a record that is read is the sum of its entries as they are taken. -/
theorem credits_of_ofFields {record : Json.Fields} {u : Utxo} (h : ofFields record = .ok u) :
    Credits ((Value.entries record).map Entry.asTaken) u := by
  obtain ⟨-, value, hvalue, index, -, rfl⟩ := ofFields_eq_ok_iff.mp h
  have hquantities : ∀ t : Token, t.Plain → t ≠ .ada → _ :=
    fun _ ht hada => Value.quantity_of_ofRecord hvalue ht hada
  obtain ⟨gains, hread, rfl⟩ := Value.ofRecord_eq_ok_iff.mp hvalue
  have hentries := Value.mapM_read_eq_ok_iff.mp hread
  have hpasses := Value.ofRecord_isOk_iff.mp ⟨_, hvalue⟩
  constructor
  · show (Value.zero.gained gains).lovelace = _
    rw [Value.lovelace_gained, Value.gainOf_eq_sum hentries]
    exact Int.zero_add _
  · exact hquantities
  · exact (Value.canonical_of_ofRecord hvalue).nodup
  · intro unit
    show unit ∈ Entries.keys (Value.zero.gained gains).assets ↔ _
    simp only [Value.mem_keys_gained, ← Value.exists_gain_iff hentries hpasses]
    have hnone : unit ∉ Entries.keys Value.zero.assets := List.not_mem_nil
    constructor
    · rintro (hunit | ⟨gain, hgain, hada, hunit⟩)
      · exact absurd hunit hnone
      · exact ⟨gain.1, hada, hunit, gain, hgain, rfl⟩
    · rintro ⟨_, hada, hunit, gain, hgain, rfl⟩
      exact Or.inr ⟨gain, hgain, hada, hunit⟩

theorem asTaken_of_understood {entries : List Entry} (h : ∀ e ∈ entries, e.Understood) :
    entries.map Entry.asTaken = entries := by
  have hentry : ∀ e ∈ entries, e.asTaken = e := by
    intro e he
    have hunderstood := h e he
    cases e with
    | named => rfl
    | _ => exact hunderstood.elim
  rw [List.map_congr_left hentry, List.map_id']

/-- A record is read exactly if it says which output it is and none of its entries keeps it from
being read. -/
theorem ofFields_isOk_iff {record : Json.Fields} :
    (∃ u, ofFields record = .ok u) ↔
      HasReference record ∧ (∃ n, Quantity.read (indexField record) = .ok n) ∧
        ∀ e ∈ Value.entries record, e.Passes := by
  simp only [ofFields_eq_ok_iff, ← Value.ofRecord_isOk_iff]
  constructor
  · rintro ⟨u, href, value, hvalue, n, hn, -⟩
    exact ⟨href, ⟨n, hn⟩, value, hvalue⟩
  · rintro ⟨href, ⟨n, hn⟩, value, hvalue⟩
    exact ⟨_, href, value, hvalue, n, hn, rfl⟩

/-- A record is refused for its form exactly if it is neither read nor foreign. -/
theorem refused_iff {record : Json.Fields} :
    (∃ fault, ofFields record = .error fault ∧ fault.message?.isSome = true) ↔
      (∀ u, ofFields record ≠ .ok u) ∧ ¬ Foreign record := by
  rw [← ofFields_unworded_iff]
  cases ofFields record with
  | ok u => simp
  | error fault => simp [Option.isSome_iff_ne_none]

/-- A record is read if it says which output it is and none of its entries keeps it from being read,
and its value is then the sum of the entries as they are taken.  All entries are accounted for if
they are all understood, or if the record is neither read nor foreign, and not otherwise. -/
theorem accounted_iff (record : Json.Fields) :
    ((∃ u, ofFields record = .ok u) ↔
      HasReference record ∧ (∃ n, Quantity.read (indexField record) = .ok n) ∧
        ∀ e ∈ Value.entries record, e.Passes) ∧
    (∀ u, ofFields record = .ok u → Credits ((Value.entries record).map Entry.asTaken) u) ∧
    (Accounted record ↔
      (∀ e ∈ Value.entries record, e.Understood) ∨
        (∀ u, ofFields record ≠ .ok u) ∧ ¬ Foreign record) := by
  refine ⟨ofFields_isOk_iff, fun u => credits_of_ofFields, ?_⟩
  rw [Accounted, refused_iff]
  constructor
  · rintro ⟨-, hrefused⟩
    by_cases hall : ∀ e ∈ Value.entries record, e.Understood
    · exact Or.inl hall
    · exact Or.inr (hrefused (by simpa using hall))
  · rintro (hall | hrefused)
    · refine ⟨fun u hu => ?_, fun ⟨e, he, hnot⟩ => absurd (hall e he) hnot⟩
      have hcredits := credits_of_ofFields hu
      rwa [asTaken_of_understood hall] at hcredits
    · exact ⟨fun u hu => absurd hu (hrefused.1 u), fun _ => hrefused⟩

/-- A record with five ADA under a name that is no policy. -/
def misnamed : Json.Fields :=
  [("tx_hash", .str "aa"), ("output_index", .int 0), ("value", .obj [("lovelace", .int 5000000)])]

/-- The record is read as an output of no value at all. -/
theorem misnamed_not_accounted :
    (∃ u, ofFields misnamed = .ok u ∧ u.lovelace = 0 ∧ u.assets = []) ∧ ¬ Accounted misnamed := by
  refine ⟨⟨_, rfl, rfl, rfl⟩, ?_⟩
  rintro ⟨-, hrefused⟩
  obtain ⟨fault, hfault, -⟩ := hrefused ⟨.obscure (.int 5000000), List.mem_singleton_self _, id⟩
  cases hfault

end Utxo

end TxDraft
