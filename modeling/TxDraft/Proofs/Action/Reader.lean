import Mathlib.Tactic.SplitIfs
import TxDraft.Action.Part
import TxDraft.Proofs.Action.Grammar
import TxDraft.Proofs.Entries
import TxDraft.Proofs.Form

/-!
# The languages of the readers

Every reader of a part of an action succeeds on exactly one language of values (`Reads`): words on
the words of a shape, amounts on the quantities in a range, maps of assets on the maps whose keys
and quantities are fine, and so on.  A reader of a field inherits its language from the readers that
it is made of.
-/

namespace TxDraft.Part

open Grammar

variable {α : Type}

/-- The values that a reader reads without problems. -/
def Reads (read : Reader α) (language : Language) : Prop :=
  ∀ v, (∃ a, read v = .ok a) ↔ language v

theorem nullable_eq_ok_iff {read : Reader α} {v : Json} {a : Option α} :
    nullable read v = .ok a ↔
      v = .null ∧ none = a ∨ v ≠ .null ∧ ∃ b, read v = .ok b ∧ some b = a := by
  cases v <;> simp [nullable]

theorem Reads.nullable {read : Reader α} {language : Language} (h : Reads read language) :
    Reads (nullable read) fun v => v = .null ∨ language v := by
  intro v
  simp only [nullable_eq_ok_iff, ← h v]
  by_cases hv : v = .null
  · simp [hv]
  · simp only [hv, false_and, false_or, ne_eq, not_false_eq_true, true_and]
    constructor
    · rintro ⟨-, b, hb, -⟩
      exact ⟨b, hb⟩
    · rintro ⟨b, hb⟩
      exact ⟨some b, b, hb, rfl⟩

/-! ### Words and choices -/

theorem word_eq_ok_iff {read : Lexicon.Reader} {v : Json} {w : String} :
    word read v = .ok w ↔ ∃ s : Json.Str, v = .str s ∧ read s.string = .ok w := by
  cases v with
  | str s => cases h : read s.string <;> simp [word, h]
  | _ => simp [word]

/-- A reader of words that keeps the normal forms of a shape. -/
theorem reads_word {read : Lexicon.Reader} {shape : List Char → Prop}
    (hascii : Lexicon.Ascii shape)
    (h : ∀ s w, read s = .ok w ↔ w = Lexicon.normal s ∧ shape w.toList) :
    Reads (word read) (Word shape) := by
  intro v
  simp only [word_eq_ok_iff, h, Word, ← Lexicon.toList_normal]
  constructor
  · rintro ⟨w, s, hv, rfl, hw⟩
    exact ⟨s.string, Lexicon.eq_plain_of_normal (hascii _ hw) ▸ hv, hw⟩
  · rintro ⟨s, hv, hs⟩
    exact ⟨Lexicon.normal s, s, hv, rfl, hs⟩

theorem reads_shaped {accepts : List Char → Bool} {shape : List Char → Prop}
    (hascii : Lexicon.Ascii shape) (h : ∀ cs, accepts cs = true ↔ shape cs)
    (complaint : Complaint) : Reads (word (Lexicon.shaped accepts complaint)) (Word shape) := by
  apply reads_word hascii
  intro s w
  rw [Lexicon.shaped_eq_ok_iff, h]

theorem reads_address (kind : AddressKind) (network : Option Network) :
    Reads (word (Lexicon.address kind network)) (Word (Lexicon.Address kind network)) :=
  reads_word (Lexicon.ascii_address kind network) fun _ _ => Lexicon.address_eq_ok_iff

theorem reads_shortHash : Reads (word Lexicon.shortHash) (Word (Lexicon.HexHash 56)) :=
  reads_shaped (Lexicon.ascii_hexHash 56) (Lexicon.isHexOf_iff 56) _

theorem reads_longHash : Reads (word Lexicon.longHash) (Word (Lexicon.HexHash 64)) :=
  reads_shaped (Lexicon.ascii_hexHash 64) (Lexicon.isHexOf_iff 64) _

theorem reads_hexData : Reads (word Lexicon.hexData) (Word Lexicon.HexData) :=
  reads_shaped Lexicon.ascii_hexData Lexicon.isHexData_iff _

theorem reads_assetId : Reads (word Lexicon.assetId) (Word Lexicon.AssetId) :=
  reads_shaped Lexicon.ascii_assetId Lexicon.isAssetId_iff _

theorem reads_assetName : Reads (word Lexicon.assetName) (Word Lexicon.AssetName) :=
  reads_shaped Lexicon.ascii_assetName Lexicon.isAssetName_iff _

theorem choice_eq_ok_iff {choices : List α} {name : α → String} {v : Json} {a : α} :
    choice choices name v = .ok a ↔
      ∃ s, v = .str s ∧ choices.find? (fun a => .plain (name a) = s) = some a := by
  unfold choice
  cases v with
  | str s => cases h : choices.find? (fun a => .plain (name a) = s) <;> simp [h]
  | _ => simp

theorem reads_choice (choices : List α) (name : α → String) :
    Reads (choice choices name) (OneOf (choices.map name)) := by
  intro v
  simp only [choice_eq_ok_iff, OneOf, List.mem_map]
  constructor
  · rintro ⟨a, s, hv, hfind⟩
    have hname : Json.Str.plain (name a) = s := by simpa using List.find?_some hfind
    exact ⟨name a, ⟨a, List.mem_of_find?_eq_some hfind, rfl⟩, hname ▸ hv⟩
  · rintro ⟨s, ⟨a, ha, rfl⟩, hv⟩
    obtain ⟨b, hb⟩ : ∃ b,
        choices.find? (fun b => Json.Str.plain (name b) = .plain (name a)) = some b :=
      Option.isSome_iff_exists.mp (List.find?_isSome.mpr ⟨a, ha, by simp⟩)
    exact ⟨b, _, hv, hb⟩

/-! ### Numbers -/

theorem amount_eq_ok_iff {passes : Int → Option Complaint} {v : Json} {n : Int} :
    amount passes v = .ok n ↔ Quantity.read v = .ok n ∧ passes n = none := by
  unfold amount
  cases Quantity.read v with
  | error fault => simp
  | ok m =>
    dsimp only
    split
    · next complaint hm =>
      simp only [Checked.complain_ne_ok, Except.ok.injEq, false_iff, not_and]
      rintro rfl
      simp [hm]
    · next hm =>
      simp only [Except.ok.injEq]
      constructor
      · rintro rfl
        exact ⟨rfl, hm⟩
      · exact And.left

theorem reads_amount {passes : Int → Option Complaint} {holds : Int → Prop}
    (h : ∀ n, passes n = none ↔ holds n) : Reads (amount passes) (Amount holds) := by
  intro v
  simp only [amount_eq_ok_iff, h, Amount]

theorem reads_positive : Reads positive (Amount (0 < ·)) :=
  reads_amount fun n => by simp

theorem reads_natural : Reads natural (Amount (0 ≤ ·)) :=
  reads_amount fun n => by simp

theorem reads_label : Reads label (Amount fun n => 0 ≤ n ∧ n ≤ 2 ^ 64 - 1) :=
  reads_amount fun n => by
    have hbound : (Complaint.labelBound : Int) = 2 ^ 64 - 1 := by decide
    rw [hbound]
    split_ifs <;> simp <;> omega

theorem number_eq_ok_iff {v : Json} {x : Binary64} : number v = .ok x ↔ Denotes v x := by
  constructor
  · intro h
    cases v with
    | float y =>
      obtain rfl : y = x := by simpa [number] using h
      exact .float y
    | int n =>
      cases hn : Binary64.ofInt? n with
      | some y =>
        obtain rfl : y = x := by simpa [number, hn] using h
        exact .int hn
      | none => simp [number, hn] at h
    | bool b =>
      obtain rfl : Binary64.ofRatio false b.toNat 1 = x := by simpa [number] using h
      exact .bool b
    | str s =>
      cases s with
      | plain s =>
        cases hs : Binary64.readNumber? Text.asciiDigitValue? s with
        | some y =>
          obtain rfl : y = x := by simpa [number, hs] using h
          exact .text hs
        | none => simp [number, hs] at h
      | stray => simp [number] at h
    | _ => simp [number] at h
  · rintro (x | hn | b | hs)
    · rfl
    · simp [number, hn]
    · rfl
    · simp [number, hs]

theorem reads_factor : Reads factor Factor := by
  intro v
  simp only [Factor, ← number_eq_ok_iff, factor]
  cases number v with
  | error problems => simp
  | ok x => cases hx : x.atLeastOne <;> simp [hx]

/-! ### Metadata and records -/

theorem reads_metadata : Reads metadata Metadatum.WellFormed := by
  intro v
  rw [← Metadatum.fault?_eq_none_iff "metadata" v, metadata]
  cases Metadatum.fault? "metadata" v <;> simp

theorem record_eq_ok_iff {v : Json} {fields : Json.Fields} :
    record v = .ok fields ↔ v = .obj fields := by
  cases v <;> simp [record]

theorem reads_record : Reads record Record := fun v => by
  simp only [record_eq_ok_iff, Record]

/-! ### Maps of assets -/

theorem entry_eq_ok_iff {read : Lexicon.Reader} {e : Json.Str × Json} {key : String} {n : Int} :
    entry read e = .ok (key, n) ↔ word read (.str e.1) = .ok key ∧ positive e.2 = .ok n := by
  simp only [entry, Checked.inside_eq_ok_iff, Checked.both_eq_ok_iff, Traversal.map_eq_ok_iff]
  constructor
  · rintro ⟨_, _, ⟨_, hkey, rfl⟩, hn, h⟩
    obtain ⟨rfl, rfl⟩ := Prod.mk.inj h
    exact ⟨hkey, hn⟩
  · rintro ⟨hkey, hn⟩
    exact ⟨_, n, ⟨key, hkey, rfl⟩, hn, rfl⟩

theorem entries_isOk_iff (read : Lexicon.Reader) (fields : Json.Fields) :
    (∃ pairs, entries read fields = .ok pairs) ↔
      ∀ e ∈ fields, (∃ key, word read (.str e.1) = .ok key) ∧ ∃ n, positive e.2 = .ok n := by
  induction fields with
  | nil => simp [entries]
  | cons e rest ih =>
    simp only [List.forall_mem_cons, ← ih, entries, Checked.both_eq_ok_iff, Traversal.map_eq_ok_iff]
    constructor
    · rintro ⟨_, _, rest, ⟨⟨key, n⟩, he, -⟩, hrest, -⟩
      rw [entry_eq_ok_iff] at he
      exact ⟨⟨⟨key, he.1⟩, n, he.2⟩, rest, hrest⟩
    · rintro ⟨⟨⟨key, hkey⟩, n, hn⟩, rest, hrest⟩
      exact ⟨_, _, rest, ⟨(key, n), entry_eq_ok_iff.mpr ⟨hkey, hn⟩, rfl⟩, hrest, rfl⟩

theorem reads_assets {read : Lexicon.Reader} {shape : List Char → Prop}
    (h : Reads (word read) (Word shape)) : Reads (assets read) (AssetMap shape) := by
  intro v
  cases v with
  | obj fields =>
    have hentries := entries_isOk_iff read fields
    simp only [h _, reads_positive _] at hentries
    simp only [assets, Traversal.map_eq_ok_iff, AssetMap, Json.obj.injEq]
    constructor
    · rintro ⟨-, pairs, hpairs, -⟩
      exact ⟨fields, rfl, hentries.mp ⟨pairs, hpairs⟩⟩
    · rintro ⟨_, rfl, hall⟩
      obtain ⟨pairs, hpairs⟩ := hentries.mpr hall
      exact ⟨_, pairs, hpairs, rfl⟩
  | _ => simp [assets, AssetMap]

/-- A map of assets is empty only if the object is, since no entry is lost altogether. -/
theorem assets_eq_ok_nil_iff (read : Lexicon.Reader) {v : Json} :
    assets read v = .ok [] ↔ v = .obj [] := by
  cases v with
  | obj fields =>
    -- two keys may have one normal form, but the map that is left has an entry for it
    cases fields with
    | nil => simp [assets, entries, Entries.ofPairs]
    | cons e rest =>
      simp only [assets, Traversal.map_eq_ok_iff, Json.obj.injEq, reduceCtorEq, iff_false]
      rintro ⟨pairs, hpairs, hnil⟩
      rw [Entries.ofPairs_eq_nil_iff] at hnil
      subst hnil
      simp only [entries, Checked.both_eq_ok_iff, Traversal.map_eq_ok_iff] at hpairs
      obtain ⟨_, rest, ⟨pair, -, rfl⟩, -, h⟩ := hpairs
      cases h
  | _ => simp [assets]

theorem someAssets_eq_ok_iff {read : Lexicon.Reader} {v : Json} {a : Entries String Int} :
    someAssets read v = .ok a ↔ assets read v = .ok a ∧ a ≠ [] := by
  unfold someAssets
  split
  · next hempty =>
    rw [hempty]
    constructor
    · intro h
      exact absurd h Checked.complain_ne_ok
    · rintro ⟨h, hne⟩
      exact absurd (Except.ok.inj h).symm hne
  · next hsome =>
    constructor
    · rintro h
      refine ⟨h, ?_⟩
      rintro rfl
      exact hsome h
    · exact And.left

theorem reads_someAssets {read : Lexicon.Reader} {shape : List Char → Prop}
    (h : Reads (word read) (Word shape)) : Reads (someAssets read) (SomeAssets shape) := by
  intro v
  rw [SomeAssets, ← reads_assets h v, ne_eq, ← assets_eq_ok_nil_iff read, someAssets]
  cases assets read v with
  | error problems => simp
  | ok a => cases a <;> simp

end TxDraft.Part
