import Mathlib.Algebra.Order.BigOperators.Group.List
import TxDraft.Proofs.Action.Minting

/-!
# Maps of assets in actions

The keys of a map of assets are brought to normal form, and several keys as they were written may
have one normal form.  Of their quantities the last one counts (`KeepsLast`); since all of them are
above zero, it is their sum exactly if there is no other (`Entries.sums_ofPairs_iff`).  So the maps
that an action hands to a builder have the quantities that were written exactly if no two keys of
one map have the same normal form (`assetMaps_of_validate`).
-/

namespace TxDraft

/-! ### Pairs with a key in common -/

namespace Entries

variable {κ ν : Type} [DecidableEq κ]

/-- All values that pairs give for a key, in order. -/
def under (k : κ) (pairs : List (κ × ν)) : List ν :=
  (pairs.filter fun e => e.1 = k).map Prod.snd

theorem lastUnder_eq_getLast? (k : κ) (pairs : List (κ × ν)) :
    lastUnder k pairs = (under k pairs).getLast? := by
  rw [lastUnder, under, List.getLast?_map]

theorem length_under (k : κ) (pairs : List (κ × ν)) :
    (under k pairs).length = (keys pairs).count k := by
  induction pairs with
  | nil => rfl
  | cons e rest ih =>
    rw [keys_cons, List.count_cons, ← ih, under, under, List.filter_cons]
    by_cases h : e.1 = k <;> simp [h]

theorem mem_of_mem_under {k : κ} {v : ν} {pairs : List (κ × ν)} (h : v ∈ under k pairs) :
    (k, v) ∈ pairs := by
  obtain ⟨e, he, rfl⟩ := List.mem_map.mp h
  obtain ⟨hmem, hkey⟩ := List.mem_filter.mp he
  obtain rfl : e.1 = k := of_decide_eq_true hkey
  exact hmem

/-- Of quantities above zero the last one is the sum exactly if it is the only one. -/
theorem sum_eq_getLast_iff {quantities : List Int} {last : Int} (hpos : ∀ n ∈ quantities, 0 < n)
    (hlast : quantities.getLast? = some last) :
    last = quantities.sum ↔ quantities.length = 1 := by
  obtain ⟨front, rfl⟩ := List.getLast?_eq_some_iff.mp hlast
  rw [List.sum_append, List.sum_singleton, List.length_append, List.length_singleton]
  cases front with
  | nil => simp
  | cons n rest =>
    have hfront : 0 < (n :: rest).sum := by
      refine List.sum_pos _ (fun m hm => ?_) (List.cons_ne_nil n rest)
      exact hpos m (List.mem_append_left _ hm)
    rw [List.length_cons]
    omega

/-- A map of pairs has the sum of their quantities under every key exactly if no key is given
twice. -/
theorem sums_ofPairs_iff {pairs : List (κ × Int)} (hpos : ∀ e ∈ pairs, 0 < e.2) :
    (∀ k n, (ofPairs pairs).get? k = some n → n = (under k pairs).sum) ↔ (keys pairs).Nodup := by
  have hunder : ∀ k, ∀ n ∈ under k pairs, 0 < n := fun k n hn => hpos _ (mem_of_mem_under hn)
  simp only [get?_ofPairs, lastUnder_eq_getLast?]
  constructor
  · intro hsums
    refine List.nodup_iff_count_le_one.mpr fun k => ?_
    rw [← length_under]
    cases hlast : (under k pairs).getLast? with
    | none => simp [List.getLast?_eq_none_iff.mp hlast]
    | some last => exact ((sum_eq_getLast_iff (hunder k) hlast).mp (hsums k last hlast)).le
  · intro hnodup k n hlast
    refine (sum_eq_getLast_iff (hunder k) hlast).mpr ?_
    have hmost : (under k pairs).length ≤ 1 := by
      rw [length_under]
      exact List.nodup_iff_count_le_one.mp hnodup k
    have hleast : 0 < (under k pairs).length := List.length_pos_of_mem (List.mem_of_getLast? hlast)
    omega

end Entries

/-! ### Maps as they were written -/

namespace Grammar

/-- What the entries of a written map say: amounts under the normal forms of their keys. -/
def amounts (written : Json.Fields) : List (String × Int) :=
  written.map fun e => (Lexicon.normal e.1.string, Quantity.amountOf e.2)

/-- The map has, under each of its keys, the sum of all amounts that were written for it. -/
def Sums (written : Json.Fields) (assets : Entries String Int) : Prop :=
  ∀ key n, assets.get? key = some n → n = (Entries.under key (amounts written)).sum

/-- The map has the keys that were written, and under each the amount written for it last. -/
def KeepsLast (written : Json.Fields) (assets : Entries String Int) : Prop :=
  ∀ key, assets.get? key = Entries.lastUnder key (amounts written)

/-- No two keys of the written map have the same normal form. -/
def Apart (written : Json.Fields) : Prop :=
  (Entries.keys (amounts written)).Nodup

/-- The value as a written map, if it is one. -/
def mapIn : Json → List Json.Fields
  | .obj written => [written]
  | _ => []

/-- The map of assets of one output of a payment to many, if it has one. -/
def mapOfOutput : Json → List Json.Fields
  | .obj fields => mapIn (value ["assets"] fields)
  | _ => []

/-- The maps of assets that are written in a document of a kind, in order. -/
def writtenMaps (fields : Json.Fields) : ActionKind → List Json.Fields
  | .payAssets | .mint | .burn => mapIn (value ["assets"] fields)
  | .payMany =>
    match value ["outputs"] fields with
    | .arr items => items.flatMap mapOfOutput
    | _ => []
  | _ => []

end Grammar

/-- The maps of assets among the arguments of a step. -/
def Step.assetMaps : Step → List (Entries String Int)
  | payAssets _ assets _ | mintAssets _ assets _ | burnAssets _ assets _ => [assets]
  | payMany outputs => outputs.flatMap fun out => out.assets.toList
  | _ => []

/-- The maps of assets that an action hands to a builder. -/
def Action.assetMaps (action : Action) : List (Entries String Int) :=
  action.steps.flatMap Step.assetMaps

/-! ### Reading maps -/

namespace Part

open Grammar

/-- The reader gives normal forms. -/
def Normalizes (read : Lexicon.Reader) : Prop :=
  ∀ s word, read s = .ok word → word = Lexicon.normal s

theorem normalizes_assetId : Normalizes Lexicon.assetId :=
  fun _ _ h => (Lexicon.shaped_eq_ok_iff.mp h).1

theorem normalizes_assetName : Normalizes Lexicon.assetName :=
  fun _ _ h => (Lexicon.shaped_eq_ok_iff.mp h).1

/-- Entries are read as what they say. -/
theorem eq_amounts_of_entries {read : Lexicon.Reader} (hread : Normalizes read)
    {written : Json.Fields} {pairs : List (String × Int)} (h : entries read written = .ok pairs) :
    pairs = amounts written := by
  induction written generalizing pairs with
  | nil =>
    cases h
    rfl
  | cons e rest ih =>
    obtain ⟨_, more, hread₁, hmore, rfl⟩ := Checked.both_eq_ok_iff.mp h
    obtain ⟨⟨key, n⟩, hentry, rfl⟩ := Traversal.map_eq_ok_iff.mp hread₁
    obtain ⟨hkey, hn⟩ := entry_eq_ok_iff.mp hentry
    obtain ⟨s, hs, hword⟩ := word_eq_ok_iff.mp hkey
    obtain rfl : e.1 = s := Json.str.inj hs
    obtain ⟨hamount, -⟩ := amount_eq_ok_iff.mp hn
    have hfirst : (key, n) = (Lexicon.normal e.1.string, Quantity.amountOf e.2) := by
      rw [hread _ _ hword, Quantity.amountOf_of_read hamount]
    rw [hfirst, ih hmore]
    rfl

/-- A map that was read keeps the last amount under every key, which is the sum exactly if the
keys are apart. -/
def Merges (written : Json.Fields) (assets : Entries String Int) : Prop :=
  KeepsLast written assets ∧ (Sums written assets ↔ Apart written)

theorem merges_of_assets {read : Lexicon.Reader} (hread : Normalizes read) {v : Json}
    {a : Entries String Int} (h : assets read v = .ok a) :
    List.Forall₂ Merges (mapIn v) [a] := by
  cases v with
  | obj written =>
    obtain ⟨pairs, hpairs, rfl⟩ := Traversal.map_eq_ok_iff.mp h
    have hpos : ∀ e ∈ pairs, 0 < e.2 := fun e he => (words_of_entries hpairs e he).2
    obtain rfl := eq_amounts_of_entries hread hpairs
    have hlast : KeepsLast written (Entries.ofPairs (amounts written)) :=
      fun key => Entries.get?_ofPairs key (amounts written)
    exact .cons ⟨hlast, Entries.sums_ofPairs_iff hpos⟩ .nil
  | _ => simp [assets] at h

end Part

/-! ### Reading actions -/

namespace Action

open Grammar TxDraft.Part

variable {fields : Json.Fields}

/-- A field that must be there is read from its value. -/
theorem read_value_of_fill {α : Type} {spellings : List String} {read : Reader α} {a : α}
    (h : (required spellings read).fill fields = .ok a) :
    read (Grammar.value spellings fields) = .ok a := by
  have hspelling : (required spellings read).spelling? fields = winner? spellings fields := rfl
  rcases Field.fill_eq_ok_iff.mp h with ⟨name, hname, hread⟩ | ⟨-, habsent⟩
  · rw [hspelling] at hname
    rw [value, value?_eq_map, hname]
    exact hread
  · cases habsent

theorem merges_of_output {network : Option Network} {item : Json} {out : PaymentOutput}
    (h : output network item = .ok out) :
    List.Forall₂ Merges (mapOfOutput item) out.assets.toList := by
  cases item with
  | obj fields =>
    have hfill := (Form.fillOnly_eq_ok_iff.mp h).1
    obtain ⟨toAddress, lovelace, a, -, -, hassets, rfl⟩ := Form.fill_three_iff.mp hfill
    rcases fill_optional_eq_ok_iff.mp hassets with ⟨hnull, rfl⟩ | ⟨-, read, hread, rfl⟩
    · show List.Forall₂ Merges (mapIn (value ["assets"] fields)) []
      rw [hnull]
      exact .nil
    · exact merges_of_assets normalizes_assetId hread
  | _ => simp [output] at h

theorem merges_of_outputItems {network : Option Network} {items : List Json}
    {outs : List PaymentOutput} {n : Nat} (h : outputItems network n items = .ok outs) :
    List.Forall₂ Merges (items.flatMap mapOfOutput)
      (outs.flatMap fun out => out.assets.toList) := by
  induction items generalizing n outs with
  | nil =>
    cases h
    exact .nil
  | cons item rest ih =>
    obtain ⟨_, more, hfirst, hmore, rfl⟩ := Checked.both_eq_ok_iff.mp h
    obtain ⟨out, hout, rfl⟩ := Traversal.map_eq_ok_iff.mp hfirst
    rw [List.flatMap_cons, List.flatMap_cons]
    exact List.rel_append (merges_of_output (Checked.inside_eq_ok_iff.mp hout)) (ih hmore)

theorem assetMaps_eq_nil {action : Action}
    (h : action.kind ∉ [ActionKind.payAssets, .payMany, .mint, .burn]) : action.assetMaps = [] := by
  cases action with
  | validity first last => cases first <;> cases last <;> rfl
  | payAssets | payMany | mint | burn => simp [kind] at h
  | _ => rfl

/-- The maps that an action hands to a builder are those of its document, one by one. -/
theorem merges_of_fill {network : Option Network} {kind : ActionKind} {action : Action}
    (h : (form network kind).fill fields = .ok action) :
    List.Forall₂ Merges (writtenMaps fields kind) action.assetMaps := by
  have hkind := kind_of_fill h
  cases kind with
  | payAssets =>
    obtain ⟨toAddress, a, lovelace, -, hassets, -, rfl⟩ := Form.fill_three_iff.mp h
    exact merges_of_assets normalizes_assetId (assets_of_someAssets (read_value_of_fill hassets))
  | mint | burn =>
    obtain ⟨policy, a, redeemer, -, hassets, -, rfl⟩ := Form.fill_three_iff.mp h
    exact merges_of_assets normalizes_assetName (assets_of_someAssets (read_value_of_fill hassets))
  | payMany =>
    obtain ⟨outs, houtputs, rfl⟩ := Form.fill_one_iff.mp h
    have hread := read_value_of_fill houtputs
    unfold outputs at hread
    split at hread
    · simp at hread
    · next items _ hvalue =>
      rw [writtenMaps, hvalue]
      simpa [assetMaps, steps, Step.assetMaps] using merges_of_outputItems hread
    · simp at hread
  | _ =>
    -- an action of any other kind has no maps of assets
    rw [assetMaps_eq_nil (by simp [hkind])]
    exact .nil

theorem forall₂_iff_of_merges {raws : List Json.Fields} {maps : List (Entries String Int)}
    (h : List.Forall₂ Merges raws maps) :
    List.Forall₂ Sums raws maps ↔ ∀ written ∈ raws, Apart written := by
  induction h with
  | nil => simp
  | cons hfirst _ ih => rw [List.forall₂_cons, List.forall_mem_cons, hfirst.2, ih]

/-- Every map that an action hands to a builder has the last amounts of the map that was written;
all of them have the sums exactly if no two keys of one map have the same normal form. -/
theorem assetMaps_of_validate {network : Option Network} {v : Json} {action : Action}
    (h : validate network v = .ok action) :
    ∃ fields, v = .obj fields ∧
      List.Forall₂ KeepsLast (writtenMaps fields action.kind) action.assetMaps ∧
      (List.Forall₂ Sums (writtenMaps fields action.kind) action.assetMaps ↔
        ∀ written ∈ writtenMaps fields action.kind, Apart written) := by
  rw [validate_eq_ok_iff, judge_eq_accepted_iff] at h
  obtain ⟨kind, fields, ⟨rfl, -⟩, hread⟩ := h
  rw [readKind_eq_accepted_iff, readFields_eq_ok_iff] at hread
  have hfill := hread.1.1
  have hmerges := merges_of_fill hfill
  rw [← kind_of_fill hfill] at hmerges
  exact ⟨fields, rfl, hmerges.imp fun _ _ hmerge => hmerge.1, forall₂_iff_of_merges hmerges⟩

/-- A policy in hexadecimal digits. -/
def onesPolicy : String :=
  String.ofList (List.replicate 56 '1')

/-- A map that gives two amounts for one name, which it spells in two ways. -/
def respelled : Json.Fields :=
  [("ab", .int 1), (" AB", .str "2"), ("cd", .int 4)]

/-- A minting of these amounts. -/
def respelledMint : Json :=
  .obj [("type", .str "mint"), ("policyId", .str onesPolicy), ("assets", .obj respelled)]

/-- Two pieces of the one token and four of the other. -/
def respelledMinted : Action :=
  .mint onesPolicy [("ab", 2), ("cd", 4)] none

set_option maxRecDepth 8000 in
theorem validate_respelledMint : validate none respelledMint = .ok respelledMinted := rfl

theorem assetMaps_of_validate_respelled :
    validate none respelledMint = .ok respelledMinted ∧
      List.Forall₂ KeepsLast [respelled] respelledMinted.assetMaps := by
  refine ⟨validate_respelledMint, ?_⟩
  obtain ⟨fields, hfields, hlast, -⟩ := assetMaps_of_validate validate_respelledMint
  cases hfields
  exact hlast

/-- The first of the two amounts is in none of the maps that the builder gets. -/
theorem respelled_not_summed :
    validate none respelledMint = .ok respelledMinted ∧
      ¬ List.Forall₂ Sums [respelled] respelledMinted.assetMaps := by
  refine ⟨validate_respelledMint, fun h => ?_⟩
  obtain ⟨hsums, -⟩ := List.forall₂_cons.mp h
  exact absurd (hsums "ab" 2 rfl) (by decide +kernel)

end Action

end TxDraft
