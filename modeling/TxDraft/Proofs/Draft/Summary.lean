import TxDraft.Proofs.Draft.Replay
import TxDraft.Proofs.Entries

/-!
# What a sequence stages

Every part of a draft is a fold over the entries that concern it, in the order in which they were
given (`field_replay`): lists grow at their end, maps and single values keep the last, and a
collateral or a reference input that is given again is not added again.  So a sequence that is
applied without a failure leaves the summary of what it gave (`summarizes_applyActions`), whatever
else it gave in between.
-/

namespace TxDraft.Draft

open Ledger

namespace Entry

/-! ### Entries of one kind -/

def output? : Entry → Option Output
  | output o => some o
  | _ => none

def metadatum? : Entry → Option (Int × Json)
  | metadatum label content => some (label, content)
  | _ => none

def validFrom? : Entry → Option Int
  | validFrom slot => some slot
  | _ => none

def validTo? : Entry → Option Int
  | validTo slot => some slot
  | _ => none

def signer? : Entry → Option Bytes
  | signer hash => some hash
  | _ => none

def change? : Entry → Option Address
  | change address => some address
  | _ => none

def buffer? : Entry → Option (Option Int)
  | buffer feeBuffer => some feeBuffer
  | _ => none

def collateral? : Entry → Option Unspent
  | collateral u => some u
  | _ => none

def reference? : Entry → Option ReferenceInput
  | reference input => some input
  | _ => none

def spent? : Entry → Option Unspent
  | spend u _ => some u
  | _ => none

def native? : Entry → Option NativeScript
  | native script => some script
  | _ => none

def certificate? : Entry → Option Certificate
  | certificate c => some c
  | _ => none

def withdrawal? : Entry → Option (Address × Int)
  | withdrawal address amount => some (address, amount)
  | _ => none

end Entry

/-! ### Parts of a draft as folds -/

section Fields

variable {α β : Type}

/-- A part that grows by what is given for it, and by nothing else. -/
theorem field_replay (get : Draft → β) (given : Entry → Option α) (grow : β → α → β)
    (h : ∀ d e, get (d.put e) = match given e with | some a => grow (get d) a | none => get d)
    (d : Draft) (es : List Entry) :
    get (d.replay es) = (es.filterMap given).foldl grow (get d) := by
  rw [List.foldl_filterMap, replay]
  exact (List.foldl_hom get fun d e => (h d e).symm).symm

/-- A list grows at its end. -/
theorem list_replay (get : Draft → List α) (given : Entry → Option α)
    (h : ∀ d e, get (d.put e) = match given e with | some a => get d ++ [a] | none => get d)
    {d : Draft} (hnil : get d = []) (es : List Entry) :
    get (d.replay es) = es.filterMap given := by
  rw [field_replay get given (fun l a => l ++ [a]) h, List.foldl_append_eq_append,
    ← List.flatMap_def, List.flatMap_singleton', hnil, List.nil_append]

/-- Of a single value the last one counts. -/
theorem last_replay (get : Draft → β) (given : Entry → Option β)
    (h : ∀ d e, get (d.put e) = (given e).getD (get d)) (d : Draft) (es : List Entry) :
    get (d.replay es) = (es.filterMap given).getLast?.getD (get d) := by
  have hlast : ∀ (more : List β) (b : β),
      more.foldl (fun _ a => a) b = more.getLast?.getD b := by
    intro more
    induction more with
    | nil => exact fun b => rfl
    | cons a rest ih =>
      intro b
      rw [List.foldl_cons, ih, List.getLast?_cons, Option.getD_some]
  rw [field_replay get given (fun _ a => a), hlast]
  intro d e
  rw [h]
  cases given e <;> rfl

/-- So it is with one that may be missing, and that is never taken back. -/
theorem some_replay (get : Draft → Option α) (given : Entry → Option α)
    (h : ∀ d e, get (d.put e) = (given e).or (get d)) {d : Draft} (hnone : get d = none)
    (es : List Entry) :
    get (d.replay es) = (es.filterMap given).getLast? := by
  rw [last_replay get (fun e => (given e).map some)]
  · rw [← List.map_filterMap, List.getLast?_map, hnone]
    cases (es.filterMap given).getLast? <;> rfl
  · intro d e
    rw [h]
    cases given e <;> rfl

/-- What is added once each is what was given, each at its first place. -/
theorem once_replay [DecidableEq α] (get : Draft → List α) (given : Entry → Option α)
    (h : ∀ d e, get (d.put e) = match given e with | some a => addOnce a (get d) | none => get d)
    {d : Draft} (hnil : get d = []) (es : List Entry) :
    get (d.replay es) = (es.filterMap given).eraseDups := by
  rw [field_replay get given (fun l a => addOnce a l) h, hnil]
  induction es.filterMap given using List.reverseRecOn with
  | nil => rfl
  | append_singleton rest a ih =>
    rw [List.foldl_concat, ih, List.eraseDups_append, addOnce]
    by_cases hmem : a ∈ rest
    · simp [hmem, List.removeAll]
    · simp [hmem, List.removeAll, List.eraseDups_cons]

/-- Of a map the last value under each key counts. -/
theorem map_replay [DecidableEq α] (get : Draft → Entries α β) (given : Entry → Option (α × β))
    (h : ∀ d e, get (d.put e) =
      match given e with | some a => Entries.put a.1 a.2 (get d) | none => get d)
    {d : Draft} (hnil : get d = []) (es : List Entry) :
    get (d.replay es) = Entries.ofPairs (es.filterMap given) := by
  rw [field_replay get given (fun m a => Entries.put a.1 a.2 m), hnil, Entries.ofPairs]
  intro d e
  rw [h]
  cases given e <;> rfl

end Fields

/-! ### The summary -/

/-- The draft is the summary of the entries: what was given for each of its parts, in order. -/
structure Summarizes (source : Address) (es : List Entry) (d : Draft) : Prop where
  outputs : d.outputs = es.filterMap Entry.output?
  metadata : ∀ label,
    d.metadata.get? label = Entries.lastUnder label (es.filterMap Entry.metadatum?)
  auxiliary : d.auxiliary? = none ↔ es.filterMap Entry.metadatum? = []
  validFrom : d.validFrom = (es.filterMap Entry.validFrom?).getLast?
  validTo : d.validTo = (es.filterMap Entry.validTo?).getLast?
  requiredSigners : d.requiredSigners = es.filterMap Entry.signer?
  certificates : d.certificates = es.filterMap Entry.certificate?
  /-- A collateral that is given again keeps the place where it was given first. -/
  collaterals : d.collaterals = (es.filterMap Entry.collateral?).eraseDups
  /-- With a redeemer or without. -/
  inputs : d.inputs = es.filterMap Entry.spent?
  nativeScripts : d.nativeScripts = es.filterMap Entry.native?
  withdrawals : ∀ address,
    d.withdrawals.get? address = Entries.lastUnder address (es.filterMap Entry.withdrawal?)
  referenceInputs : ∀ input, input ∈ d.referenceInputs ↔ input ∈ es.filterMap Entry.reference?
  changeTo : d.changeTo = (es.filterMap Entry.change?).getLast?.getD source
  feeBuffer : d.feeBuffer = (es.filterMap Entry.buffer?).getLast?.getD none

theorem metadata_replay (source : Address) (es : List Entry) :
    ((empty source).replay es).metadata = Entries.ofPairs (es.filterMap Entry.metadatum?) :=
  map_replay Draft.metadata Entry.metadatum? (by rintro d ⟨⟩ <;> rfl) rfl es

/-- Nothing is given for the source. -/
theorem source_replay (d : Draft) (es : List Entry) : (d.replay es).source = d.source := by
  induction es generalizing d with
  | nil => rfl
  | cons e rest ih =>
    have hput : (d.put e).source = d.source := by cases e <;> rfl
    rw [← hput]
    exact ih (d.put e)

theorem auxiliary?_eq_none_iff {d : Draft} : d.auxiliary? = none ↔ d.metadata = [] := by
  unfold auxiliary?
  cases d.metadata <;> simp

theorem summarizes_replay (source : Address) (es : List Entry) :
    Summarizes source es ((empty source).replay es) where
  outputs := list_replay outputs Entry.output? (by rintro d ⟨⟩ <;> rfl) rfl es
  metadata label := by
    rw [metadata_replay, Entries.get?_ofPairs]
  auxiliary := by
    rw [auxiliary?_eq_none_iff, metadata_replay, Entries.ofPairs_eq_nil_iff]
  validFrom := some_replay Draft.validFrom Entry.validFrom? (by rintro d ⟨⟩ <;> rfl) rfl es
  validTo := some_replay Draft.validTo Entry.validTo? (by rintro d ⟨⟩ <;> rfl) rfl es
  requiredSigners := list_replay requiredSigners Entry.signer? (by rintro d ⟨⟩ <;> rfl) rfl es
  certificates := list_replay certificates Entry.certificate? (by rintro d ⟨⟩ <;> rfl) rfl es
  collaterals := once_replay collaterals Entry.collateral? (by rintro d ⟨⟩ <;> rfl) rfl es
  inputs := list_replay inputs Entry.spent? (by rintro d ⟨⟩ <;> rfl) rfl es
  nativeScripts := list_replay nativeScripts Entry.native? (by rintro d ⟨⟩ <;> rfl) rfl es
  withdrawals address := by
    rw [map_replay withdrawals Entry.withdrawal? (by rintro d ⟨⟩ <;> rfl) rfl,
      Entries.get?_ofPairs]
  referenceInputs input := by
    rw [once_replay referenceInputs Entry.reference? (by rintro d ⟨⟩ <;> rfl) rfl,
      List.mem_eraseDups]
  changeTo := by
    have hchange : ((empty source).replay es).changeAddress =
        (es.filterMap Entry.change?).getLast? :=
      some_replay changeAddress Entry.change? (by rintro d ⟨⟩ <;> rfl) rfl es
    rw [changeTo, hchange, source_replay]
    rfl
  feeBuffer := last_replay feeBuffer Entry.buffer? (by rintro d ⟨⟩ <;> rfl) (empty source) es

/-- Actions that are all applied leave the summary of what they give, whatever comes between. -/
theorem summarizes_applyActions {chain : Chain} {source : Address} {actions : List Action}
    {index : Int} {went : Option Chain × List String} {d : Draft}
    (hrun : (Compile.applyActions builder index (some chain) actions).outcomeIn (empty source) =
      (.ok went, d)) :
    ∃ es, allEntries chain (actions.flatMap Action.steps) = .ok es ∧ Summarizes source es d := by
  obtain ⟨es, hes, hstaged⟩ := replays_applyActions hrun
  refine ⟨es, hes, ?_⟩
  have hsummary : Summarizes source es d.unasked := hstaged ▸ summarizes_replay source es
  exact { hsummary with }

/-! ### A sequence that repeats itself -/

/-- The address of a key. -/
def keyed : Address :=
  ⟨.testnet, .enterprise (.key (List.replicate 28 1))⟩

/-- An output at that address. -/
def held : Unspent :=
  ⟨⟨List.replicate 32 255, 0⟩, ⟨keyed, .ofCoin 50000000, .none⟩⟩

/-- A chain with nothing else there, on which no scripts can be run. -/
def heldChain : Chain where
  parameters := ⟨155381, 44, 4310, 16384, 2000000⟩
  lastSlot := 0
  atSource _ := [held]
  runScripts := .ofAttempt (.error refusal)

/-- The output by its name. -/
def heldRef : OutputRef :=
  ⟨some (String.ofList (List.replicate 64 'f')), some 0, none⟩

/-- Bounds, metadata, fee policies and a collateral that are all given twice. -/
def repeated : List Action :=
  [.collateral heldRef, .metadata 1 (.str "first"), .validity (some 5) (some 8),
    .feePolicy .buffer none (some 100), .collateral heldRef, .metadata 1 (.str "second"),
    .validity none (some 9), .spendUtxo heldRef none, .feePolicy .default none none]

/-- What they give. -/
def repeatedEntries : List Entry :=
  [.collateral held, .metadatum 1 (.str "first"), .validFrom 5, .validTo 8, .buffer (some 100),
    .collateral held, .metadatum 1 (.str "second"), .validTo 9, .spend held none, .buffer none]

theorem summarizes_applyActions_repeated :
    ∃ went d, (Compile.applyActions builder 0 (some heldChain) repeated).outcomeIn (empty keyed) =
      (.ok went, d) ∧ Summarizes keyed repeatedEntries d := by
  have hgiven : allEntries heldChain (repeated.flatMap Action.steps) = .ok repeatedEntries := rfl
  obtain ⟨went, d, hrun⟩ : ∃ went d,
      (Compile.applyActions builder 0 (some heldChain) repeated).outcomeIn (empty keyed) =
        (.ok went, d) := ⟨_, _, rfl⟩
  obtain ⟨es, hes, hsummary⟩ := summarizes_applyActions hrun
  obtain rfl : repeatedEntries = es := Except.ok.inj (hgiven.symm.trans hes)
  exact ⟨went, d, hrun, hsummary⟩

/-- The collateral was given twice, and is there once. -/
theorem repeated_collateral_kept_once :
    ∃ went d, (Compile.applyActions builder 0 (some heldChain) repeated).outcomeIn (empty keyed) =
      (.ok went, d) ∧ allEntries heldChain (repeated.flatMap Action.steps) = .ok repeatedEntries ∧
      d.collaterals = [held] ∧ d.collaterals ≠ repeatedEntries.filterMap Entry.collateral? := by
  refine ⟨_, _, rfl, rfl, rfl, ?_⟩
  show [held] ≠ [held, held]
  simp

end TxDraft.Draft
