import TxDraft.Proofs.Lookup.Balance

/-!
# What becomes of a reply

Once a provider has replied, a lookup only reads.  If all records can be read, it tells what all of
them say; if not, the first that cannot be read decides what becomes of the lookup.  The provider is
blamed for a record of a wrong form, but a foreign record (`Utxo.Foreign`) fails the lookup with a
failure that nobody has put into words.  So a lookup tells what all records say or blames the
provider exactly if it is not stopped at a foreign record (`told_iff`).
-/

namespace TxDraft.Lookup

variable {ω α : Type}

/-- All records can be read up to one that is foreign. -/
def StopsAtForeign (records : List Json) : Prop :=
  ∃ before fields after, records = before ++ .obj fields :: after ∧
    (∀ r ∈ before, ∃ u, Utxo.ofRecord r = .ok u) ∧ Utxo.Foreign fields

/-- The lookup tells what all records say, or it blames the provider for one of them. -/
def Told (p : Provider) (covers : α → Prop) : Attempt α → Prop
  | .ok answer => covers answer
  | .error f => ∃ fault, f = .provider (.unreadableRecord p fault)

/-- The balance is the total of all outputs that the records describe. -/
def CoveredBy (records : List Json) (b : AddressBalance) : Prop :=
  ∃ utxos, Utxo.Reads records utxos ∧ b.TotalOf utxos

/-! ### Reading the records -/

/-- What a record that cannot be read makes of a lookup. -/
def blame (p : Provider) (fault : Utxo.Fault) : Failure :=
  if fault.message?.isSome then .provider (.unreadableRecord p fault)
  else .unexpected (.record fault)

theorem mapM_readRecord_eq (p : Provider) (records : List Json) :
    records.mapM (readRecord p) = (records.mapM Utxo.ofRecord).mapError (blame p) :=
  Traversal.mapM_mapError (blame p) records

theorem ofRecord_unworded_iff {r : Json} :
    (∃ fault, Utxo.ofRecord r = .error fault ∧ fault.message? = none) ↔
      ∃ fields, r = .obj fields ∧ Utxo.Foreign fields := by
  cases r with
  | obj fields => simpa [Utxo.ofRecord] using Utxo.ofFields_unworded_iff
  | _ => simp [Utxo.ofRecord, Utxo.Fault.message?]

/-- The first record that cannot be read is foreign exactly if nothing is said about it. -/
theorem stopsAtForeign_iff {records : List Json} :
    StopsAtForeign records ↔
      ∃ fault, records.mapM Utxo.ofRecord = .error fault ∧ fault.message? = none := by
  simp only [Traversal.mapM_eq_error_iff]
  constructor
  · rintro ⟨before, fields, after, hrecords, hbefore, hforeign⟩
    obtain ⟨fault, hfault, hmessage⟩ := ofRecord_unworded_iff.mpr ⟨fields, rfl, hforeign⟩
    exact ⟨fault, ⟨before, _, after, hrecords, hbefore, hfault⟩, hmessage⟩
  · rintro ⟨fault, ⟨before, bad, after, hrecords, hbefore, hfault⟩, hmessage⟩
    obtain ⟨fields, rfl, hforeign⟩ := ofRecord_unworded_iff.mp ⟨fault, hfault, hmessage⟩
    exact ⟨before, fields, after, hrecords, hbefore, hforeign⟩

/-- A reading that covers all records when they can be read, and else fails with the first that
cannot be read, is told exactly if it is not stopped at a foreign record. -/
theorem told_reading_iff {p : Provider} {covers : α → Prop} {records : List Json}
    {answer : Attempt α}
    (hok : ∀ utxos, Utxo.Reads records utxos → ∃ a, answer = .ok a ∧ covers a)
    (herror : ∀ fault, records.mapM Utxo.ofRecord = .error fault →
      answer = .error (blame p fault)) :
    Told p covers answer ↔ ¬ StopsAtForeign records := by
  rw [stopsAtForeign_iff]
  cases hread : records.mapM Utxo.ofRecord with
  | ok utxos =>
    obtain ⟨a, rfl, ha⟩ := hok utxos (Traversal.mapM_eq_ok_iff.mp hread)
    simp [Told, ha]
  | error fault =>
    rw [herror fault hread, Told, blame]
    cases hmessage : fault.message? with
    | none => simp [hmessage]
    | some message => simp [hmessage]

theorem mapM_readRecord_of_error (p : Provider) {records : List Json} {fault : Utxo.Fault}
    (h : records.mapM Utxo.ofRecord = .error fault) :
    records.mapM (readRecord p) = .error (blame p fault) := by
  rw [mapM_readRecord_eq, h]
  rfl

theorem balanceOf_of_error (address : String) (p : Provider) {records : List Json}
    {fault : Utxo.Fault} (h : records.mapM Utxo.ofRecord = .error fault) :
    balanceOf address p records = .error (blame p fault) := by
  rw [balanceOf, mapM_readRecord_of_error p h]
  rfl

namespace Query

variable {q : Query ω} {p : Provider} {records : List Json} {left : ω}

theorem Replies.utxos_of_error (h : q.Replies p records left) {fault : Utxo.Fault}
    (hread : records.mapM Utxo.ofRecord = .error fault) :
    q.utxos = (.error (blame p fault), left) := by
  rw [utxos, unspentAt_eq_asked, h.outcomeIn_asked, mapM_readRecord_of_error p hread]

theorem Replies.balance_of_error (h : q.Replies p records left) {fault : Utxo.Fault}
    (hread : records.mapM Utxo.ofRecord = .error fault) :
    q.balance = (.error (blame p fault), left) := by
  rw [balance, balanceAt_eq_asked, h.outcomeIn_asked, balanceOf_of_error q.address p hread]

end Query

/-! ### Looking up -/

/-- Once a provider has replied, the unspent outputs and the balance are told, or the provider is
blamed, exactly if the reading is not stopped at a foreign record.  There both lookups fail with a
fault about which nothing is said. -/
theorem told_iff {q : Query ω} {p : Provider} {records : List Json} {left : ω}
    (h : q.Replies p records left) :
    (Told p (Utxo.Reads records) q.utxos.1 ↔ ¬ StopsAtForeign records) ∧
    (Told p (CoveredBy records) q.balance.1 ↔ ¬ StopsAtForeign records) ∧
    (StopsAtForeign records → ∃ fault, fault.message? = none ∧
      q.utxos = (.error (.unexpected (.record fault)), left) ∧
      q.balance = (.error (.unexpected (.record fault)), left)) := by
  refine ⟨?utxos, ?balance, ?stopped⟩
  case utxos =>
    refine told_reading_iff (fun utxos hread => ⟨utxos, ?_, hread⟩) fun fault hfault => ?_
    · rw [h.utxos_eq hread]
    · rw [h.utxos_of_error hfault]
  case balance =>
    refine told_reading_iff (fun utxos hread => ?_) fun fault hfault => ?_
    · obtain ⟨b, hb, -, -, htotal⟩ := h.balance_eq hread
      exact ⟨b, congrArg Prod.fst hb, utxos, hread, htotal⟩
    · rw [h.balance_of_error hfault]
  case stopped =>
    intro hstops
    obtain ⟨fault, hread, hmessage⟩ := stopsAtForeign_iff.mp hstops
    have hblame : blame p fault = .unexpected (.record fault) := by
      rw [blame, hmessage]
      rfl
    refine ⟨fault, hmessage, ?_, ?_⟩
    · rw [h.utxos_of_error hread, hblame]
    · rw [h.balance_of_error hread, hblame]

/-- A record in which a number stands for a unit. -/
def numbered : Json :=
  .obj [("tx_hash", .str "aa"), ("output_index", .int 0),
    ("amount", .arr [.obj [("unit", .int 5), ("quantity", .int 1)]])]

/-- Two records that can be read, and one that is no object: the outputs of the two are told, and
for the third the provider is blamed. -/
theorem told_iff_served :
    Told .kupmios (Utxo.Reads [coined, itemized]) (served [coined, itemized]).utxos.1 ∧
      (served [coined, .null]).utxos.1 =
        .error (.provider (.unreadableRecord .kupmios (.notObject "NoneType"))) := by
  refine ⟨?_, rfl⟩
  have hreply : (served [coined, itemized]).Replies .kupmios [coined, itemized] () := rfl
  rw [(told_iff hreply).1, stopsAtForeign_iff]
  rintro ⟨fault, hfault, -⟩
  cases hfault

/-- For a unit that is a number nobody is blamed. -/
theorem numbered_not_told :
    (served [numbered]).Replies .kupmios [numbered] () ∧
      ¬ Told .kupmios (Utxo.Reads [numbered]) (served [numbered]).utxos.1 ∧
      ¬ Told .kupmios (CoveredBy [numbered]) (served [numbered]).balance.1 := by
  refine ⟨rfl, ?_, ?_⟩
  · rintro ⟨fault, hfault⟩
    cases hfault
  · rintro ⟨fault, hfault⟩
    cases hfault

end TxDraft.Lookup
