import TxDraft.CommandLine
import TxDraft.Proofs.Action.Sequence
import TxDraft.Proofs.Compile.Answer
import TxDraft.Proofs.Lookup.Answer
import TxDraft.Proofs.Service.Phases

/-!
# How the program ends

A command that is understood is answered by one object, which is printed, and the program ends with
0 if the object tells of success and with 1 if not, with three exceptions (`tells_iff`).  Something
that a command asks for may fail in a way that is no answer (`Astray`): the parts of a command that
may are told one by one.  An answer may hold an integer with too many digits to be written
(`Unwritable`).  And a version document may bring a mark of its own, which replaces the mark of
success in front of it (`Mismarked`).
-/

namespace TxDraft.CommandLine

variable {η ω α : Type}

/-! ### Failures that are no answers -/

/-- The failure is no answer: it ends the program. -/
def Stray (f : Failure) : Prop :=
  answerOf? f = none

/-- The work fails, and not with an answer. -/
abbrev Strays (work : Work ω α) (world : ω) : Prop :=
  work.FailsAs Stray world

/-- What ends the program is not worded, is no refusal of the operating system, and no document that
cannot be read. -/
theorem stray_iff {f : Failure} :
    Stray f ↔ ∃ why, f = .unexpected why ∧ (∀ text, why ≠ .document text) ∧
      ∀ a, why = .accident a → a.isSystem = false := by
  cases f with
  | unexpected why =>
    cases why with
    | accident a => cases h : a.isSystem <;> simp [Stray, answerOf?, h]
    | _ => simp [Stray, answerOf?]
  | _ => simp [Stray, answerOf?]

theorem not_stray_of_isWorded {f : Failure} (h : f.isWorded = true) : ¬ Stray f := by
  rw [stray_iff]
  rintro ⟨why, rfl, -⟩
  cases h

theorem stray_number : Stray (.unexpected .number) :=
  rfl

theorem not_stray_validateAddress {network : Option Network} {field : String} {v : Json}
    {f : Failure} (h : validateAddress network field v = .error f) : ¬ Stray f := by
  unfold validateAddress at h
  split at h
  · obtain ⟨complaint, -, rfl⟩ := Traversal.mapError_eq_error_iff.mp h
    exact not_stray_of_isWorded rfl
  · cases h
    exact not_stray_of_isWorded rfl

/-! ### Finding a provider, and asking it -/

theorem strays_provider {backend : Backend ω} {world : ω} :
    Strays (Lookup.provider backend none) world ↔ Strays backend.resolve world := by
  have hworded : ∀ (r : Readiness) (f : Failure), r.provider = .error f → ¬ Stray f := by
    intro r f h
    unfold Readiness.provider at h
    split at h
    · cases h
    · cases h
      exact not_stray_of_isWorded rfl
  unfold Lookup.provider
  -- that no provider is usable is worded, so only finding out is left
  rw [Strays, Work.failsAs_bind, or_iff_left]
  rintro ⟨r, left, -, hfails⟩
  obtain ⟨f, hf, hstray⟩ := Work.failsAs_ofAttempt.mp hfails
  exact hworded r f hf hstray

/-- Asking for the records at an address ends the program: finding out which providers are usable,
making a client, or the reply of the client. -/
def AskingStrays (q : Lookup.Query ω) : Prop :=
  Strays (Lookup.asked q.backend q.known q.address fun p records => .ok (p, records)) q.world

/-- Looking up an address ends the program: asking does, or there are records and reading them is
stopped at a foreign one. -/
def LookupStrays (q : Lookup.Query ω) : Prop :=
  AskingStrays q ∨ ∃ p records left, q.Replies p records left ∧ Lookup.StopsAtForeign records

/-- A reading that fails with the first record that cannot be read, and in no other way, ends the
program if that record is foreign. -/
theorem strays_asked_iff {q : Lookup.Query ω} {read : Provider → List Json → Attempt α}
    (hok : ∀ p records utxos, Utxo.Reads records utxos → ∃ a, read p records = .ok a)
    (herror : ∀ p records fault, records.mapM Utxo.ofRecord = .error fault →
      read p records = .error (Lookup.blame p fault)) :
    Strays (Lookup.asked q.backend q.known q.address read) q.world ↔ LookupStrays q := by
  have hread : ∀ p records,
      (∃ f, read p records = .error f ∧ Stray f) ↔ Lookup.StopsAtForeign records := by
    intro p records
    rw [Lookup.stopsAtForeign_iff]
    cases hrecords : records.mapM Utxo.ofRecord with
    | ok utxos =>
      obtain ⟨a, ha⟩ := hok p records utxos (Traversal.mapM_eq_ok_iff.mp hrecords)
      simp [ha]
    | error fault =>
      rw [herror p records fault hrecords, Lookup.blame]
      cases hmessage : fault.message? <;> simp [hmessage, Stray, answerOf?]
  rw [Lookup.asked_eq_bind, Strays, Work.failsAs_bind]
  simp only [Work.failsAs_ofAttempt, hread]
  constructor
  · rintro (hasking | ⟨⟨p, records⟩, left, hreply, hstops⟩)
    · exact Or.inl hasking
    · exact Or.inr ⟨p, records, left, hreply, hstops⟩
  · rintro (hasking | ⟨p, records, left, hreply, hstops⟩)
    · exact Or.inl hasking
    · exact Or.inr ⟨⟨p, records⟩, left, hreply, hstops⟩

variable (s : Service η ω) (desk : Desk ω)

/-- What lies at an address, asked in a world. -/
def queryAt (world : ω) (address : String) : Lookup.Query ω :=
  ⟨s.backend, none, address, world⟩

variable {s desk}

theorem strays_lookUp_iff {v : Json} {read : String → Provider → List Json → Attempt α}
    {world : ω} :
    Strays (s.lookUp v read) world ↔
      ∃ address, Denotes s.network v address ∧
        Strays (Lookup.asked s.backend none address (read address)) world := by
  unfold Service.lookUp Service.checkAddress
  rw [Strays, Work.failsAs_ofAttempt_bind, or_iff_right]
  · simp only [validateAddress_eq_ok_iff]
  · rintro ⟨f, hf, hstray⟩
    exact not_stray_validateAddress hf hstray

theorem strays_unspent_iff {v : Json} {world : ω} :
    Strays (s.unspent v) world ↔
      ∃ address, Denotes s.network v address ∧ LookupStrays (queryAt s world address) := by
  rw [Service.unspent_eq_lookUp, strays_lookUp_iff]
  refine exists_congr fun address => and_congr_right fun _ => ?_
  exact strays_asked_iff (q := queryAt s world address)
    (fun p _ utxos hread => ⟨utxos, Lookup.mapM_readRecord p hread⟩)
    fun p _ _ hfault => Lookup.mapM_readRecord_of_error p hfault

theorem strays_balance_iff {v : Json} {world : ω} :
    Strays (s.balance v) world ↔
      ∃ address, Denotes s.network v address ∧ LookupStrays (queryAt s world address) := by
  rw [Service.balance_eq_lookUp, strays_lookUp_iff]
  refine exists_congr fun address => and_congr_right fun _ => ?_
  exact strays_asked_iff (q := queryAt s world address)
    (fun p _ _ hread => ⟨_, Lookup.balanceOf_of_reads address p hread⟩)
    fun p _ _ hfault => Lookup.balanceOf_of_error address p hfault

/-! ### Building -/

/-- Compiling with a builder ends the program: completion gives something that has no length, or a
look for an operation fails. -/
def RunStrays (b : Builder η ω) (h : η) (valid : List Action) (world : ω) : Prop :=
  (∃ names outcome left, Compile.Completes b h valid world names outcome left ∧
    Compile.Escapes outcome (.error (.unexpected .unsized))) ∨
  ∃ f left, Compile.StopsAtLook b h valid world f left ∧ Stray f

/-- Building a transaction for valid actions ends the program: finding out which providers are
usable does, or compiling does. -/
def CompileStrays (s : Service η ω) (address : String) (valid : List Action) (world : ω) : Prop :=
  Strays s.backend.resolve world ∨
    ∃ p found, (Lookup.provider s.backend none).outcomeIn world = (.ok p, found) ∧
      ∃ h between, (s.start p address).outcomeIn found = (.ok h, between) ∧
        RunStrays s.builder h valid between

/-- Building ends the program: an action refers to an output by a foreign record, or the actions are
valid and building a transaction for them does. -/
def BuildStrays (s : Service η ω) (source actions : Json) (world : ω) : Prop :=
  ∃ address, Denotes s.network source address ∧
    ((∃ items, actions = .arr items ∧
        ∃ item ∈ items, Grammar.HoldsForeign (some s.network) item) ∨
      ∃ valid, Action.validateAll (some s.network) actions = .ok valid ∧
        CompileStrays s address valid world)

theorem stray_validateAll_iff {network : Option Network} {actions : Json} :
    (∃ f, Action.validateAll network actions = .error f ∧ Stray f) ↔
      ∃ items, actions = .arr items ∧ ∃ item ∈ items, Grammar.HoldsForeign network item := by
  have hinvalid : ∀ issues, ¬ Stray (.invalid issues) := fun _ => not_stray_of_isWorded rfl
  constructor
  · rintro ⟨f, hf, hstray⟩
    by_contra hnone
    cases actions with
    | arr items =>
      -- what is answered is refused with issues, if it is refused
      rcases Action.answered_of_unbroken fun item hitem hforeign =>
        hnone ⟨items, rfl, item, hitem, hforeign⟩ with ⟨_, valid, -, hvalid, -⟩ | ⟨issues, -, hall⟩
      · rw [hf] at hvalid
        cases hvalid
      · rw [hf] at hall
        cases hall
        exact hinvalid issues hstray
    | _ =>
      cases hf
      exact hinvalid _ hstray
  · rintro ⟨items, rfl, hforeign⟩
    obtain ⟨fault, hfault⟩ := Action.validateAll_of_broken hforeign
    exact ⟨_, hfault, rfl⟩

theorem stray_content_iff {outcome : Outcome η} :
    (∃ f, Compile.content outcome = .error f ∧ Stray f) ↔
      Compile.Escapes outcome (.error (.unexpected .unsized)) := by
  constructor
  · rintro ⟨f, hf, hstray⟩
    have hnot : ¬ Compile.Settled ((Compile.content outcome).map fun v => ⟨v, []⟩) := by
      rw [hf]
      exact fun hworded => not_stray_of_isWorded hworded hstray
    -- the only content that is not settled is what escapes
    rw [Compile.settled_content_iff, not_not] at hnot
    obtain ⟨answer, hescapes⟩ := hnot
    rw [Compile.content_of_escapes hescapes] at hf
    subst hf
    cases hescapes with
    | handle h => exact .handle h
    | truth => exact .truth
    | int n h => exact .int n h
    | float x h => exact .float x h
  · intro hescapes
    exact ⟨_, Compile.content_of_escapes hescapes, rfl⟩

theorem strays_run_iff {b : Builder η ω} {h : η} {valid : List Action} {world : ω} :
    Strays (Compile.run b h valid) world ↔ RunStrays b h valid world := by
  constructor
  · rintro ⟨f, left, hf, hstray⟩
    rcases Compile.completes_or_fails b h valid world with
      ⟨names, outcome, left', hcompletes⟩ | ⟨f', left', hf', hfails⟩
    · refine Or.inl ⟨names, outcome, left', hcompletes, stray_content_iff.mp ⟨f, ?_, hstray⟩⟩
      rw [hcompletes.outcomeIn_run] at hf
      cases hcontent : Compile.content outcome with
      | ok v =>
        rw [hcontent] at hf
        cases hf
      | error f' =>
        rw [hcontent] at hf
        cases hf
        rfl
    · -- a run that does not complete fails with words, or at a look
      rw [hf] at hf'
      cases hf'
      rcases hfails with hworded | hstops
      · exact absurd hstray (not_stray_of_isWorded hworded)
      · exact Or.inr ⟨f, left, hstops, hstray⟩
  · rintro (⟨names, outcome, left, hcompletes, hescapes⟩ | ⟨f, left, hstops, hstray⟩)
    · refine ⟨.unexpected .unsized, left, ?_, rfl⟩
      rw [hcompletes.outcomeIn_run, Compile.content_of_escapes hescapes]
      rfl
    · exact ⟨f, left, hstops.outcomeIn_run, hstray⟩

/-- Starting a builder does not end the program: its failures are worded. -/
theorem strays_compile_iff {p : Provider} {source : String} {valid : List Action} {world : ω} :
    Strays (s.compile p source valid) world ↔
      ∃ h between, (s.start p source).outcomeIn world = (.ok h, between) ∧
        RunStrays s.builder h valid between := by
  have hworded : ∀ f, ¬ Stray (Service.wordStart f) := by
    intro f
    cases f <;> exact not_stray_of_isWorded rfl
  unfold Strays Work.FailsAs
  rw [Service.outcomeIn_compile]
  rcases (s.start p source).outcomeIn world with ⟨_ | h, between⟩
  · simp [hworded]
  · constructor
    · exact fun hfails => ⟨h, between, rfl, strays_run_iff.mp hfails⟩
    · rintro ⟨_, _, ⟨⟩, hstrays⟩
      exact strays_run_iff.mpr hstrays

theorem strays_build_iff {source actions : Json} {world : ω} :
    Strays (s.build source actions) world ↔ BuildStrays s source actions world := by
  unfold Service.build Service.checkAddress Service.checkActions Service.requireProvider
  rw [Strays, Work.failsAs_ofAttempt_bind, or_iff_right]
  · simp only [validateAddress_eq_ok_iff]
    refine exists_congr fun address => and_congr_right fun _ => ?_
    rw [Work.failsAs_ofAttempt_bind, stray_validateAll_iff]
    refine or_congr_right (exists_congr fun valid => and_congr_right fun _ => ?_)
    rw [Work.failsAs_bind]
    refine or_congr strays_provider ?_
    refine exists_congr fun p => exists_congr fun found => and_congr_right fun _ => ?_
    exact strays_compile_iff
  · rintro ⟨f, hf, hstray⟩
    exact not_stray_validateAddress hf hstray

/-- A payment refers to no record. -/
theorem not_holdsForeign_payment {network : Option Network} {target lovelace : Json} :
    ¬ ∃ items, Service.paymentActions target lovelace = .arr items ∧
      ∃ item ∈ items, Grammar.HoldsForeign network item := by
  rintro ⟨items, hitems, item, hitem, fields, kind, rfl, htag, hkind, -⟩
  cases hitems
  -- the only item is tagged as a payment, and what refers to a record is not
  cases List.mem_singleton.mp hitem
  have hname : kind.tag = "payLovelace" := by
    have hsome : some (Json.str "payLovelace") = some (.str kind.tag) := htag
    injection hsome with hstr
    injection hstr with hplain
    injection hplain with hname
    exact hname.symm
  rcases hkind with rfl | rfl | rfl <;> exact absurd hname (by decide)

theorem strays_buildPayment_iff {source target lovelace : Json} {world : ω} :
    Strays (s.buildPayment source target lovelace) world ↔
      ∃ address, Denotes s.network source address ∧
        ∃ valid, Action.validateAll (some s.network) (Service.paymentActions target lovelace) =
            .ok valid ∧
          CompileStrays s address valid world := by
  rw [Service.buildPayment, strays_build_iff]
  refine exists_congr fun address => and_congr_right fun _ => ?_
  exact or_iff_right not_holdsForeign_payment

/-! ### Commands -/

/-- One of the quantities has too many digits. -/
def Long (quantities : List Int) : Prop :=
  ∃ n ∈ quantities, ¬ Quantity.Short n

/-- Some part of the command ends the program. -/
def Astray (s : Service η ω) (desk : Desk ω) (world : ω) : Command → Prop
  | .status => Strays s.backend.resolve world
  | .balance address =>
    (∃ a, Denotes s.network (.str address) a ∧ LookupStrays (queryAt s world a)) ∨
      ∃ b left, (s.balance (.str address)).outcomeIn world = (.ok b, left) ∧
        Long (quantitiesOfBalance b)
  | .utxos address =>
    (∃ a, Denotes s.network (.str address) a ∧ LookupStrays (queryAt s world a)) ∨
      ∃ utxos left, (s.unspent (.str address)).outcomeIn world = (.ok utxos, left) ∧
        Long (utxos.flatMap quantitiesOfUtxo)
  | .build source path =>
    Strays (desk.text path) world ∨
      ∃ text left, (desk.text path).outcomeIn world = (.ok text, left) ∧
        ((∃ fault, Json.parse (some Quantity.maxDigits) text = .error fault ∧
            fault.isLongNumber = true) ∨
          ∃ actions, Json.parse (some Quantity.maxDigits) text = .ok actions ∧
            BuildStrays s (.str source) actions left)
  | .send source target lovelace =>
    ∃ address, Denotes s.network (.str source) address ∧
      ∃ valid, Action.validateAll (some s.network)
          (Service.paymentActions (.str target) (.str lovelace)) = .ok valid ∧
        CompileStrays s address valid world
  | .params =>
    Strays s.backend.resolve world ∨
      ∃ p found, (Lookup.provider s.backend none).outcomeIn world = (.ok p, found) ∧
        (Strays (s.backend.client p) found ∨
          ∃ c made, (s.backend.client p).outcomeIn found = (.ok c, made) ∧
            Strays c.parameters made)
  | .tip => Strays s.backend.tip world
  | .version => Strays s.backend.version world

theorem checkShort_eq_ok_iff {quantities : List Int} :
    checkShort quantities = .ok () ↔ ¬ Long quantities := by
  have hall : quantities.all Quantity.isShort = true ↔ ¬ Long quantities := by
    simp [Long, Quantity.isShort_iff]
  rw [checkShort, ← hall]
  split <;> simp [*]

theorem stray_checkShort_iff {quantities : List Int} :
    (∃ f, checkShort quantities = .error f ∧ Stray f) ↔ Long quantities := by
  rw [← not_iff_not, ← checkShort_eq_ok_iff, checkShort]
  split
  · simp
  · simp [stray_number]

theorem stray_document_iff {text : String} :
    (∃ f, document text = .error f ∧ Stray f) ↔
      ∃ fault, Json.parse (some Quantity.maxDigits) text = .error fault ∧
        fault.isLongNumber = true := by
  rw [document]
  cases Json.parse (some Quantity.maxDigits) text with
  | ok v => simp
  | error fault =>
    cases hlong : fault.isLongNumber <;> simp [hlong, Stray, answerOf?]

/-- A check of quantities between two parts of a command. -/
theorem strays_checked_iff {work : Work ω α} {quantities : α → List Int} {g : α → Answer}
    {world : ω} :
    Strays (do
        let a ← work
        .ofAttempt (checkShort (quantities a))
        return g a) world ↔
      Strays work world ∨
        ∃ a left, work.outcomeIn world = (.ok a, left) ∧ Long (quantities a) := by
  rw [Strays, Work.failsAs_bind]
  simp only [Work.failsAs_bind_pure, Work.failsAs_ofAttempt, stray_checkShort_iff]

/-- A command goes astray exactly if one of its parts does. -/
theorem strays_answer_iff {world : ω} {c : Command} :
    Strays (answer s desk c) world ↔ Astray s desk world c := by
  cases c with
  | status | tip | version => exact Work.failsAs_bind_pure
  | params =>
    refine Work.failsAs_bind_pure.trans ?_
    unfold Service.protocolParameters Service.requireProvider
    rw [Work.failsAs_bind]
    refine or_congr strays_provider ?_
    refine exists_congr fun p => exists_congr fun found => and_congr_right fun _ => ?_
    exact Work.failsAs_bind
  | balance address => exact strays_checked_iff.trans (or_congr strays_balance_iff Iff.rfl)
  | utxos address => exact strays_checked_iff.trans (or_congr strays_unspent_iff Iff.rfl)
  | build source path =>
    have hread : ∀ (work : Json → Work ω UnsignedTransaction) (text : String) (left : ω),
        Strays (.ofAttempt (document text) >>= work) left ↔
          (∃ fault, Json.parse (some Quantity.maxDigits) text = .error fault ∧
            fault.isLongNumber = true) ∨
          ∃ v, Json.parse (some Quantity.maxDigits) text = .ok v ∧ Strays (work v) left := by
      intro work text left
      rw [Strays, Work.failsAs_ofAttempt_bind, stray_document_iff]
      simp only [document, Traversal.mapError_eq_ok_iff]
    have hanswer : answer s desk (.build source path) = (do
        let tx ← (do
          let text ← desk.text path
          .ofAttempt (document text) >>= s.build (.str source))
        return .accept tx.report) := by
      simp only [answer, readActions, bind_assoc]
    rw [hanswer]
    refine Work.failsAs_bind_pure.trans ?_
    rw [Work.failsAs_bind]
    simp only [hread, strays_build_iff]
    rfl
  | send source target lovelace =>
    exact Work.failsAs_bind_pure.trans strays_buildPayment_iff

/-! ### Marks of success -/

/-- The mark of success among the fields of an object. -/
def tellsSuccess (fields : Json.Fields) : Bool :=
  match Json.field? fields "success" with
  | some (.bool true) => true
  | _ => false

theorem tellsSuccess_iff {fields : Json.Fields} :
    tellsSuccess fields = true ↔ Json.field? fields "success" = some (.bool true) := by
  unfold tellsSuccess
  split
  · next h => simp [h]
  · next h => simpa using h

/-- The answer is an object that has the mark of success exactly if the answer tells of success. -/
def Answer.Marked (a : Answer) : Prop :=
  ∃ fields, a.payload = .obj fields ∧ a.success = tellsSuccess fields

/-- The version document has a mark of its own that is not the mark of success. -/
def Mismarked (s : Service η ω) (world : ω) (c : Command) : Prop :=
  c = .version ∧ ∃ fields left v, s.backend.version.outcomeIn world = (.ok fields, left) ∧
    Entries.lastUnder (.plain "success") fields = some v ∧ v ≠ .bool true

theorem field?_ofPairs_success {mark : Json} {fields : Json.Fields} :
    Json.field? (Entries.ofPairs ((.plain "success", mark) :: fields)) "success" =
      some ((Entries.lastUnder (.plain "success") fields).getD mark) := by
  rw [Json.field?, Entries.get?_ofPairs, Entries.lastUnder, Entries.lastUnder,
    List.filter_cons_of_pos (by simp), List.getLast?_cons]
  cases (fields.filter fun e => e.1 = .plain "success").getLast? <;> rfl

theorem marked_withMark_iff {fields : Json.Fields} :
    (Answer.withMark fields).Marked ↔
      ∀ v, Entries.lastUnder (.plain "success") fields = some v → v = .bool true := by
  have hmark : (Answer.withMark fields).Marked ↔
      (Entries.lastUnder (.plain "success") fields).getD (.bool true) = .bool true := by
    constructor
    · rintro ⟨_, ⟨⟩, hsuccess⟩
      have hfield := tellsSuccess_iff.mp hsuccess.symm
      rw [field?_ofPairs_success] at hfield
      exact Option.some.inj hfield
    · intro hfield
      refine ⟨_, rfl, (tellsSuccess_iff.mpr ?_).symm⟩
      rw [field?_ofPairs_success, hfield]
  rw [hmark]
  cases Entries.lastUnder (.plain "success") fields <;> simp

theorem marked_withMark {fields : Json.Fields} (h : .plain "success" ∉ Entries.keys fields) :
    (Answer.withMark fields).Marked := by
  refine marked_withMark_iff.mpr fun v hv => ?_
  rw [Entries.lastUnder_eq_none_iff.mpr h] at hv
  cases hv

/-- A version document is marked unless it has a mark of its own. -/
theorem marked_version_iff {world left : ω} {fields : Json.Fields}
    (h : s.backend.version.outcomeIn world = (.ok fields, left)) :
    (Answer.withMark fields).Marked ↔ ¬ Mismarked s world .version := by
  have hown : Mismarked s world .version ↔
      ∃ v, Entries.lastUnder (.plain "success") fields = some v ∧ v ≠ .bool true := by
    constructor
    · rintro ⟨-, fields', left', v, hfields, hv⟩
      rw [h] at hfields
      cases hfields
      exact ⟨v, hv⟩
    · rintro ⟨v, hv⟩
      exact ⟨rfl, fields, left, v, h, hv⟩
  rw [marked_withMark_iff, hown]
  push Not
  rfl

/-- No endpoint is reported under the name of the mark. -/
theorem success_not_mem_endpoints (endpoints : List (String × String)) :
    Json.Str.plain "success" ∉
      Entries.keys (endpoints.map fun e => (Json.Str.plain (e.1 ++ "Url"), Json.str e.2)) := by
  intro hmem
  obtain ⟨_, hfield, hname⟩ := List.mem_map.mp hmem
  obtain ⟨e, -, rfl⟩ := List.mem_map.mp hfield
  -- the two names do not end alike
  have hlast := congrArg (fun name : String => name.toList.getLast?) (Json.Str.plain.inj hname)
  simp at hlast

theorem marked_report (r : Readiness) : Answer.Marked ⟨r.report, r.isReady⟩ := by
  have hnone : Entries.lastUnder (.plain "success") r.reportFields.tail = none := by
    rw [Entries.lastUnder_eq_none_iff]
    simpa [Readiness.reportFields, Entries.keys] using success_not_mem_endpoints r.endpoints
  have hmark : Json.field? (Entries.ofPairs r.reportFields) "success" = some (.bool r.isReady) := by
    rw [show r.reportFields = (.plain "success", .bool r.isReady) :: r.reportFields.tail from rfl,
      field?_ofPairs_success, hnone, Option.getD_none]
  refine ⟨_, rfl, ?_⟩
  rw [tellsSuccess, hmark]
  cases r.isReady <;> rfl

theorem marked_of_answerOf? {f : Failure} {a : Answer} (h : answerOf? f = some a) : a.Marked := by
  have hunreadable : ∀ reason, (unreadable reason).Marked := fun _ => ⟨_, rfl, rfl⟩
  have hreport : ∀ f : Failure, Answer.Marked ⟨f.report, false⟩ := fun f => ⟨_, rfl, rfl⟩
  unfold answerOf? at h
  split at h
  · split at h
    · cases h
      exact hunreadable _
    · cases h
  · cases h
    exact hunreadable _
  · cases h
  · cases h
    exact hreport _

/-- The answer to a command that succeeds is marked, unless it is a version document with a mark of
its own. -/
theorem marked_of_answer {c : Command} {a : Answer} {world left : ω}
    (h : (answer s desk c).outcomeIn world = (.ok a, left)) :
    a.Marked ↔ ¬ Mismarked s world c := by
  have hmarked : ∀ {c' : Command} {a' : Answer}, c' ≠ .version → a'.Marked →
      (a'.Marked ↔ ¬ Mismarked s world c') :=
    fun hne ha => iff_of_true ha fun hmis => hne hmis.1
  have haccept : ∀ fields, Answer.Marked (.accept (.obj (("success", .bool true) :: fields))) :=
    fun _ => ⟨_, rfl, rfl⟩
  cases c with
  | status =>
    obtain ⟨r, between, -, hr⟩ := Work.outcomeIn_bind_eq_ok_iff.mp h
    cases hr
    exact hmarked (by simp) (marked_report r)
  | tip =>
    obtain ⟨t, between, -, ht⟩ := Work.outcomeIn_bind_eq_ok_iff.mp h
    cases ht
    exact hmarked (by simp) (marked_withMark (by simp [Ogmios.Tip.reportFields]))
  | version =>
    obtain ⟨fields, between, hfields, ha⟩ := Work.outcomeIn_bind_eq_ok_iff.mp h
    cases ha
    exact marked_version_iff hfields
  | params =>
    obtain ⟨v, between, -, hv⟩ := Work.outcomeIn_bind_eq_ok_iff.mp h
    cases hv
    exact hmarked (by simp) (marked_withMark (by simp))
  | balance address =>
    obtain ⟨b, between, -, hb⟩ := Work.outcomeIn_bind_eq_ok_iff.mp h
    obtain ⟨_, -, hb⟩ := Work.outcomeIn_ofAttempt_bind_eq_ok_iff.mp hb
    cases hb
    exact hmarked (by simp) (haccept _)
  | utxos address =>
    obtain ⟨utxos, between, -, hu⟩ := Work.outcomeIn_bind_eq_ok_iff.mp h
    obtain ⟨_, -, hu⟩ := Work.outcomeIn_ofAttempt_bind_eq_ok_iff.mp hu
    cases hu
    exact hmarked (by simp) (marked_withMark (by simp))
  | build source path =>
    obtain ⟨actions, between, -, hrest⟩ := Work.outcomeIn_bind_eq_ok_iff.mp h
    obtain ⟨tx, between', -, htx⟩ := Work.outcomeIn_bind_eq_ok_iff.mp hrest
    cases htx
    exact hmarked (by simp) (haccept _)
  | send source target lovelace =>
    obtain ⟨tx, between, -, htx⟩ := Work.outcomeIn_bind_eq_ok_iff.mp h
    cases htx
    exact hmarked (by simp) (haccept _)

/-- A version document is an answer that tells of success, whatever mark it has. -/
theorem answer_of_mismarked (desk : Desk ω) {c : Command} {world : ω} (h : Mismarked s world c) :
    ∃ fields left, (answer s desk c).outcomeIn world = (.ok (.withMark fields), left) := by
  obtain ⟨rfl, fields, left, -, hfields, -⟩ := h
  exact ⟨fields, left, Work.outcomeIn_bind_eq_ok_iff.mpr ⟨fields, left, hfields, rfl⟩⟩

/-! ### Endings -/

theorem outcomeIn_answerAlways (s : Service η ω) (desk : Desk ω) (c : Command) (world : ω) :
    (answerAlways s desk c).outcomeIn world =
      match (answer s desk c).outcomeIn world with
      | (.ok a, left) => (.ok a, left)
      | (.error f, left) =>
        match answerOf? f with
        | some a => (.ok a, left)
        | none => (.error f, left) := by
  unfold answerAlways
  rw [Work.outcomeIn_bind, Work.outcomeIn_attempt]
  rcases (answer s desk c).outcomeIn world with ⟨f | a, left⟩
  · simp only
    cases answerOf? f <;> rfl
  · rfl

/-- Either the command goes astray and nothing answers it, or there is an answer, and it is marked
unless it is a version document with a mark of its own. -/
theorem answerAlways_cases (s : Service η ω) (desk : Desk ω) (c : Command) (world : ω) :
    Astray s desk world c ∧ Strays (answerAlways s desk c) world ∨
      ¬ Astray s desk world c ∧ ∃ a left, (answerAlways s desk c).outcomeIn world = (.ok a, left) ∧
        (a.Marked ↔ ¬ Mismarked s world c) ∧
        (Mismarked s world c → ∃ fields, a = .withMark fields) := by
  rw [← strays_answer_iff]
  have halways := outcomeIn_answerAlways s desk c world
  cases hanswer : (answer s desk c).outcomeIn world with
  | mk result left =>
    rw [hanswer] at halways
    cases result with
    | ok a =>
      refine Or.inr ⟨?_, a, left, halways, marked_of_answer hanswer, fun hmis => ?_⟩
      · rintro ⟨f, left', hf, -⟩
        rw [hanswer] at hf
        cases hf
      · obtain ⟨fields, left', ha⟩ := answer_of_mismarked desk hmis
        rw [hanswer] at ha
        cases ha
        exact ⟨fields, rfl⟩
    | error f =>
      cases hanswerOf : answerOf? f with
      | none =>
        simp only [hanswerOf] at halways
        exact Or.inl ⟨⟨f, left, hanswer, hanswerOf⟩, f, left, halways, hanswerOf⟩
      | some a =>
        simp only [hanswerOf] at halways
        have hmis : ¬ Mismarked s world c := by
          intro hmis
          obtain ⟨fields, left', ha⟩ := answer_of_mismarked desk hmis
          rw [hanswer] at ha
          cases ha
        refine Or.inr ⟨?_, a, left, halways, iff_of_true (marked_of_answerOf? hanswerOf) hmis,
          fun h => absurd h hmis⟩
        rintro ⟨f', left', hf', hstray⟩
        rw [hanswer] at hf'
        cases hf'
        exact absurd (hanswerOf.symm.trans hstray) (by simp)

theorem print_of_long {a : Answer} (h : Long a.payload.integers) :
    Ending.print a = .error (.unexpected .number) := by
  have hcheck : checkShort a.payload.integers = .error (.unexpected .number) := by
    obtain ⟨f, hf, -⟩ := stray_checkShort_iff.mpr h
    unfold checkShort at hf ⊢
    split at hf
    · cases hf
    · next hlong => rw [if_neg hlong]
  rw [Ending.print, hcheck]
  rfl

theorem print_of_not_long {a : Answer} (h : ¬ Long a.payload.integers) :
    Ending.print a = .ok (.ofAnswer a) := by
  rw [Ending.print, checkShort_eq_ok_iff.mpr h]
  rfl

/-- The answer to the command holds an integer with too many digits to be written. -/
def Unwritable (s : Service η ω) (desk : Desk ω) (world : ω) (c : Command) : Prop :=
  ∃ a left, (answerAlways s desk c).outcomeIn world = (.ok a, left) ∧ Long a.payload.integers

/-- The answer to the command is one object; it is printed, and nothing else, and the program ends
with 0 if the object has the mark of success and with 1 if not. -/
def Tells (s : Service η ω) (desk : Desk ω) (args : List String) (world : ω) : Prop :=
  ∃ i a fields left, Invocation.ofArguments args = .ok i ∧
    (answerAlways s desk i.command).outcomeIn world = (.ok a, left) ∧ a.payload = .obj fields ∧
    (run s desk args).outcomeIn world =
      (.ok ⟨if tellsSuccess fields then 0 else 1, (Json.obj fields).indented ++ "\n"⟩, left)

variable {args : List String} {i : Invocation}

theorem outcomeIn_run (h : Invocation.ofArguments args = .ok i) (world : ω) :
    (run s desk args).outcomeIn world =
      match (answerAlways s desk i.command).outcomeIn world with
      | (.ok a, left) => (Ending.print a, left)
      | (.error f, left) => (.error f, left) := by
  unfold run
  rw [h]
  dsimp only
  rw [Work.outcomeIn_bind]
  rcases (answerAlways s desk i.command).outcomeIn world with ⟨_ | _, left⟩ <;> rfl

/-- A marked answer that can be written is what the program tells, and no other answer is. -/
theorem tells_of_answer {world left : ω} {a : Answer} (h : Invocation.ofArguments args = .ok i)
    (hanswer : (answerAlways s desk i.command).outcomeIn world = (.ok a, left)) :
    Tells s desk args world ↔ ¬ Long a.payload.integers ∧ a.Marked := by
  have hrun : (run s desk args).outcomeIn world = (Ending.print a, left) := by
    rw [outcomeIn_run h, hanswer]
  constructor
  · rintro ⟨i', a', fields, left', hi', hanswer', hpayload, hprint⟩
    obtain rfl : i = i' := Except.ok.inj (h.symm.trans hi')
    obtain ⟨rfl, rfl⟩ : a = a' ∧ left = left' := by
      rw [hanswer] at hanswer'
      cases hanswer'
      exact ⟨rfl, rfl⟩
    rw [hrun] at hprint
    by_cases hlong : Long a.payload.integers
    · rw [print_of_long hlong] at hprint
      cases hprint
    · refine ⟨hlong, fields, hpayload, ?_⟩
      rw [print_of_not_long hlong] at hprint
      -- the program ends with 0 for the answer, and is to end with 0 for the fields
      have hexit : (if a.success then 0 else 1) = if tellsSuccess fields then 0 else 1 :=
        congrArg Ending.exit (Except.ok.inj (congrArg Prod.fst hprint))
      cases hs : a.success <;> cases ht : tellsSuccess fields <;> simp [hs, ht] at hexit ⊢
  · rintro ⟨hlong, fields, hpayload, hsuccess⟩
    refine ⟨i, a, fields, left, h, hanswer, hpayload, ?_⟩
    rw [hrun, print_of_not_long hlong, Ending.ofAnswer, hpayload, hsuccess]

/-- The program prints one object and ends with 0 or 1 as the object tells of success or not, unless
a part of the command goes astray, or the answer cannot be written, or it is a version document with
a mark of its own.  In the first two cases the program ends with a failure and prints nothing, and
in the third it ends with 0 although the object that it prints does not tell of success. -/
theorem tells_iff (s : Service η ω) (desk : Desk ω) (h : Invocation.ofArguments args = .ok i)
    (world : ω) :
    (Tells s desk args world ↔
      ¬ Astray s desk world i.command ∧ ¬ Unwritable s desk world i.command ∧
        ¬ Mismarked s world i.command) ∧
    (Astray s desk world i.command ∨ Unwritable s desk world i.command →
      Strays (run s desk args) world) ∧
    (Mismarked s world i.command → ¬ Unwritable s desk world i.command →
      ∃ fields left, (run s desk args).outcomeIn world =
          (.ok ⟨0, (Json.obj fields).indented ++ "\n"⟩, left) ∧
        tellsSuccess fields = false) := by
  rcases answerAlways_cases s desk i.command world with
    ⟨hastray, f, left, hf, hstray⟩ | ⟨hsteady, a, left, ha, hmarked, hmismarked⟩
  · -- nothing answers the command
    have hnone : ∀ a left', (answerAlways s desk i.command).outcomeIn world ≠ (.ok a, left') := by
      intro a left' ha
      rw [hf] at ha
      cases ha
    have hstrays : Strays (run s desk args) world := ⟨f, left, by rw [outcomeIn_run h, hf], hstray⟩
    refine ⟨iff_of_false ?_ fun hall => hall.1 hastray, fun _ => hstrays, fun hmis => ?_⟩
    · rintro ⟨i', a, _, left', hi', ha, -⟩
      obtain rfl : i = i' := Except.ok.inj (h.symm.trans hi')
      exact hnone a left' ha
    · obtain ⟨fields, left', hanswer⟩ := answer_of_mismarked desk hmis
      refine absurd ?_ (hnone (.withMark fields) left')
      rw [outcomeIn_answerAlways, hanswer]
  · -- there is an answer, and it is told if it can be written and is marked
    have hunwritable : Unwritable s desk world i.command ↔ Long a.payload.integers := by
      constructor
      · rintro ⟨a', left', ha', hlong⟩
        rw [ha] at ha'
        cases ha'
        exact hlong
      · exact fun hlong => ⟨a, left, ha, hlong⟩
    have hrun : (run s desk args).outcomeIn world = (Ending.print a, left) := by
      rw [outcomeIn_run h, ha]
    rw [tells_of_answer h ha, hunwritable, hmarked]
    refine ⟨⟨fun ⟨hshort, hmis⟩ => ⟨hsteady, hshort, hmis⟩, And.right⟩, ?_, fun hmis hshort => ?_⟩
    · rintro (hastray | hlong)
      · exact absurd hastray hsteady
      · exact ⟨_, left, by rw [hrun, print_of_long hlong], stray_number⟩
    · obtain ⟨fields, rfl⟩ := hmismarked hmis
      refine ⟨_, left, by rw [hrun, print_of_not_long hshort]; rfl, ?_⟩
      have hunmarked : ¬ (Answer.withMark fields).Marked := fun hmark => hmarked.mp hmark hmis
      exact Bool.eq_false_iff.mpr fun htells => hunmarked ⟨_, rfl, htells.symm⟩

/-- A service without builders, to which Dolos replies with a version document. -/
def versioned (document : Json.Fields) : Service Empty Unit where
  network := .testnet
  backend := { Lookup.serving [] with version := pure document }
  builder := ⟨fun h => h.elim, fun h => h.elim⟩
  start _ _ := throw (.unavailable .noneReachable)

/-- A desk at which nothing lies. -/
def bareDesk : Desk Unit where
  input := return .ok ""
  file path := return .error (missingFile path)

/-- A version document with a mark of failure. -/
def disowned : Json.Fields :=
  [("success", .bool false), ("version", .str "1")]

theorem tells_iff_versioned :
    Tells (versioned [("version", .str "1")]) bareDesk ["version"] () ∧
      ∃ fields left, (run (versioned disowned) bareDesk ["version"]).outcomeIn () =
          (.ok ⟨0, (Json.obj fields).indented ++ "\n"⟩, left) ∧
        tellsSuccess fields = false := by
  have hargs : Invocation.ofArguments ["version"] = .ok ⟨false, .version⟩ := rfl
  refine ⟨?_, ?_⟩
  · refine (tells_iff (versioned [("version", .str "1")]) bareDesk hargs ()).1.mpr ⟨?_, ?_, ?_⟩
    · rintro ⟨f, left, hf, -⟩
      cases hf
    · rintro ⟨a, left, ha, hlong⟩
      cases ha
      obtain ⟨n, hn, -⟩ := hlong
      cases hn
    · rintro ⟨-, fields, left, v, hfields, hv, -⟩
      cases hfields
      cases hv
  · refine (tells_iff (versioned disowned) bareDesk hargs ()).2.2 ?_ ?_
    · exact ⟨rfl, disowned, (), .bool false, rfl, rfl, by simp⟩
    · rintro ⟨a, left, ha, hlong⟩
      cases ha
      obtain ⟨n, hn, -⟩ := hlong
      cases hn

/-- The mark of failure in a version document is printed, and the program ends with 0. -/
theorem disowned_not_told :
    (run (versioned disowned) bareDesk ["version"]).outcomeIn () =
        (.ok ⟨0, "\x7b\n  \"success\": false,\n  \"version\": \"1\"\n\x7d\n"⟩, ()) ∧
      ¬ Tells (versioned disowned) bareDesk ["version"] () := by
  refine ⟨rfl, ?_⟩
  rintro ⟨i, a, fields, left, hi, ha, hpayload, hrun⟩
  cases hi
  cases ha
  cases hpayload
  cases hrun

end TxDraft.CommandLine
