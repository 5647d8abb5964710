import TxDraft.Proofs.Provider.Dolos

/-!
# Where the pages of a Dolos server end

Any server may stand behind the address, and it may answer the request for a page with anything.
The pages are asked for one after the other as long as they are full (`Pages`), and what is made of
the first response that is no full page is the end of the listing (`outcomeIn_of_paged`).

A listing is whole if it ends with a short page, or at once for an address that is not known.  What
comes out is whole or a failure of the provider, unless behind a full page the address is not known
any more, or a document comes that is no list: then the pages so far pass for all there is
(`unspentAt_whole_iff`).
-/

namespace TxDraft.Dolos

variable {σ : Type}

/-! ### Responses -/

/-- The records that a response lists. -/
def listed? : Except Accident Reply → Option (List Json)
  | .ok reply =>
    match reply.isSuccess, reply.document with
    | true, .ok (.arr records) => some records
    | _, _ => none
  | .error _ => none

/-- Does the response list as many records as a page can have? -/
def isFull (response : Except Accident Reply) : Bool :=
  (listed? response).any (pageSize ≤ ·.length)

/-- Does the response say that the address is not known? -/
def isUnknown : Except Accident Reply → Bool
  | .ok reply => reply.status = 404
  | .error _ => false

/-- The records that are taken from a document: those of a list, and none from anything else. -/
def recordsOf : Json → List Json
  | .arr records => records
  | _ => []

theorem listed?_eq_some_iff {reply : Reply} {records : List Json} :
    listed? (.ok reply) = some records ↔
      reply.isSuccess = true ∧ reply.document = .ok (.arr records) := by
  simp only [listed?]
  constructor
  · intro h
    split at h
    · next hsuccess hdocument =>
      cases h
      exact ⟨hsuccess, hdocument⟩
    · cases h
  · rintro ⟨hsuccess, hdocument⟩
    simp only [hsuccess, hdocument]

theorem answered_eq_arr_iff {path : String} {response : Except Accident Reply}
    {records : List Json} :
    answered path response = .ok (.arr records) ↔ listed? response = some records := by
  cases response with
  | error a => exact iff_of_false nofun nofun
  | ok reply =>
    rw [answered, document_eq_ok_iff, listed?_eq_some_iff]
    constructor
    · rintro (⟨-, hnull⟩ | ⟨-, hlists⟩)
      · cases hnull
      · exact hlists
    · rintro ⟨hsuccess, hdocument⟩
      exact .inr ⟨status_ne_of_isSuccess hsuccess, hsuccess, hdocument⟩

/-! ### One page after the other -/

section Pages

variable (w : World σ) (s : Settings) (url : Url)

/-- From this world on the pages are full, the first of them with this number, and list these
records; then comes a response that is no full page. -/
inductive Pages : Nat → σ → List (List Json) → Except Accident Reply → σ → Prop
  | last {number : Nat} {world left : σ} {response : Except Accident Reply}
      (asked : (w.get (url.withQuery (pageQuery number)) s.requestTimeout).run world =
        (response, left))
      (short : isFull response = false) : Pages number world [] response left
  | next {number : Nat} {world between left : σ} {response last : Except Accident Reply}
      {records : List Json} {others : List (List Json)}
      (asked : (w.get (url.withQuery (pageQuery number)) s.requestTimeout).run world =
        (response, between))
      (lists : listed? response = some records) (full : pageSize ≤ records.length)
      (rest : Pages (number + 1) between others last left) :
      Pages number world (records :: others) last left

end Pages

variable {w : World σ} {s : Settings} {url : Url} {address : String}

theorem isFull_iff {response : Except Accident Reply} :
    isFull response = true ↔ ∃ records, listed? response = some records ∧
      pageSize ≤ records.length := by
  simp [isFull, Option.any_eq_true]

/-- The pages end, or every page that is asked for is full. -/
theorem exists_pages_or_full (number : Nat) (world : σ) :
    (∃ full last left, Pages w s url number world full last left) ∨
      ∀ n, isFull ((w.get (url.withQuery (pageQuery (number + n))) s.requestTimeout).run
        ((List.range' number n).foldl (afterPage w s url) world)).1 = true := by
  by_cases hends : ∃ n, isFull ((w.get (url.withQuery (pageQuery (number + n)))
      s.requestTimeout).run ((List.range' number n).foldl (afterPage w s url) world)).1 = false
  · left
    obtain ⟨n, hn⟩ := hends
    induction n generalizing number world with
    | zero => exact ⟨[], _, _, .last rfl hn⟩
    | succ n ih =>
      rcases hasked : (w.get (url.withQuery (pageQuery number)) s.requestTimeout).run world with
        ⟨response, between⟩
      cases hfull : isFull response with
      | false => exact ⟨[], _, _, .last hasked hfull⟩
      | true =>
        obtain ⟨records, hrecords, hlong⟩ := isFull_iff.mp hfull
        have hafter : afterPage w s url world number = between := by rw [afterPage, hasked]
        rw [List.range'_succ, List.foldl_cons, hafter, ← Nat.succ_add_eq_add_succ] at hn
        obtain ⟨full, last, left, hpages⟩ := ih (number + 1) between hn
        exact ⟨_, last, left, .next hasked hrecords hlong hpages⟩
  · exact .inr fun n => by simpa using fun h => hends ⟨n, h⟩

/-- What is found is what the full pages list, and behind it what the response after them lists,
if it is a list. -/
theorem outcomeIn_of_paged (hlocated : (do World.target (← base s) (unspentPath address)) = .ok url)
    {number : Nat} {world left : σ} {full : List (List Json)} {last : Except Accident Reply}
    (h : Pages w s url number world full last left) (found : List Json) :
    (repeatM (turn (page w s address)) (number, found)).outcomeIn world =
      ((answered (unspentPath address) last).map fun v => found ++ full.flatten ++ recordsOf v,
        left) := by
  have : Nonempty σ := ⟨world⟩
  induction h generalizing found with
  | @last number world left response asked short =>
    rw [outcomeIn_repeatM_turn, outcomeIn_page hlocated asked]
    rcases hanswered : answered (unspentPath address) response with f | v
    · rfl
    · cases v with
      | arr records =>
        have hshort : records.length < pageSize := by
          by_contra hlong
          have hfull := isFull_iff.mpr
            ⟨records, answered_eq_arr_iff.mp hanswered, Nat.le_of_not_lt hlong⟩
          rw [short] at hfull
          cases hfull
        simp [hshort, recordsOf]
      | _ => simp [recordsOf]
  | @next number world between left response last records others asked lists full rest ih =>
    have hanswered : answered (unspentPath address) response = .ok (.arr records) :=
      answered_eq_arr_iff.mpr lists
    rw [outcomeIn_repeatM_turn, outcomeIn_page hlocated asked, hanswered]
    simp only [Nat.not_lt.mpr full, if_false]
    rw [ih, List.flatten_cons, List.append_assoc found]

/-! ### Whole listings -/

theorem Pages.not_full {number : Nat} {world left : σ} {full : List (List Json)}
    {last : Except Accident Reply} (h : Pages w s url number world full last left) :
    isFull last = false := by
  induction h with
  | last _ short => exact short
  | next _ _ _ _ ih => exact ih

/-- With a log the pages are the same, and the log grows by the requests for them. -/
theorem Pages.logged {number : Nat} {world left : σ} {full : List (List Json)}
    {last : Except Accident Reply} (h : Pages w s url number world full last left)
    (log : List Url) :
    Pages w.logged s url number (world, log) full last
      (left, log ++ (List.range' number (full.length + 1)).map fun n =>
        url.withQuery (pageQuery n)) := by
  induction h generalizing log with
  | last asked short =>
    refine .last ?_ short
    rw [World.get_logged, asked]
    rfl
  | @next number world between left response last records others asked lists full rest ih =>
    have hasked : (w.logged.get (url.withQuery (pageQuery number)) s.requestTimeout).run
        (world, log) = (response, (between, log ++ [url.withQuery (pageQuery number)])) := by
      rw [World.get_logged, asked]
    have hrest := ih (log ++ [url.withQuery (pageQuery number)])
    rw [List.append_assoc] at hrest
    rw [List.length_cons, List.range'_succ]
    exact .next hasked lists full hrest

/-- What comes out is all there is: what the full pages and a short one behind them list, or nothing
for an address that is not known, unless the provider failed. -/
def Whole (full : List (List Json)) (last : Except Accident Reply)
    (result : Attempt (List Json)) : Prop :=
  (∃ short, listed? last = some short ∧ short.length < pageSize ∧
      result = .ok (full.flatten ++ short)) ∨
    (full = [] ∧ isUnknown last = true ∧ result = .ok []) ∨
    ∃ cause, result = .error (.provider cause)

/-- The response ends a listing that is not at its end: the address is not known any more behind a
full page, or the document is no list. -/
inductive Misread (full : List (List Json)) : Except Accident Reply → Prop
  | vanished {reply : Reply} (missing : reply.status = 404) (behind : full ≠ []) :
      Misread full (.ok reply)
  | foreign {reply : Reply} {v : Json} (success : reply.isSuccess = true)
      (document : reply.document = .ok v) (unlisted : ∀ records, v ≠ .arr records) :
      Misread full (.ok reply)

theorem recordsOf_of_unlisted {v : Json} (h : ∀ records, v ≠ .arr records) : recordsOf v = [] := by
  cases v with
  | arr records => exact absurd rfl (h records)
  | _ => rfl

/-- An address that is not known has a whole listing if nothing was listed before. -/
theorem whole_iff_of_missing {full : List (List Json)} {reply : Reply}
    (hmissing : reply.status = 404) :
    Whole full (.ok reply) (.ok full.flatten) ↔ ¬ Misread full (.ok reply) := by
  have hsuccess : ¬ reply.isSuccess = true := fun h => status_ne_of_isSuccess h hmissing
  constructor
  · rintro (⟨short, hshort, -⟩ | ⟨rfl, -⟩ | ⟨cause, ⟨⟩⟩) hmisread
    · exact hsuccess (listed?_eq_some_iff.mp hshort).1
    · cases hmisread with
      | vanished _ behind => exact behind rfl
      | foreign success => exact hsuccess success
  · intro hread
    have hfirst : full = [] := by
      by_contra hne
      exact hread (.vanished hmissing hne)
    subst hfirst
    exact .inr (.inl ⟨rfl, decide_eq_true hmissing, rfl⟩)

/-- A document that could be read has a whole listing if it is a list. -/
theorem whole_iff_of_document {full : List (List Json)} {reply : Reply} {v : Json}
    (hlast : isFull (.ok reply) = false) (hsuccess : reply.isSuccess = true)
    (hdocument : reply.document = .ok v) :
    Whole full (.ok reply) (.ok (full.flatten ++ recordsOf v)) ↔ ¬ Misread full (.ok reply) := by
  have hstatus : reply.status ≠ 404 := status_ne_of_isSuccess hsuccess
  by_cases hlist : ∃ records, v = .arr records
  · obtain ⟨records, rfl⟩ := hlist
    have hlisted : listed? (.ok reply) = some records :=
      listed?_eq_some_iff.mpr ⟨hsuccess, hdocument⟩
    have hshort : records.length < pageSize := by
      by_contra hlong
      rw [isFull_iff.mpr ⟨records, hlisted, Nat.le_of_not_lt hlong⟩] at hlast
      cases hlast
    refine iff_of_true (.inl ⟨records, hlisted, hshort, rfl⟩) ?_
    rintro (⟨hmissing, -⟩ | ⟨-, hread, hunlisted⟩)
    · exact hstatus hmissing
    · rw [hdocument] at hread
      exact hunlisted records (Except.ok.inj hread).symm
  · have hunlisted : ∀ records, v ≠ .arr records := fun records h => hlist ⟨records, h⟩
    refine iff_of_false ?_ (not_not_intro (.foreign hsuccess hdocument hunlisted))
    rintro (⟨short, hlisted, -⟩ | ⟨-, hunknown, -⟩ | ⟨cause, ⟨⟩⟩)
    · have hread := (listed?_eq_some_iff.mp hlisted).2
      rw [hdocument] at hread
      exact hunlisted short (Except.ok.inj hread)
    · exact hstatus (of_decide_eq_true hunknown)

/-- An accident is the failure that a listing may end with if it happened in a transport. -/
theorem whole_iff_of_accident {full : List (List Json)} (a : Accident) (path : String) :
    Whole full (.error a) ((answered path (.error a)).map fun v => full.flatten ++ recordsOf v) ↔
      a.isTransport = true := by
  cases htransport : a.isTransport with
  | true => simp [Whole, answered, word, htransport]
  | false => simp [Whole, listed?, isUnknown, answered, word, htransport]

/-- A reply that is neither missing nor a success ends a listing with a failure. -/
theorem whole_iff_of_refusal {full : List (List Json)} {reply : Reply} {path : String}
    (hmissing : reply.status ≠ 404)
    (hread : ¬ (reply.isSuccess = true ∧ ∃ v, reply.document = .ok v)) :
    Whole full (.ok reply) ((document path reply).map fun v => full.flatten ++ recordsOf v) ↔
      ¬ Misread full (.ok reply) := by
  refine iff_of_true (.inr (.inr ?_)) ?_
  · rw [document, if_neg hmissing]
    cases hsuccess : reply.isSuccess with
    | false => exact ⟨_, rfl⟩
    | true =>
      cases hdocument : reply.document with
      | error fault => exact ⟨_, rfl⟩
      | ok v => exact absurd ⟨hsuccess, v, hdocument⟩ hread
  · rintro (⟨h404, -⟩ | ⟨hsuccess, hdocument, -⟩)
    · exact hmissing h404
    · exact hread ⟨hsuccess, _, hdocument⟩

/-- What a response ends a listing with is whole, unless the response is misread or there was an
accident of another kind than in a transport. -/
theorem whole_iff {full : List (List Json)} {last : Except Accident Reply}
    (hlast : isFull last = false) (path : String) :
    Whole full last ((answered path last).map fun v => full.flatten ++ recordsOf v) ↔
      ¬ Misread full last ∧ ¬ ∃ a, last = .error a ∧ a.isTransport = false := by
  cases last with
  | error a =>
    have hmisread : ¬ Misread full (.error a) := by
      intro h
      cases h
    rw [whole_iff_of_accident, and_iff_right hmisread]
    simp
  | ok reply =>
    have hreplied : ¬ ∃ a, (.ok reply : Except Accident Reply) = .error a ∧
        a.isTransport = false := by
      rintro ⟨a, ⟨⟩, -⟩
    rw [and_iff_left hreplied, answered]
    by_cases hmissing : reply.status = 404
    · have hread : document path reply = .ok .null := if_pos hmissing
      rw [hread]
      show Whole full (.ok reply) (.ok (full.flatten ++ [])) ↔ _
      rw [List.append_nil]
      exact whole_iff_of_missing hmissing
    · by_cases hread : reply.isSuccess = true ∧ ∃ v, reply.document = .ok v
      · obtain ⟨hsuccess, v, hdocument⟩ := hread
        rw [document_eq_ok hsuccess hdocument]
        exact whole_iff_of_document hlast hsuccess hdocument
      · exact whole_iff_of_refusal hmissing hread

/-- A response that is misread is taken for one with no records. -/
theorem answered_of_misread {full : List (List Json)} {last : Except Accident Reply}
    (h : Misread full last) (path : String) :
    ∃ v, answered path last = .ok v ∧ recordsOf v = [] := by
  rcases h with ⟨hmissing, -⟩ | ⟨hsuccess, hdocument, hunlisted⟩
  · exact ⟨.null, if_pos hmissing, rfl⟩
  · exact ⟨_, document_eq_ok hsuccess hdocument, recordsOf_of_unlisted hunlisted⟩

/-- Whatever a server answers, the pages end, or every page that is asked for is full.  If they end
then so does the listing, after one request for each.  It is whole unless its end is misread, or
there was an accident of another kind than in a transport; and if its end is misread, what the full
pages list passes for all there is. -/
theorem unspentAt_whole_iff
    (hlocated : (do World.target (← base s) (unspentPath address)) = .ok url) (world : σ) :
    ((∃ full last left, Pages w s url 1 world full last left) ∨
      ∀ n, isFull ((w.get (url.withQuery (pageQuery (1 + n))) s.requestTimeout).run
        ((List.range' 1 n).foldl (afterPage w s url) world)).1 = true) ∧
    ∀ full last left, Pages w s url 1 world full last left →
      ∃ result, (unspentAt w s address).outcomeIn world = (result, left) ∧
        (unspentAt w.logged s address).outcomeIn (world, []) =
          (result, (left, (List.range' 1 (full.length + 1)).map fun number =>
            url.withQuery (pageQuery number))) ∧
        (Whole full last result ↔
          ¬ Misread full last ∧ ¬ ∃ a, last = .error a ∧ a.isTransport = false) ∧
        (Misread full last → result = .ok full.flatten) := by
  refine ⟨exists_pages_or_full 1 world, fun full last left h => ?_⟩
  refine ⟨_, outcomeIn_of_paged hlocated h [], outcomeIn_of_paged hlocated (h.logged []) [],
    whole_iff h.not_full _, fun hmisread => ?_⟩
  obtain ⟨v, hanswered, hrecords⟩ := answered_of_misread hmisread (unspentPath address)
  rw [hanswered, Traversal.map_ok, hrecords, List.nil_append, List.append_nil]

/-! ### Two servers with one full page -/

theorem listed?_fullPageText :
    listed? (.ok ⟨200, String.ofList fullPageText⟩) = some (List.replicate 100 (.obj [])) :=
  listed?_eq_some_iff.mpr ⟨rfl, document_ofList (by decide) readValue_fullPageText⟩

/-- Whatever comes second, the pages of a server with one full page end with it. -/
theorem pages_of_one_full {w : World Unit} {last : Except Accident Reply}
    (hget : ∀ url, (w.get url Settings.default.requestTimeout).run () =
      (if url = addressUrl.withQuery (pageQuery 1) then
        .ok ⟨200, String.ofList fullPageText⟩ else last, ()))
    (hlast : isFull last = false) :
    Pages w Settings.default addressUrl 1 () [List.replicate 100 (.obj [])] last () := by
  have hother : addressUrl.withQuery (pageQuery 2) ≠ addressUrl.withQuery (pageQuery 1) :=
    fun h => absurd (withQuery_pageQuery_injective h) (by decide)
  refine .next ((hget _).trans (by rw [if_pos rfl])) listed?_fullPageText (by simp [pageSize])
    (.last ?_ hlast)
  exact (hget _).trans (by rw [if_neg hother])

theorem pages_fullPage :
    Pages fullPage Settings.default addressUrl 1 () [List.replicate 100 (.obj [])]
      (.ok ⟨200, "[]"⟩) () := by
  refine pages_of_one_full (fun url => ?_) (by decide +kernel)
  show (Except.ok _, ()) = _
  by_cases hfirst : url = addressUrl.withQuery (pageQuery 1)
  · rw [if_pos hfirst, if_pos hfirst]
  · rw [if_neg hfirst, if_neg hfirst]

theorem unspentAt_whole_iff_fullPage :
    (do World.target (← base Settings.default) (unspentPath "addr1")) = .ok addressUrl ∧
      Pages fullPage Settings.default addressUrl 1 () [List.replicate 100 (.obj [])]
        (.ok ⟨200, "[]"⟩) () ∧
      ∃ result, (unspentAt fullPage Settings.default "addr1").outcomeIn () = (result, ()) ∧
        Whole [List.replicate 100 (.obj [])] (.ok ⟨200, "[]"⟩) result := by
  have hlocated := serves_fullPage.located
  obtain ⟨result, hrun, -, hwhole, -⟩ :=
    (unspentAt_whole_iff hlocated ()).2 _ _ _ pages_fullPage
  refine ⟨hlocated, pages_fullPage, result, hrun, hwhole.mpr ⟨?_, nofun⟩⟩
  rintro (⟨hmissing, -⟩ | ⟨-, hdocument, hunlisted⟩)
  · cases hmissing
  · have hempty : (⟨200, String.ofList ['[', ']']⟩ : Reply).document = .ok (.arr []) :=
      document_ofList (by decide) rfl
    exact hunlisted [] (Except.ok.inj (hdocument.symm.trans hempty))

/-- A server with one full page of records, and behind it no such address. -/
def forgetting : World Unit where
  get url _ := pure (if url = addressUrl.withQuery (pageQuery 1) then
    .ok ⟨200, String.ofList fullPageText⟩ else .ok ⟨404, ""⟩)
  connect _ _ := pure (.ok ())
  send _ := pure (.ok ())
  receive := pure (.ok "")
  close := pure ()

/-- The records of the first page pass for all there are, although the address is not known behind
it. -/
theorem forgetting_not_whole :
    ∃ full last result, Pages forgetting Settings.default addressUrl 1 () full last () ∧
      (unspentAt forgetting Settings.default "addr1").outcomeIn () = (result, ()) ∧
      result = .ok (List.replicate 100 (.obj [])) ∧ ¬ Whole full last result := by
  have hpages : Pages forgetting Settings.default addressUrl 1 () [List.replicate 100 (.obj [])]
      (.ok ⟨404, ""⟩) () := pages_of_one_full (fun url => rfl) rfl
  have hrun := outcomeIn_of_paged serves_fullPage.located hpages []
  have hread : answered (unspentPath "addr1") (.ok ⟨404, ""⟩) = .ok .null := rfl
  rw [hread] at hrun
  refine ⟨_, _, .ok (List.replicate 100 (.obj [])), hpages, ?_, rfl, ?_⟩
  · simpa [unspentAt, recordsOf] using hrun
  · simp [Whole, listed?, Reply.isSuccess]

end TxDraft.Dolos
