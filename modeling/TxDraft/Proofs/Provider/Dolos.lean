import Mathlib.Data.List.Basic
import TxDraft.Proofs.Json.Parser
import TxDraft.Proofs.Traversal
import TxDraft.Proofs.World
import TxDraft.Provider.Dolos

/-!
# Records of a Dolos server

A server that holds the records of an address serves them page by page (`Serves`).  However many
there are, they come back as they are, after one request for every full page and one more
(`unspentAt_eq_records`).  The loop is followed by strong induction on the number of records that
are behind the pages asked for so far (`outcomeIn_of_pages`).
-/

namespace TxDraft.Dolos

variable {σ : Type}

/-! ### Requests -/

/-- The document in a response to what was asked for under a path. -/
def answered (path : String) : Except Accident Reply → Attempt Json
  | .ok reply => document path reply
  | .error a => .error (word (.unexpected (.accident a)))

/-- A request that can be made asks once, and reads the response. -/
theorem outcomeIn_fetch {s : Settings} {path : String} {url : Url}
    (h : (do World.target (← base s) path) = .ok url) (w : World σ)
    (query : List (String × String)) (world : σ) :
    (fetch w s path query).outcomeIn world =
      match (w.get (if query.isEmpty then url else url.withQuery query) s.requestTimeout).run
          world with
      | (response, left) => (answered path response, left) := by
  unfold fetch
  rw [h, Work.outcomeIn_bind, Work.outcomeIn_ofAttempt]
  simp only [Work.outcomeIn_bind, Work.outcomeIn_mapFailure, Work.outcomeIn_ofAccident]
  rcases (w.get (if query.isEmpty then url else url.withQuery query) s.requestTimeout).run world
    with ⟨_ | reply, left⟩ <;> rfl

theorem status_ne_of_isSuccess {reply : Reply} (h : reply.isSuccess = true) :
    reply.status ≠ 404 := by
  intro h404
  rw [Reply.isSuccess, h404] at h
  exact absurd h (by decide)

/-- A document is what a successful reply holds, or null for what is not found. -/
theorem document_eq_ok_iff {path : String} {reply : Reply} {v : Json} :
    document path reply = .ok v ↔
      reply.status = 404 ∧ v = .null ∨
        reply.status ≠ 404 ∧ reply.isSuccess = true ∧ reply.document = .ok v := by
  unfold document
  by_cases h404 : reply.status = 404
  · simp only [h404, if_true, true_and, ne_eq, not_true, false_and, or_false, Except.ok.injEq]
    exact eq_comm
  · rw [if_neg h404]
    cases reply.isSuccess with
    | true => simp only [h404, if_true, Traversal.mapError_eq_ok_iff, false_and, false_or, ne_eq,
        not_false_iff, true_and]
    | false => simp [h404]

theorem document_eq_ok {path : String} {reply : Reply} {v : Json} (h : reply.isSuccess = true)
    (hdocument : reply.document = .ok v) : document path reply = .ok v :=
  document_eq_ok_iff.mpr (.inr ⟨status_ne_of_isSuccess h, h, hdocument⟩)

/-! ### Pages -/

/-- The records on a page of a list of records, the first page being number one. -/
def pageOf (records : List Json) (number : Nat) : List Json :=
  (records.drop ((number - 1) * pageSize)).take pageSize

/-- Where the settings lead there is a server that holds records for an address: from every state
of the world in which it is ready, it replies to the request for a page with the list of the records
on that page, and is ready again. -/
structure Serves (w : World σ) (s : Settings) (address : String) (records : List Json) (url : Url)
    (ready : σ → Prop) : Prop where
  located : (do World.target (← base s) (unspentPath address)) = .ok url
  replies : ∀ number world, 0 < number → ready world → ∃ reply left,
    (w.get (url.withQuery (pageQuery number)) s.requestTimeout).run world = (.ok reply, left) ∧
      reply.isSuccess = true ∧ reply.document = .ok (.arr (pageOf records number)) ∧ ready left

/-- The world after a page was asked for. -/
def afterPage (w : World σ) (s : Settings) (url : Url) (world : σ) (number : Nat) : σ :=
  ((w.get (url.withQuery (pageQuery number)) s.requestTimeout).run world).2

/-- A page is the document in the response to the request for it. -/
theorem outcomeIn_page {w : World σ} {s : Settings} {address : String} {url : Url}
    (hlocated : (do World.target (← base s) (unspentPath address)) = .ok url)
    {number : Nat} {world left : σ} {response : Except Accident Reply}
    (asked : (w.get (url.withQuery (pageQuery number)) s.requestTimeout).run world =
      (response, left)) :
    (page w s address number).outcomeIn world =
      (answered (unspentPath address) response, left) := by
  have hquery : (pageQuery number).isEmpty = false := rfl
  rw [page, outcomeIn_fetch hlocated, hquery, if_neg Bool.false_ne_true, asked]

theorem Serves.outcomeIn_page {w : World σ} {s : Settings} {address : String}
    {records : List Json} {url : Url} {ready : σ → Prop} (h : Serves w s address records url ready)
    {number : Nat} (hnumber : 0 < number) {world : σ} (hworld : ready world) :
    (page w s address number).outcomeIn world =
        (.ok (.arr (pageOf records number)), afterPage w s url world number) ∧
      ready (afterPage w s url world number) := by
  obtain ⟨reply, left, hget, hsuccess, hdocument, hleft⟩ := h.replies number world hnumber hworld
  rw [Dolos.outcomeIn_page h.located hget, answered, document_eq_ok hsuccess hdocument, afterPage,
    hget]
  exact ⟨rfl, hleft⟩

/-! ### The loop over pages -/

theorem length_pageOf (records : List Json) (k : Nat) :
    (pageOf records (k + 1)).length = min pageSize (records.length - k * pageSize) := by
  rw [pageOf, List.length_take, List.length_drop, Nat.add_sub_cancel]

/-- A page and what comes behind it are what comes behind the page before. -/
theorem pageOf_append_drop (records : List Json) (k : Nat) :
    pageOf records (k + 1) ++ records.drop ((k + 1) * pageSize) = records.drop (k * pageSize) := by
  have hdrop : records.drop ((k + 1) * pageSize) = (records.drop (k * pageSize)).drop pageSize := by
    rw [List.drop_drop, Nat.succ_mul]
  rw [pageOf, Nat.add_sub_cancel, hdrop, List.take_append_drop]

/-- One turn of the loop. -/
theorem outcomeIn_repeatM_turn [Nonempty σ] (ask : Nat → Work σ Json) (number : Nat)
    (found : List Json) (world : σ) :
    (repeatM (turn ask) (number, found)).outcomeIn world =
      match (ask number).outcomeIn world with
      | (.error f, left) => (.error f, left)
      | (.ok (.arr records), left) =>
        if records.length < pageSize then (.ok (found ++ records), left)
        else (repeatM (turn ask) (number + 1, found ++ records)).outcomeIn left
      | (.ok _, left) => (.ok found, left) := by
  rw [repeatM_eq_of_monadTail]
  simp only [turn, Work.outcomeIn_bind]
  rcases (ask number).outcomeIn world with ⟨_ | v, left⟩
  · rfl
  · cases v with
    | arr records =>
      by_cases hshort : records.length < pageSize
      · simp only [hshort, if_true]
        rfl
      · simp only [hshort, if_false]
        rfl
    | _ => rfl

theorem outcomeIn_of_pages {ask : Nat → Work σ Json} {records : List Json} {ready : σ → Prop}
    {after : σ → Nat → σ}
    (h : ∀ number world, 0 < number → ready world →
      (ask number).outcomeIn world = (.ok (.arr (pageOf records number)), after world number) ∧
        ready (after world number))
    {world : σ} (hworld : ready world) (found : List Json) (k : Nat) :
    (repeatM (turn ask) (k + 1, found)).outcomeIn world =
      (.ok (found ++ records.drop (k * pageSize)),
        (List.range' (k + 1) ((records.length - k * pageSize) / pageSize + 1)).foldl after
          world) := by
  have : Nonempty σ := ⟨world⟩
  -- the records behind the page are fewer from page to page
  induction hleft : records.length - k * pageSize using Nat.strongRecOn generalizing
    world found k with
  | _ left ih =>
    obtain ⟨hask, hready⟩ := h (k + 1) world (Nat.succ_pos k) hworld
    have hlength := length_pageOf records k
    rw [hleft] at hlength
    rw [outcomeIn_repeatM_turn, hask]
    by_cases hfull : left < pageSize
    · have hshort : (pageOf records (k + 1)).length < pageSize := by omega
      have hrest : records.drop ((k + 1) * pageSize) = [] := by
        rw [List.drop_eq_nil_iff, Nat.succ_mul]
        omega
      simp only [hshort, if_true, Nat.div_eq_of_lt hfull]
      rw [← pageOf_append_drop, hrest, List.append_nil]
      rfl
    · have hlong : ¬ (pageOf records (k + 1)).length < pageSize := by omega
      have hsize : 0 < pageSize := by decide
      have hless : records.length - (k + 1) * pageSize = left - pageSize := by
        rw [Nat.succ_mul]
        omega
      have hpages : List.range' (k + 1) (left / pageSize + 1) =
          (k + 1) :: List.range' (k + 2) ((left - pageSize) / pageSize + 1) := by
        rw [Nat.div_eq_sub_div hsize (Nat.le_of_not_lt hfull), List.range'_succ]
      simp only [hlong, if_false]
      rw [ih (left - pageSize) (by omega) hready _ _ hless, List.append_assoc,
        pageOf_append_drop, hpages, List.foldl_cons]

/-! ### All records -/

theorem Serves.logged {w : World σ} {s : Settings} {address : String} {records : List Json}
    {url : Url} {ready : σ → Prop} (h : Serves w s address records url ready) :
    Serves w.logged s address records url fun state => ready state.1 where
  located := h.located
  replies number state hnumber hstate := by
    obtain ⟨reply, left, hget, hsuccess, hdocument, hleft⟩ :=
      h.replies number state.1 hnumber hstate
    refine ⟨reply, (left, state.2 ++ [url.withQuery (pageQuery number)]), ?_, hsuccess, hdocument,
      hleft⟩
    rw [World.get_logged, hget]

theorem Serves.outcomeIn_unspentAt {w : World σ} {s : Settings} {address : String}
    {records : List Json} {url : Url} {ready : σ → Prop} (h : Serves w s address records url ready)
    {world : σ} (hworld : ready world) :
    (unspentAt w s address).outcomeIn world =
      (.ok records, (List.range' 1 (records.length / pageSize + 1)).foldl (afterPage w s url)
        world) := by
  have hall := outcomeIn_of_pages (fun _ _ hnumber hready => h.outcomeIn_page hnumber hready)
    hworld [] 0
  rw [Nat.zero_mul, List.drop_zero, Nat.sub_zero, List.nil_append, Nat.zero_add] at hall
  exact hall

/-- The log grows by the pages that are asked for. -/
theorem foldl_afterPage_logged (w : World σ) (s : Settings) (url : Url) (numbers : List Nat)
    (world : σ) (log : List Url) :
    numbers.foldl (afterPage w.logged s url) (world, log) =
      (numbers.foldl (afterPage w s url) world,
        log ++ numbers.map fun number => url.withQuery (pageQuery number)) := by
  induction numbers generalizing world log with
  | nil => simp
  | cons number rest ih =>
    have hone : afterPage w.logged s url (world, log) number =
        (afterPage w s url world number, log ++ [url.withQuery (pageQuery number)]) := rfl
    rw [List.foldl_cons, hone, ih, List.append_assoc]
    rfl

/-- A server's records come back as they are, each once and in order, after one request for every
full page and one more, for the pages one after the other. -/
theorem unspentAt_eq_records {w : World σ} {s : Settings} {address : String} {records : List Json}
    {url : Url} {ready : σ → Prop} (h : Serves w s address records url ready) {world : σ}
    (hworld : ready world) :
    ∃ left, (unspentAt w s address).outcomeIn world = (.ok records, left) ∧
      (unspentAt w.logged s address).outcomeIn (world, []) =
        (.ok records, (left, (List.range' 1 (records.length / pageSize + 1)).map fun number =>
          url.withQuery (pageQuery number))) := by
  refine ⟨_, h.outcomeIn_unspentAt hworld, ?_⟩
  rw [h.logged.outcomeIn_unspentAt hworld, foldl_afterPage_logged, List.nil_append]

/-! ### A server with one full page -/

theorem withQuery_pageQuery_injective {url : Url} {number number' : Nat}
    (h : url.withQuery (pageQuery number) = url.withQuery (pageQuery number')) :
    number = number' := by
  have hquery := Option.some.inj (congrArg Url.query h)
  have htext := congrArg String.toList hquery
  simp only [pageQuery, List.map_cons, List.map_nil, String.toList_intercalate] at htext
  have hdigits : Nat.toDigits 10 number = Nat.toDigits 10 number' := by
    simpa [List.intercalate] using htext
  rw [← Nat.ofDigitChars_ten_toDigits (n := number), hdigits, Nat.ofDigitChars_ten_toDigits]

/-- A page of empty records as the server writes it. -/
def fullPageText : List Char :=
  ['[', '\x7b', '\x7d'] ++ (List.replicate 99 [',', '\x7b', '\x7d']).flatten ++ [']']

/-- Where the default settings lead for an address. -/
def addressUrl : Url :=
  ⟨"http", "", "localhost", some 4000, "/api/v0/addresses/addr1/utxos", none, none⟩

/-- A server with one full page of records, and nothing behind it. -/
def fullPage : World Unit where
  get url _ := pure (.ok ⟨200, String.ofList
    (if url = addressUrl.withQuery (pageQuery 1) then fullPageText else ['[', ']'])⟩)
  connect _ _ := pure (.ok ())
  send _ := pure (.ok ())
  receive := pure (.ok "")
  close := pure ()

theorem document_ofList {status : Int} {cs : List Char} {v : Json}
    (hmark : cs.head? ≠ some Reply.byteOrderMark)
    (h : Json.readValue (some Quantity.maxDigits) (cs.length + 1) (Json.skipBlanks cs) =
      .ok (v, [])) :
    (⟨status, String.ofList cs⟩ : Reply).document = .ok v := by
  have hparse : Json.parse (some Quantity.maxDigits) (String.ofList cs) = .ok v := by
    rw [Json.parse_ofList hmark, h]
    rfl
  simp only [Reply.document, String.toList_ofList, hmark, if_false, hparse]

/-- Empty records up to the end of a list. -/
theorem readItems_blanks (limit : Json.DigitLimit) (fuel n : Nat) :
    Json.readItems limit (fuel + n + 2)
        (['\x7b', '\x7d'] ++ (List.replicate n [',', '\x7b', '\x7d']).flatten ++ [']']) =
      .ok (List.replicate (n + 1) (.obj []), []) := by
  induction n with
  | zero => rfl
  | succ n ih =>
    have hrest : Json.readItems limit (fuel + (n + 1) + 2)
        (['\x7b', '\x7d'] ++ (List.replicate (n + 1) [',', '\x7b', '\x7d']).flatten ++ [']']) =
        (Json.readItems limit (fuel + n + 2)
          (['\x7b', '\x7d'] ++ (List.replicate n [',', '\x7b', '\x7d']).flatten ++ [']']) >>=
            fun read => pure (.obj [] :: read.1, read.2)) := rfl
    rw [hrest, ih]
    rfl

theorem readValue_fullPageText :
    Json.readValue (some Quantity.maxDigits) (fullPageText.length + 1)
      (Json.skipBlanks fullPageText) = .ok (.arr (List.replicate 100 (.obj [])), []) := by
  have hlength : fullPageText.length + 1 = 200 + 99 + 2 + 1 := by
    decide +kernel
  have hrest : Json.readValue (some Quantity.maxDigits) (200 + 99 + 2 + 1)
      (Json.skipBlanks fullPageText) =
        (Json.readItems (some Quantity.maxDigits) (200 + 99 + 2)
          (['\x7b', '\x7d'] ++ (List.replicate 99 [',', '\x7b', '\x7d']).flatten ++ [']']) >>=
            fun read => pure (.arr read.1, read.2)) := rfl
  rw [hlength, hrest, readItems_blanks]
  rfl

theorem serves_fullPage :
    Serves fullPage Settings.default "addr1" (List.replicate 100 (.obj [])) addressUrl
      fun _ => True where
  located := by decide +kernel
  replies number world hnumber _ := by
    refine ⟨_, (), rfl, rfl, ?_, trivial⟩
    by_cases hfirst : number = 1
    · subst hfirst
      rw [if_pos rfl]
      exact document_ofList (by decide) readValue_fullPageText
    · rw [if_neg fun h => hfirst (withQuery_pageQuery_injective h)]
      have hpage : pageOf (List.replicate 100 (.obj [])) number = [] := by
        rw [pageOf, List.drop_eq_nil_of_le, List.take_nil]
        rw [List.length_replicate, pageSize]
        omega
      rw [hpage]
      exact document_ofList (by decide) rfl

theorem unspentAt_eq_records_fullPage :
    Serves fullPage Settings.default "addr1" (List.replicate 100 (.obj [])) addressUrl
      (fun _ => True) ∧
    ∃ left, (unspentAt fullPage Settings.default "addr1").outcomeIn () =
        (.ok (List.replicate 100 (.obj [])), left) ∧
      (unspentAt fullPage.logged Settings.default "addr1").outcomeIn ((), []) =
        (.ok (List.replicate 100 (.obj [])), (left, [addressUrl.withQuery (pageQuery 1),
          addressUrl.withQuery (pageQuery 2)])) :=
  ⟨serves_fullPage, unspentAt_eq_records serves_fullPage trivial⟩

end TxDraft.Dolos
