import TxDraft.Proofs.Ogmios.Matching
import TxDraft.Proofs.Traversal

/-!
# What becomes of a question

A question that is asked gets a response: the message that is taken for the reply, or an accident on
the way.  What the library makes of it hangs on the response alone (`outcomeIn_ask_eq`).  It gives
an answer, or the query is said to have failed, unless the response is baffling: an accident of a
family that is not expected here, or a document that is searched for the parts of a reply although
it is no object (`told_readResponse_iff`).

For the tip there are several methods, which are tried in turn until a response tells it; a failure
of the query, or an answer that is no object, leads to the next method, but a baffling response ends
the trials with a failure that nobody has worded (`askTipBy_of_tip`, `askTipBy_of_baffling`,
`askTipBy_of_passed`).  So all is told exactly if no response in turn is baffling
(`asks_told_iff`).
-/

namespace TxDraft.Ogmios

variable {σ α : Type} {w : World σ}

/-! ### Responses -/

/-- What comes of a question: the message that is taken for the reply, or an accident on the way of
either. -/
def response (w : World σ) (q : Question) (world : σ) : Except Accident String × σ :=
  match (w.send q.text).run world with
  | (.error a, left) => (.error a, left)
  | (.ok _, between) => w.receive.run between

/-- What is made of a response to a question by this method. -/
def readResponse (method : String) : Except Accident String → Attempt Json
  | .error a => .error (wordLoss method a)
  | .ok message => document message >>= answer

/-- While the socket is open, asking is reading the response. -/
theorem outcomeIn_ask_eq {asked : Nat} {method : String} {parameters : Json} {world left : σ}
    {r : Except Accident String}
    (h : response w ⟨asked + 1, method, parameters⟩ world = (r, left)) :
    (ask w method parameters).outcomeIn (⟨true, asked⟩, world) =
      (readResponse method r, (⟨true, asked + 1⟩, left)) := by
  rw [outcomeIn_ask]
  unfold response at h
  rcases hsend : (w.send (Question.text ⟨asked + 1, method, parameters⟩)).run world with
    ⟨a | _, between⟩
  · rw [hsend] at h
    cases h
    rfl
  · rw [hsend] at h
    dsimp only at h ⊢
    rw [h]
    cases r <;> rfl

/-! ### Baffling responses -/

/-- There is an answer, or the query is said to have failed, which is a failure of the provider. -/
def Told : Attempt α → Prop
  | .ok _ => True
  | .error f => (∃ cause, f = .query cause) ∧ f.status? = some 502

/-- The value is no object, but it is taken for one: it has no parts that could be searched for a
result or an error, or one of these words is among its parts. -/
def Unsearchable : Json → Prop
  | .obj _ => False
  | .str s => Text.occursIn "result" s.string = true ∨ Text.occursIn "error" s.string = true
  | .arr items => .str "result" ∈ items ∨ .str "error" ∈ items
  | _ => True

/-- Nothing is said about the response: it is an accident other than a passed deadline, a refusal of
the operating system, a failure of the socket or a value out of place, or its document is
unsearchable. -/
inductive Baffling : Except Accident String → Prop
  | accident {a : Accident} (system : a.isSystem = false) (socket : a.isSocket = false)
      (value : a.isValue = false) : Baffling (.error a)
  | reply {message : String} {v : Json} (reads : document message = .ok v)
      (unsearchable : Unsearchable v) : Baffling (.ok message)

theorem told_query (cause : QueryCause) : Told (.error (.query cause) : Attempt α) :=
  ⟨⟨cause, rfl⟩, rfl⟩

theorem not_told_unexpected (why : Unexpected) : ¬ Told (.error (.unexpected why) : Attempt α) := by
  rintro ⟨⟨cause, hquery⟩, -⟩
  cases hquery

theorem speaksOf_arr_iff {part : String} {items : List Json} :
    speaksOf part (.arr items) = true ↔ .str part ∈ items := by
  rw [speaksOf, List.any_eq_true]
  constructor
  · rintro ⟨item, hitem, hpart⟩
    cases item with
    | str s =>
      obtain rfl : s = .plain part := of_decide_eq_true hpart
      exact hitem
    | _ => cases hpart
  · exact fun hpart => ⟨.str part, hpart, decide_eq_true rfl⟩

/-- What is no object is broken as a reply just when it is unsearchable, and else it is the answer
itself. -/
theorem answer_of_not_obj {v : Json} (hv : ∀ fields, v ≠ .obj fields) :
    (Unsearchable v → answer v = .error (.unexpected .reply)) ∧
      (¬ Unsearchable v → answer v = .ok v) := by
  have hanswer : answer v = if speaksOf "result" v || speaksOf "error" v then
      .error (.unexpected .reply) else .ok v := by
    cases v with
    | obj fields => exact absurd rfl (hv fields)
    | _ => rfl
  have hspeaks : (speaksOf "result" v || speaksOf "error" v) = true ↔ Unsearchable v := by
    rw [Bool.or_eq_true]
    cases v with
    | obj fields => exact absurd rfl (hv fields)
    | str s => rfl
    | arr items => rw [speaksOf_arr_iff, speaksOf_arr_iff, Unsearchable]
    | _ => exact iff_of_true (.inl rfl) trivial
  exact ⟨fun h => by rw [hanswer, if_pos (hspeaks.mpr h)],
    fun h => by rw [hanswer, if_neg (mt hspeaks.mp h)]⟩

/-- An object always gives an answer, or tells of an error. -/
theorem told_answer_obj (fields : Json.Fields) : Told (answer (.obj fields)) := by
  simp only [answer]
  split
  · trivial
  · exact told_query _
  · trivial

theorem answer_of_unsearchable {v : Json} (h : Unsearchable v) :
    answer v = .error (.unexpected .reply) := by
  refine (answer_of_not_obj ?_).1 h
  rintro fields rfl
  exact h

theorem told_answer_iff {v : Json} : Told (answer v) ↔ ¬ Unsearchable v := by
  constructor
  · intro htold h
    rw [answer_of_unsearchable h] at htold
    exact not_told_unexpected _ htold
  · intro h
    by_cases hobj : ∃ fields, v = .obj fields
    · obtain ⟨fields, rfl⟩ := hobj
      exact told_answer_obj fields
    · rw [(answer_of_not_obj fun fields hv => hobj ⟨fields, hv⟩).2 h]
      trivial

theorem told_wordLoss_iff {method : String} {a : Accident} :
    Told (.error (wordLoss method a) : Attempt α) ↔
      (a.isSystem || a.isValue || a.isSocket) = true := by
  unfold wordLoss
  by_cases hdeadline : a.family = .deadline
  · rw [if_pos hdeadline]
    refine iff_of_true (told_query _) ?_
    rw [Accident.isSystem, hdeadline]
    rfl
  · rw [if_neg hdeadline]
    cases a.isSystem || a.isValue || a.isSocket with
    | true => exact iff_of_true (told_query _) rfl
    | false => exact iff_of_false (not_told_unexpected _) Bool.false_ne_true

/-- A document that cannot be read is a failure of the query. -/
theorem told_document_error {message : String} {f : Failure} (h : document message = .error f) :
    Told (.error f : Attempt α) := by
  obtain ⟨fault, -, rfl⟩ := Traversal.mapError_eq_error_iff.mp h
  exact told_query _

/-- A response is told exactly if it is not baffling. -/
theorem told_readResponse_iff (method : String) {r : Except Accident String} :
    Told (readResponse method r) ↔ ¬ Baffling r := by
  cases r with
  | error a =>
    rw [readResponse, told_wordLoss_iff]
    constructor
    · rintro hexpected ⟨hsystem, hsocket, hvalue⟩
      rw [hsystem, hvalue, hsocket] at hexpected
      cases hexpected
    · intro h
      rw [← Bool.not_eq_false]
      intro hunexpected
      rw [Bool.or_eq_false_iff, Bool.or_eq_false_iff] at hunexpected
      obtain ⟨⟨hsystem, hvalue⟩, hsocket⟩ := hunexpected
      exact h (.accident hsystem hsocket hvalue)
  | ok message =>
    rw [readResponse]
    cases hdocument : document message with
    | error f =>
      refine iff_of_true (told_document_error hdocument) fun hbaffling => ?_
      cases hbaffling with
      | reply hreads _ =>
        rw [hdocument] at hreads
        cases hreads
    | ok v =>
      show Told (answer v) ↔ _
      rw [told_answer_iff]
      refine not_congr ⟨.reply hdocument, fun hbaffling => ?_⟩
      cases hbaffling with
      | reply hreads hunsearchable =>
        rw [hdocument] at hreads
        cases hreads
        exact hunsearchable

/-- Nobody has worded the failure of a question with a baffling response. -/
theorem readResponse_of_baffling {r : Except Accident String} (h : Baffling r) (method : String) :
    ∃ why, readResponse method r = .error (.unexpected why) := by
  cases h with
  | @accident a hsystem hsocket hvalue =>
    have hdeadline : a.family ≠ .deadline := by
      intro hfamily
      rw [Accident.isSystem, hfamily] at hsystem
      cases hsystem
    refine ⟨.accident a, ?_⟩
    rw [readResponse, wordLoss, if_neg hdeadline, hsystem, hsocket, hvalue]
    rfl
  | reply hreads hunsearchable =>
    refine ⟨.reply, ?_⟩
    rw [readResponse, hreads]
    exact answer_of_unsearchable hunsearchable

/-! ### Trials -/

/-- The tip that a response tells. -/
def tipIn? : Except Accident String → Option Tip
  | .ok message =>
    match document message >>= answer with
    | .ok v => Tip.ofAnswer? v
    | .error _ => none
  | .error _ => none

/-- The responses that the methods get in turn, up to the first that tells the tip. -/
def trials (w : World σ) : List String → Nat → σ → List (Except Accident String)
  | [], _, _ => []
  | method :: methods, asked, world =>
    let (r, left) := response w ⟨asked + 1, method, .null⟩ world
    r :: if (tipIn? r).isSome then [] else trials w methods (asked + 1) left

theorem tipIn?_eq_some_iff (method : String) {r : Except Accident String} {tip : Tip} :
    tipIn? r = some tip ↔ ∃ v, readResponse method r = .ok v ∧ Tip.ofAnswer? v = some tip := by
  cases r with
  | error a => exact iff_of_false nofun (by rintro ⟨v, ⟨⟩, -⟩)
  | ok message =>
    rw [tipIn?, readResponse]
    cases document message >>= answer with
    | error f => exact iff_of_false nofun (by rintro ⟨v, ⟨⟩, -⟩)
    | ok v => simp

section Step

variable {method : String} {methods : List String} {asked : Nat} {world left : σ}
  {r : Except Accident String}

theorem trials_cons (h : response w ⟨asked + 1, method, .null⟩ world = (r, left)) :
    trials w (method :: methods) asked world =
      r :: if (tipIn? r).isSome then [] else trials w methods (asked + 1) left := by
  rw [trials, h]

/-- One method is tried: its response tells the tip, or leads to the next method, or ends the
trials. -/
theorem outcomeIn_askTipBy_cons
    (h : response w ⟨asked + 1, method, .null⟩ world = (r, left)) :
    (askTipBy w (method :: methods)).outcomeIn (⟨true, asked⟩, world) =
      match readResponse method r with
      | .ok v =>
        match Tip.ofAnswer? v with
        | some tip => (.ok tip, (⟨true, asked + 1⟩, left))
        | none => (askTipBy w methods).outcomeIn (⟨true, asked + 1⟩, left)
      | .error (.query _) => (askTipBy w methods).outcomeIn (⟨true, asked + 1⟩, left)
      | .error f => (.error f, (⟨true, asked + 1⟩, left)) := by
  rw [askTipBy, Work.outcomeIn_bind, Work.outcomeIn_attempt, outcomeIn_ask_eq h]
  cases readResponse method r with
  | ok v =>
    cases hv : Tip.ofAnswer? v with
    | none => simp only [hv]
    | some tip =>
      simp only [hv]
      rfl
  | error f => cases f <;> rfl

theorem askTipBy_of_tip (h : response w ⟨asked + 1, method, .null⟩ world = (r, left)) {tip : Tip}
    (htip : tipIn? r = some tip) :
    (askTipBy w (method :: methods)).outcomeIn (⟨true, asked⟩, world) =
      (.ok tip, (⟨true, asked + 1⟩, left)) := by
  obtain ⟨v, hv, hanswer⟩ := (tipIn?_eq_some_iff method).mp htip
  rw [outcomeIn_askTipBy_cons h, hv]
  simp only [hanswer]

theorem askTipBy_of_baffling (h : response w ⟨asked + 1, method, .null⟩ world = (r, left))
    (hbaffling : Baffling r) (methods : List String) :
    ∃ why, (askTipBy w (method :: methods)).outcomeIn (⟨true, asked⟩, world) =
      (.error (.unexpected why), (⟨true, asked + 1⟩, left)) := by
  obtain ⟨why, hwhy⟩ := readResponse_of_baffling hbaffling method
  refine ⟨why, ?_⟩
  rw [outcomeIn_askTipBy_cons h, hwhy]

/-- A response that neither tells the tip nor baffles leads to the next method. -/
theorem askTipBy_of_passed (h : response w ⟨asked + 1, method, .null⟩ world = (r, left))
    (hnone : tipIn? r = none) (hclear : ¬ Baffling r) :
    (askTipBy w (method :: methods)).outcomeIn (⟨true, asked⟩, world) =
      (askTipBy w methods).outcomeIn (⟨true, asked + 1⟩, left) := by
  have htold : Told (readResponse method r) := (told_readResponse_iff method).mpr hclear
  rw [outcomeIn_askTipBy_cons h]
  cases hread : readResponse method r with
  | ok v =>
    cases hv : Tip.ofAnswer? v with
    | none => simp only [hv]
    | some tip =>
      rw [(tipIn?_eq_some_iff method).mpr ⟨v, hread, hv⟩] at hnone
      cases hnone
  | error f =>
    rw [hread] at htold
    obtain ⟨⟨cause, rfl⟩, -⟩ := htold
    rfl

end Step

/-- The trials are told exactly if no response in turn is baffling. -/
theorem told_askTipBy_iff (w : World σ) (methods : List String) (asked : Nat) (world : σ) :
    Told ((askTipBy w methods).outcomeIn (⟨true, asked⟩, world)).1 ↔
      ∀ r ∈ trials w methods asked world, ¬ Baffling r := by
  induction methods generalizing asked world with
  | nil => exact iff_of_true (told_query _) (List.forall_mem_nil _)
  | cons method methods ih =>
    rcases h : response w ⟨asked + 1, method, .null⟩ world with ⟨r, left⟩
    rw [trials_cons h, List.forall_mem_cons]
    -- the trials end at a baffling response and at one that tells the tip
    by_cases hbaffling : Baffling r
    · obtain ⟨why, hwhy⟩ := askTipBy_of_baffling h hbaffling methods
      rw [hwhy]
      exact iff_of_false (not_told_unexpected _) fun hall => hall.1 hbaffling
    · cases htip : tipIn? r with
      | some tip =>
        rw [askTipBy_of_tip h htip, Option.isSome_some, if_pos rfl]
        exact iff_of_true trivial ⟨hbaffling, List.forall_mem_nil _⟩
      | none =>
        rw [askTipBy_of_passed h htip hbaffling, ih, Option.isSome_none,
          if_neg Bool.false_ne_true, and_iff_right hbaffling]

/-- The last method is tried with one question, whatever becomes of it. -/
theorem left_askTipBy_singleton {method : String} {asked : Nat} {world left : σ}
    {r : Except Accident String} (h : response w ⟨asked + 1, method, .null⟩ world = (r, left)) :
    ((askTipBy w [method]).outcomeIn (⟨true, asked⟩, world)).2 = (⟨true, asked + 1⟩, left) := by
  by_cases hbaffling : Baffling r
  · obtain ⟨why, hwhy⟩ := askTipBy_of_baffling h hbaffling []
    rw [hwhy]
  · cases htip : tipIn? r with
    | some tip => rw [askTipBy_of_tip h htip]
    | none =>
      rw [askTipBy_of_passed h htip hbaffling]
      rfl

/-! ### The tip and the protocol parameters -/

/-- Over an open socket the question for the protocol parameters is told exactly if its response is
not baffling, and the question for the tip exactly if none of the responses to its methods in turn
is.  After a first response that does not tell the tip the second method is tried, unless the first
response is baffling, which ends the trials. -/
theorem asks_told_iff (w : World σ) (asked : Nat) (world : σ) :
    (Told ((askParameters w).outcomeIn (⟨true, asked⟩, world)).1 ↔
      ¬ Baffling (response w ⟨asked + 1, parametersMethod, .null⟩ world).1) ∧
    (Told ((askTip w).outcomeIn (⟨true, asked⟩, world)).1 ↔
      ∀ r ∈ trials w tipMethods asked world, ¬ Baffling r) ∧
    ∀ first between, response w ⟨asked + 1, "queryLedgerState/tip", .null⟩ world =
        (first, between) → tipIn? first = none →
      (¬ Baffling first → ∀ second left,
        response w ⟨asked + 2, "queryNetwork/tip", .null⟩ between = (second, left) →
        ((askTip w).outcomeIn (⟨true, asked⟩, world)).2 = (⟨true, asked + 2⟩, left)) ∧
      (Baffling first → ∃ why, (askTip w).outcomeIn (⟨true, asked⟩, world) =
        (.error (.unexpected why), (⟨true, asked + 1⟩, between))) := by
  refine ⟨?parameters, told_askTipBy_iff w tipMethods asked world, ?fallback⟩
  case parameters =>
    rcases h : response w ⟨asked + 1, parametersMethod, .null⟩ world with ⟨r, left⟩
    rw [askParameters, outcomeIn_ask_eq h]
    exact told_readResponse_iff _
  case fallback =>
    intro first between hfirst hnone
    refine ⟨fun hclear second left hsecond => ?_,
      fun hbaffling => askTipBy_of_baffling hfirst hbaffling _⟩
    rw [askTip, tipMethods, askTipBy_of_passed hfirst hnone hclear]
    exact left_askTipBy_singleton hsecond

theorem response_scripted (q : Question) (r : Except Accident String)
    (rest : List (Except Accident String)) :
    response scripted q (r :: rest) = (r, rest) := rfl

theorem trials_late :
    trials scripted tipMethods 0 late = [.error ⟨.deadline, ""⟩, .ok (replyTo '1')] := by
  have hnone : tipIn? (.error ⟨.deadline, ""⟩) = none := rfl
  rw [tipMethods, late, trials_cons (response_scripted _ _ _), hnone, Option.isSome_none,
    if_neg Bool.false_ne_true, trials_cons (response_scripted _ _ _), trials, ite_self]

/-- A deadline that passes is a failure of the query, and leads to the second method. -/
theorem asks_told_iff_late :
    ∃ result, (askTip scripted).outcomeIn (⟨true, 0⟩, late) = (result, (⟨true, 2⟩, [])) ∧
      Told result := by
  have hdeadline : ¬ Baffling (.error ⟨.deadline, ""⟩) := by
    rintro ⟨⟨⟩, -, -⟩
  have hreply : ¬ Baffling (.ok (replyTo '1')) := by
    rw [← told_readResponse_iff "", readResponse, answer_replyTo_one]
    exact True.intro
  obtain ⟨-, htip, hfallback⟩ := asks_told_iff scripted 0 late
  have hsecond := (hfallback _ _ (response_scripted _ _ _) rfl).1 hdeadline _ _
    (response_scripted _ _ _)
  rw [trials_late, List.forall_mem_cons, List.forall_mem_singleton] at htip
  rcases hrun : (askTip scripted).outcomeIn (⟨true, 0⟩, late) with ⟨result, left⟩
  rw [hrun] at htip hsecond
  exact ⟨result, Prod.ext rfl hsecond, htip.mpr ⟨hdeadline, hreply⟩⟩

/-- A reply that is a number and no object. -/
def bareNumber : String :=
  String.ofList ['5']

theorem document_bareNumber : document bareNumber = .ok (.int 5) :=
  document_ofList (by decide) rfl

/-- Neither the tip nor the protocol parameters are told when a number comes for a reply, and the
reply that would tell the tip is not waited for. -/
theorem bareNumber_not_told :
    (askParameters scripted).outcomeIn (⟨true, 0⟩, [.ok bareNumber]) =
        (.error (.unexpected .reply), (⟨true, 1⟩, [])) ∧
      (askTip scripted).outcomeIn (⟨true, 0⟩, [.ok bareNumber, .ok (replyTo '2')]) =
        (.error (.unexpected .reply), (⟨true, 1⟩, [.ok (replyTo '2')])) ∧
      ¬ Told (.error (.unexpected .reply) : Attempt Tip) := by
  have hread (method : String) :
      readResponse method (.ok bareNumber) = .error (.unexpected .reply) := by
    rw [readResponse, document_bareNumber]
    rfl
  refine ⟨?_, ?_, not_told_unexpected _⟩
  · rw [askParameters, outcomeIn_ask_eq (response_scripted _ _ _), hread]
  · rw [askTip, tipMethods, outcomeIn_askTipBy_cons (response_scripted _ _ _), hread]

end TxDraft.Ogmios
