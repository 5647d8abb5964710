import TxDraft.Ogmios.Session
import TxDraft.Proofs.Json.Parser
import TxDraft.Proofs.World

/-!
# Questions and the replies to them

Questions are numbered, and a message says the number of the question that it is for; but that is
never looked at, and whatever message comes next is taken for the reply (`outcomeIn_ask`).  So
answers are matched to their questions as far as the messages are (`exchanges_matched_iff`).

If the messages come in the order of the questions, all is well up to the first question that is
lost, for which no message comes in time (`InOrder.idOf?_eq_iff`): from then on every message that
is heard is for an earlier question, until the socket is opened anew.
-/

namespace TxDraft.Ogmios

open World

variable {σ : Type} {w : World σ}

/-! ### One question -/

@[simp] theorem outcomeIn_worded {α : Type} (word : Accident → Failure)
    (act : StateM σ (Except Accident α)) (state : Session × σ) :
    (Talk.worded word act).outcomeIn state =
      ((act.run state.2).1.mapError word, (state.1, (act.run state.2).2)) := rfl

/-- What asking does while the socket is open: the question is sent, and the next message is taken
for the reply to it. -/
theorem outcomeIn_ask (w : World σ) (asked : Nat) (method : String) (parameters : Json)
    (world : σ) :
    (ask w method parameters).outcomeIn (⟨true, asked⟩, world) =
      match (w.send (Question.text ⟨asked + 1, method, parameters⟩)).run world with
      | (.error a, left) => (.error (wordLoss method a), (⟨true, asked + 1⟩, left))
      | (.ok _, between) =>
        match w.receive.run between with
        | (.error a, left) => (.error (wordLoss method a), (⟨true, asked + 1⟩, left))
        | (.ok message, left) => (document message >>= answer, (⟨true, asked + 1⟩, left)) := by
  show Work.outcomeIn (Talk.worded (wordLoss method)
    (w.send (Question.text ⟨asked + 1, method, parameters⟩)) >>= fun _ =>
      Talk.worded (wordLoss method) w.receive >>= fun message =>
        Work.ofAttempt (document message >>= answer)) (⟨true, asked + 1⟩, world) = _
  rw [Work.outcomeIn_bind, outcomeIn_worded]
  rcases (w.send (Question.text ⟨asked + 1, method, parameters⟩)).run world with ⟨_ | _, between⟩
  · rfl
  · show Work.outcomeIn (Talk.worded (wordLoss method) w.receive >>= _)
      (⟨true, asked + 1⟩, between) = _
    rw [Work.outcomeIn_bind, outcomeIn_worded]
    rcases hreceive : w.receive.run between with ⟨_ | message, left⟩ <;>
      simp only [hreceive] <;>
      rfl

/-! ### Exchanges -/

/-- A question, what went over the socket for it, and what asking came to. -/
structure Exchange where
  question : Question
  traffic : List Traffic
  result : Attempt Json

namespace Exchange

/-- A question for which a message was heard, which says what the answer is. -/
def ofHeard (q : Question) (message : String) : Exchange :=
  ⟨q, [.sent q.text, .received (.ok message)], document message >>= answer⟩

/-- A question for which no message was heard. -/
def ofLost (q : Question) (a : Accident) : Exchange :=
  ⟨q, [.sent q.text, .received (.error a)], .error (wordLoss q.method a)⟩

/-- The message that was taken for the reply. -/
def heard? (e : Exchange) : Option String :=
  e.traffic.findSome? fun
    | .received (.ok message) => some message
    | _ => none

/-- Was a reply waited for?  It was if the question was sent. -/
def waited (e : Exchange) : Bool :=
  e.traffic.any fun
    | .received _ => true
    | .sent _ => false

/-- How asking a question may go. -/
inductive Happens : Exchange → Prop
  /-- The question cannot be sent. -/
  | unsent (q : Question) (a : Accident) :
      Happens ⟨q, [.sent q.text], .error (wordLoss q.method a)⟩
  /-- The question is sent, and no message comes. -/
  | lost (q : Question) (a : Accident) : Happens (ofLost q a)
  /-- The question is sent, and a message comes. -/
  | heard (q : Question) (message : String) : Happens (ofHeard q message)

variable {e : Exchange}

/-- An answer comes from the message that was heard, and from no other. -/
theorem Happens.result_eq_ok_iff (h : e.Happens) {v : Json} :
    e.result = .ok v ↔
      ∃ message, e.traffic = [.sent e.question.text, .received (.ok message)] ∧
        document message >>= answer = .ok v := by
  cases h with
  | unsent q a => exact iff_of_false nofun (by rintro ⟨_, ⟨⟩, -⟩)
  | lost q a => exact iff_of_false nofun (by rintro ⟨_, ⟨⟩, -⟩)
  | heard q message =>
    constructor
    · exact fun hanswer => ⟨message, rfl, hanswer⟩
    · rintro ⟨_, ⟨⟩, hanswer⟩
      exact hanswer

theorem Happens.heard?_eq_some_iff (h : e.Happens) {message : String} :
    e.heard? = some message ↔
      e.traffic = [.sent e.question.text, .received (.ok message)] := by
  cases h with
  | unsent q a => exact iff_of_false nofun nofun
  | lost q a => exact iff_of_false nofun nofun
  | heard q other => simp [heard?, ofHeard, eq_comm]

theorem Happens.waited_of_heard (h : e.Happens) {message : String}
    (hheard : e.heard? = some message) : e.waited = true := by
  rw [waited, h.heard?_eq_some_iff.mp hheard]
  rfl

end Exchange

/-- What goes over the socket when a question is asked. -/
def traffic (w : World σ) (state : Session × σ) (method : String) (parameters : Json) :
    List Traffic :=
  ((ask w.tapped method parameters).outcomeIn (state.1, (state.2, []))).2.2.2

/-- Asks a question. -/
def exchange (w : World σ) (state : Session × σ) (method : String) (parameters : Json) :
    Exchange × (Session × σ) :=
  let (result, left) := (ask w method parameters).outcomeIn state
  (⟨⟨state.1.asked + 1, method, parameters⟩, traffic w state method parameters, result⟩, left)

/-- Asks one question after the other, whatever becomes of them. -/
def exchanges (w : World σ) :
    List (String × Json) → Session × σ → List Exchange × (Session × σ)
  | [], state => ([], state)
  | (method, parameters) :: rest, state =>
    let (e, between) := exchange w state method parameters
    let (es, left) := exchanges w rest between
    (e :: es, left)

/-- Questions with the numbers that follow a number. -/
def numbered : Nat → List (String × Json) → List Question
  | _, [] => []
  | asked, (method, parameters) :: rest =>
    ⟨asked + 1, method, parameters⟩ :: numbered (asked + 1) rest

/-- While the socket is open, a question gets the next number and is asked in one of three ways. -/
theorem exchange_of_open (w : World σ) (asked : Nat) (method : String) (parameters : Json)
    (world : σ) :
    ∃ e left, exchange w (⟨true, asked⟩, world) method parameters =
        (e, (⟨true, asked + 1⟩, left)) ∧
      (ask w method parameters).outcomeIn (⟨true, asked⟩, world) =
        (e.result, (⟨true, asked + 1⟩, left)) ∧
      e.question = ⟨asked + 1, method, parameters⟩ ∧ e.Happens := by
  unfold exchange traffic
  rw [outcomeIn_ask, outcomeIn_ask, World.send_tapped]
  rcases (w.send (Question.text ⟨asked + 1, method, parameters⟩)).run world with ⟨a | _, between⟩
  · exact ⟨_, between, rfl, rfl, rfl, .unsent _ a⟩
  · simp only [World.receive_tapped]
    rcases w.receive.run between with ⟨a | message, left⟩
    · exact ⟨_, left, rfl, rfl, rfl, .lost _ a⟩
    · exact ⟨_, left, rfl, rfl, rfl, .heard _ message⟩

/-- So it is with one question after the other. -/
theorem exchanges_of_open (w : World σ) (asked : Nat) (questions : List (String × Json))
    (world : σ) :
    ∃ es left, exchanges w questions (⟨true, asked⟩, world) =
        (es, (⟨true, asked + questions.length⟩, left)) ∧
      es.map Exchange.question = numbered asked questions ∧ ∀ e ∈ es, e.Happens := by
  induction questions generalizing asked world with
  | nil => exact ⟨[], world, rfl, rfl, List.forall_mem_nil _⟩
  | cons q rest ih =>
    obtain ⟨e, between, hexchange, -, hquestion, hhappens⟩ :=
      exchange_of_open w asked q.1 q.2 world
    obtain ⟨es, left, hrest, hquestions, hall⟩ := ih (asked + 1) between
    refine ⟨e :: es, left, ?_, ?_, List.forall_mem_cons.mpr ⟨hhappens, hall⟩⟩
    · simp only [exchanges, hexchange, hrest, List.length_cons, Nat.add_assoc, Nat.add_comm 1]
    · rw [List.map_cons, hquestion, hquestions]
      rfl

/-! ### Whose reply it is -/

/-- The number that a message says it is for. -/
def idOf? (message : String) : Option Json :=
  match document message with
  | .ok (.obj fields) => Json.field? fields "id"
  | _ => none

namespace Exchange

/-- The question got an answer. -/
def Answered (e : Exchange) : Prop :=
  ∃ v, e.result = .ok v

/-- An answer comes from a message that is for this question. -/
def Matched (e : Exchange) : Prop :=
  ∀ v, e.result = .ok v → ∃ message, e.heard? = some message ∧
    document message >>= answer = .ok v ∧ idOf? message = some (.int e.question.number)

/-- Was the question sent without a message coming for it? -/
def lost (e : Exchange) : Bool :=
  e.waited && e.heard?.isNone

variable {e : Exchange}

/-- An answer is for this question if the message that was heard is. -/
theorem Happens.matched_iff (h : e.Happens) :
    e.Matched ↔ (e.Answered → ∀ message, e.heard? = some message →
      idOf? message = some (.int e.question.number)) := by
  constructor
  · rintro hmatched ⟨v, hv⟩ message hheard
    obtain ⟨other, hother, -, hid⟩ := hmatched v hv
    obtain rfl := Option.some.inj (hheard.symm.trans hother)
    exact hid
  · intro hid v hv
    obtain ⟨message, htraffic, hanswer⟩ := h.result_eq_ok_iff.mp hv
    have hheard := h.heard?_eq_some_iff.mpr htraffic
    exact ⟨message, hheard, hanswer, hid ⟨v, hv⟩ message hheard⟩

end Exchange

/-- The messages are for the questions that were sent, one after the other. -/
def InOrder (es : List Exchange) : Prop :=
  ∀ (k : Nat) (message : String), (es.filterMap Exchange.heard?)[k]? = some message →
    ∃ e, (es.filter Exchange.waited)[k]? = some e ∧ idOf? message = some (.int e.question.number)

theorem pairwise_numbered (asked : Nat) (questions : List (String × Json)) :
    (numbered asked questions).Pairwise (fun q q' => q.number < q'.number) ∧
      ∀ q ∈ numbered asked questions, asked < q.number := by
  induction questions generalizing asked with
  | nil => simp [numbered]
  | cons q rest ih =>
    obtain ⟨hpairs, hless⟩ := ih (asked + 1)
    simp only [numbered, List.pairwise_cons, List.mem_cons]
    refine ⟨⟨hless, hpairs⟩, ?_⟩
    rintro q' (rfl | hq')
    · exact Nat.lt_succ_self asked
    · exact Nat.lt_trans (Nat.lt_succ_self asked) (hless q' hq')

/-- Of the questions that were sent, each was lost or a message was heard for it. -/
theorem length_filterMap_heard? {es : List Exchange} (h : ∀ e ∈ es, e.Happens) :
    (es.filterMap Exchange.heard?).length + es.countP Exchange.lost =
      (es.filter Exchange.waited).length := by
  induction es with
  | nil => rfl
  | cons e rest ih =>
    obtain ⟨he, hrest⟩ := List.forall_mem_cons.mp h
    have hlength := ih hrest
    rw [List.filterMap_cons, List.countP_cons, List.filter_cons]
    cases he with
    | unsent q a => exact hlength
    | lost q a =>
      show (rest.filterMap Exchange.heard?).length + (rest.countP Exchange.lost + 1) =
        (rest.filter Exchange.waited).length + 1
      omega
    | heard q message =>
      show (rest.filterMap Exchange.heard?).length + 1 + (rest.countP Exchange.lost + 0) =
        (rest.filter Exchange.waited).length + 1
      omega

/-- With the messages in order, the one that is heard is for its question exactly if no earlier
question was lost; behind a lost one it is for an earlier question. -/
theorem InOrder.idOf?_eq_iff {earlier later : List Exchange} {e : Exchange} {message : String}
    (h : InOrder (earlier ++ e :: later)) (hall : ∀ e' ∈ earlier ++ e :: later, e'.Happens)
    (hless : ∀ e' ∈ earlier, e'.question.number < e.question.number)
    (hheard : e.heard? = some message) :
    idOf? message = some (.int e.question.number) ↔ ∀ e' ∈ earlier, e'.lost = false := by
  have hwaited : e.waited = true :=
    (hall e (List.mem_append_right _ List.mem_cons_self)).waited_of_heard hheard
  have hlength := length_filterMap_heard? fun e' he' => hall e' (List.mem_append_left _ he')
  -- the message that is heard for the question is the next one behind those heard before
  obtain ⟨other, hother, hid⟩ := h (earlier.filterMap Exchange.heard?).length message (by
    rw [List.filterMap_append, List.filterMap_cons_some hheard,
      List.getElem?_append_right (Nat.le_refl _), Nat.sub_self, List.getElem?_cons_zero])
  rw [List.filter_append, List.filter_cons_of_pos hwaited] at hother
  have hnone : (∀ e' ∈ earlier, e'.lost = false) ↔ earlier.countP Exchange.lost = 0 := by
    simp [List.countP_eq_zero]
  rw [hnone, hid]
  by_cases hlost : earlier.countP Exchange.lost = 0
  · rw [List.getElem?_append_right (by omega)] at hother
    have hzero : (earlier.filterMap Exchange.heard?).length -
        (earlier.filter Exchange.waited).length = 0 := by omega
    rw [hzero, List.getElem?_cons_zero] at hother
    obtain rfl := Option.some.inj hother
    exact iff_of_true rfl hlost
  · rw [List.getElem?_append_left (by omega)] at hother
    have hmem := List.mem_of_getElem? hother
    have hbefore := hless other ((List.mem_filter.mp hmem).1)
    refine iff_of_false (fun heq => ?_) hlost
    have hnumber : (other.question.number : Int) = e.question.number := by
      simpa using heq
    omega

/-- With the messages in order, the answers are for their questions exactly if none is answered
behind a lost one. -/
theorem InOrder.ids_iff {es : List Exchange} (h : InOrder es) (hall : ∀ e ∈ es, e.Happens)
    {asked : Nat} {questions : List (String × Json)}
    (hquestions : es.map Exchange.question = numbered asked questions) :
    (∀ e ∈ es, e.Answered → ∀ message, e.heard? = some message →
      idOf? message = some (.int e.question.number)) ↔
    ∀ earlier e later, es = earlier ++ e :: later → e.Answered →
      ∀ e' ∈ earlier, e'.lost = false := by
  have hpairs : es.Pairwise fun e e' => e.question.number < e'.question.number := by
    have hnumbers := (pairwise_numbered asked questions).1
    rw [← hquestions, List.pairwise_map] at hnumbers
    exact hnumbers
  have hless : ∀ earlier e later, es = earlier ++ e :: later →
      ∀ e' ∈ earlier, e'.question.number < e.question.number := by
    rintro earlier e later rfl e' he'
    exact (List.pairwise_append.mp hpairs).2.2 e' he' e List.mem_cons_self
  constructor
  · rintro hids earlier e later rfl hanswered
    have he : e ∈ earlier ++ e :: later := List.mem_append_right _ List.mem_cons_self
    obtain ⟨v, hv⟩ := hanswered
    obtain ⟨message, htraffic, -⟩ := (hall e he).result_eq_ok_iff.mp hv
    have hheard := (hall e he).heard?_eq_some_iff.mpr htraffic
    exact (h.idOf?_eq_iff hall (hless _ _ _ rfl) hheard).mp (hids e he ⟨v, hv⟩ message hheard)
  · intro hnone e he hanswered message hheard
    obtain ⟨earlier, later, rfl⟩ := List.append_of_mem he
    exact (h.idOf?_eq_iff hall (hless _ _ _ rfl) hheard).mpr (hnone _ _ _ rfl hanswered)

/-! ### The tip -/

/-- The tip comes from the last of some exchanges, one for each method up to it. -/
theorem askTipBy_eq_ok {methods : List String} {asked : Nat} {world : σ} {tip : Tip}
    {left : Session × σ}
    (hrun : (askTipBy w methods).outcomeIn (⟨true, asked⟩, world) = (.ok tip, left)) :
    ∃ tried es, tried <+: methods ∧
      exchanges w (tried.map fun method => (method, .null)) (⟨true, asked⟩, world) = (es, left) ∧
      ∃ e v, es.getLast? = some e ∧ e.result = .ok v ∧ Tip.ofAnswer? v = some tip := by
  induction methods generalizing asked world with
  | nil => cases hrun
  | cons method rest ih =>
    obtain ⟨e, between, hexchange, hask, -, -⟩ := exchange_of_open w asked method .null world
    have hattempt : (ask w method .null).attempt.outcomeIn (⟨true, asked⟩, world) =
        (.ok e.result, (⟨true, asked + 1⟩, between)) := by
      rw [Work.outcomeIn_attempt, hask]
    -- what the rest of the methods come to stands behind this exchange
    have later : (askTipBy w rest).outcomeIn (⟨true, asked + 1⟩, between) = (.ok tip, left) →
        ∃ tried es, tried <+: method :: rest ∧
          exchanges w (tried.map fun method => (method, .null)) (⟨true, asked⟩, world) =
            (es, left) ∧
          ∃ e v, es.getLast? = some e ∧ e.result = .ok v ∧ Tip.ofAnswer? v = some tip := by
      intro hrest
      obtain ⟨tried, es, htried, hexchanges, last, v, hlast, hv⟩ := ih hrest
      refine ⟨method :: tried, e :: es, (List.prefix_cons_inj method).mpr htried, ?_, last, v, ?_,
        hv⟩
      · simp only [List.map_cons, exchanges, hexchange, hexchanges]
      · rw [List.getLast?_cons, hlast]
        rfl
    rw [askTipBy, Work.outcomeIn_bind, hattempt] at hrun
    cases hresult : e.result with
    | ok v =>
      cases htip : Tip.ofAnswer? v with
      | none =>
        simp only [hresult, htip] at hrun
        exact later hrun
      | some found =>
        simp only [hresult, htip] at hrun
        cases hrun
        refine ⟨[method], [e], ⟨rest, rfl⟩, ?_, e, v, rfl, hresult, htip⟩
        simp only [List.map_cons, List.map_nil, exchanges, hexchange]
    | error f =>
      rw [hresult] at hrun
      cases f with
      | query cause => exact later hrun
      | _ => cases hrun

/-! ### Whole conversations -/

/-- While the socket is open, questions get consecutive numbers, and the answer to each is what the
next message says.  So the answers are matched to their questions exactly if the messages that
answer are for them; if the messages come in order, exactly if no question is answered behind one
that was lost.  The tip, too, comes from the last of such exchanges. -/
theorem exchanges_matched_iff (w : World σ) (asked : Nat) (questions : List (String × Json))
    (world : σ) :
    ∃ es left, exchanges w questions (⟨true, asked⟩, world) = (es, left) ∧
      es.map Exchange.question = numbered asked questions ∧
      (∀ e ∈ es, ∀ v, e.result = .ok v ↔
        ∃ message, e.traffic = [.sent e.question.text, .received (.ok message)] ∧
          document message >>= answer = .ok v) ∧
      ((∀ e ∈ es, e.Matched) ↔ ∀ e ∈ es, e.Answered → ∀ message, e.heard? = some message →
        idOf? message = some (.int e.question.number)) ∧
      (InOrder es → ((∀ e ∈ es, e.Matched) ↔ ∀ earlier e later, es = earlier ++ e :: later →
        e.Answered → ∀ e' ∈ earlier, e'.lost = false)) ∧
      ∀ tip left', (askTip w).outcomeIn (⟨true, asked⟩, world) = (.ok tip, left') →
        ∃ tried es', tried <+: tipMethods ∧
          exchanges w (tried.map fun method => (method, .null)) (⟨true, asked⟩, world) =
            (es', left') ∧
          ∃ e v, es'.getLast? = some e ∧ e.result = .ok v ∧ Tip.ofAnswer? v = some tip := by
  obtain ⟨es, left, hrun, hquestions, hall⟩ := exchanges_of_open w asked questions world
  have hmatched : (∀ e ∈ es, e.Matched) ↔ ∀ e ∈ es, e.Answered → ∀ message,
      e.heard? = some message → idOf? message = some (.int e.question.number) :=
    forall₂_congr fun e he => (hall e he).matched_iff
  refine ⟨es, _, hrun, hquestions, fun e he v => (hall e he).result_eq_ok_iff, hmatched, ?_,
    fun tip left' htip => askTipBy_eq_ok htip⟩
  intro horder
  rw [hmatched]
  exact horder.ids_iff hall hquestions

/-! ### Messages that come late -/

/-- A server whose messages come one after the other, whatever is sent to it; when there are no
more, the deadline passes. -/
def scripted : World (List (Except Accident String)) where
  get _ _ := pure (.ok ⟨200, ""⟩)
  connect _ _ := pure (.ok ())
  send _ := pure (.ok ())
  receive := fun messages =>
    match messages with
    | message :: rest => (message, rest)
    | [] => (.error ⟨.deadline, ""⟩, [])
  close := pure ()

/-- The tip, as the reply to the question with this number. -/
def replyTo (number : Char) : String :=
  String.ofList ['\x7b', '"', 'i', 'd', '"', ':', number, ',',
    '"', 'r', 'e', 's', 'u', 'l', 't', '"', ':',
    '\x7b', '"', 's', 'l', 'o', 't', '"', ':', '5', '\x7d', '\x7d']

theorem document_ofList {cs : List Char} {v : Json}
    (hmark : cs.head? ≠ some (Char.ofNat 0xFEFF))
    (h : Json.readValue (some Quantity.maxDigits) (cs.length + 1) (Json.skipBlanks cs) =
      .ok (v, [])) : document (String.ofList cs) = .ok v := by
  rw [document, Json.parse_ofList hmark, h]
  rfl

theorem document_replyTo_one :
    document (replyTo '1') =
      .ok (.obj [("id", .int 1), ("result", .obj [("slot", .int 5)])]) :=
  document_ofList (by decide) rfl

theorem document_replyTo_two :
    document (replyTo '2') =
      .ok (.obj [("id", .int 2), ("result", .obj [("slot", .int 5)])]) :=
  document_ofList (by decide) rfl

theorem idOf?_replyTo_one : idOf? (replyTo '1') = some (.int 1) := by
  rw [idOf?, document_replyTo_one]
  rfl

theorem idOf?_replyTo_two : idOf? (replyTo '2') = some (.int 2) := by
  rw [idOf?, document_replyTo_two]
  rfl

section Scripted

variable (asked : Nat) (method : String) (parameters : Json)
  (rest : List (Except Accident String))

theorem exchange_scripted_ok (message : String) :
    exchange scripted (⟨true, asked⟩, .ok message :: rest) method parameters =
      (.ofHeard ⟨asked + 1, method, parameters⟩ message, (⟨true, asked + 1⟩, rest)) := by
  rw [exchange, outcomeIn_ask, traffic, outcomeIn_ask, send_tapped]
  rfl

theorem exchange_scripted_error (a : Accident) :
    exchange scripted (⟨true, asked⟩, .error a :: rest) method parameters =
      (.ofLost ⟨asked + 1, method, parameters⟩ a, (⟨true, asked + 1⟩, rest)) := by
  rw [exchange, outcomeIn_ask, traffic, outcomeIn_ask, send_tapped]
  rfl

end Scripted

/-- The replies come in time, one after the other. -/
def lockstep : List (Except Accident String) :=
  [.ok (replyTo '1'), .ok (replyTo '2')]

def lockstepExchanges : List Exchange :=
  [.ofHeard ⟨1, "queryLedgerState/tip", .null⟩ (replyTo '1'),
    .ofHeard ⟨2, "queryNetwork/tip", .null⟩ (replyTo '2')]

theorem exchanges_lockstep :
    exchanges scripted (tipMethods.map fun method => (method, .null)) (⟨true, 0⟩, lockstep) =
      (lockstepExchanges, (⟨true, 2⟩, [])) := by
  simp only [tipMethods, List.map_cons, List.map_nil, exchanges, lockstep, exchange_scripted_ok]
  rfl

theorem inOrder_lockstep : InOrder lockstepExchanges := by
  have hheard : lockstepExchanges.filterMap Exchange.heard? = [replyTo '1', replyTo '2'] := rfl
  intro k message hmessage
  rw [hheard] at hmessage
  match k with
  | 0 =>
    obtain rfl := Option.some.inj hmessage
    exact ⟨_, rfl, idOf?_replyTo_one⟩
  | 1 =>
    obtain rfl := Option.some.inj hmessage
    exact ⟨_, rfl, idOf?_replyTo_two⟩
  | k + 2 => cases hmessage

theorem exchanges_matched_iff_lockstep :
    exchanges scripted (tipMethods.map fun method => (method, .null)) (⟨true, 0⟩, lockstep) =
        (lockstepExchanges, (⟨true, 2⟩, [])) ∧
      InOrder lockstepExchanges ∧ ∀ e ∈ lockstepExchanges, e.Matched := by
  obtain ⟨es, left, hrun, -, -, -, hmatched, -⟩ := exchanges_matched_iff scripted 0
    (tipMethods.map fun method => (method, .null)) lockstep
  obtain rfl : lockstepExchanges = es :=
    congrArg Prod.fst (exchanges_lockstep.symm.trans hrun)
  refine ⟨exchanges_lockstep, inOrder_lockstep, (hmatched inOrder_lockstep).mpr ?_⟩
  have hlost : ∀ e ∈ lockstepExchanges, e.lost = false := by
    simp [lockstepExchanges, Exchange.lost, Exchange.heard?, Exchange.ofHeard]
  intro earlier e later hsplit _ e' he'
  exact hlost e' (hsplit ▸ List.mem_append_left _ he')

theorem answer_replyTo_one :
    (document (replyTo '1') >>= answer) = .ok (.obj [("slot", .int 5)]) := by
  rw [document_replyTo_one]
  rfl

/-- The deadline passes before the reply to the first question comes. -/
def late : List (Except Accident String) :=
  [.error ⟨.deadline, ""⟩, .ok (replyTo '1')]

theorem askTip_late : (askTip scripted).outcomeIn (⟨true, 0⟩, late) =
    (.ok ⟨.int 5, .str "", .null⟩, (⟨true, 2⟩, [])) := by
  have hfirst : (ask scripted "queryLedgerState/tip" .null).outcomeIn (⟨true, 0⟩, late) =
      (.error (.query (.timedOut "queryLedgerState/tip")), (⟨true, 1⟩, [.ok (replyTo '1')])) := by
    rw [outcomeIn_ask]
    rfl
  have hsecond : (ask scripted "queryNetwork/tip" .null).outcomeIn
      (⟨true, 1⟩, [.ok (replyTo '1')]) = (.ok (.obj [("slot", .int 5)]), (⟨true, 2⟩, [])) := by
    rw [outcomeIn_ask, ← answer_replyTo_one]
    rfl
  rw [askTip, tipMethods, askTipBy, Work.outcomeIn_bind, Work.outcomeIn_attempt, hfirst]
  show Work.outcomeIn (askTipBy scripted ["queryNetwork/tip"]) (⟨true, 1⟩, [.ok (replyTo '1')]) = _
  rw [askTipBy, Work.outcomeIn_bind, Work.outcomeIn_attempt, hsecond]
  rfl

/-- The second question gets the answer to the first. -/
theorem late_not_matched :
    ∃ es left, exchanges scripted (tipMethods.map fun method => (method, .null))
        (⟨true, 0⟩, late) = (es, left) ∧
      (askTip scripted).outcomeIn (⟨true, 0⟩, late) =
        (.ok ⟨.int 5, .str "", .null⟩, left) ∧
      ∃ e, es.getLast? = some e ∧ e.question.number = 2 ∧ e.heard? = some (replyTo '1') ∧
        idOf? (replyTo '1') = some (.int 1) ∧ ¬ e.Matched := by
  rw [askTip_late]
  simp only [tipMethods, List.map_cons, List.map_nil, exchanges, late, exchange_scripted_error,
    exchange_scripted_ok]
  refine ⟨_, _, rfl, rfl, _, rfl, rfl, rfl, idOf?_replyTo_one, fun hmatched => ?_⟩
  obtain ⟨message, hheard, -, hnumber⟩ := hmatched _ answer_replyTo_one
  obtain rfl : replyTo '1' = message := Option.some.inj hheard
  rw [idOf?_replyTo_one] at hnumber
  cases hnumber

end TxDraft.Ogmios
