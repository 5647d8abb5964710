import TxDraft.Probe
import TxDraft.Proofs.Json.Parser
import TxDraft.Proofs.World

/-!
# Findings of probes

What asking an endpoint comes to is a finding: a reply, or one of the ways in which the network
fails (`Finds`).  A probe judges its finding, and nothing else (`Finds.outcomeIn_judge`).

A reply is well unless its document says otherwise, read without a limit on the digits of its
numbers; a document that holds a number that is too long is not looked at (`isHealthy_iff`).
-/

namespace TxDraft

variable {σ : Type}

/-! ### Requests by text -/

theorem World.outcomeIn_visit (w : World σ) (url : String) (deadline : Seconds) (world : σ) :
    (w.visit url deadline).outcomeIn world =
      match target .empty url with
      | .error f => (.error f, world)
      | .ok u =>
        (((w.get u deadline).run world).1.mapError fun a => .unexpected (.accident a),
          ((w.get u deadline).run world).2) := by
  unfold World.visit
  rw [Work.outcomeIn_bind, Work.outcomeIn_ofAttempt]
  cases World.target .empty url <;> rfl

/-- An address that cannot be used is told as such. -/
theorem World.target_eq_error {base : Url} {url : String} {f : Failure}
    (h : target base url = .error f) : f = .unexpected .address := by
  unfold World.target at h
  split at h
  · cases h
  · cases h
    rfl

/-! ### Documents of replies -/

namespace Reply

/-- The body without the mark that may stand in front of it. -/
def unmarked (r : Reply) : String :=
  if r.body.toList.head? = some byteOrderMark then String.ofList r.body.toList.tail else r.body

/-- The body is an object that says, under this name, that it is not so. -/
def Denies (r : Reply) (name : String) : Prop :=
  ∃ fields, Json.parse none r.unmarked = .ok (.obj fields) ∧
    Json.field? fields name = some (.bool false)

/-- Reading the body stops at an integer with too many digits. -/
def Overlong (r : Reply) : Prop :=
  ∃ fault, r.document = .error fault ∧ fault.isLongNumber = true

theorem document_eq_parse (r : Reply) :
    r.document = Json.parse none r.unmarked ∨ r.Overlong :=
  Json.agrees_parse Quantity.maxDigits r.unmarked

end Reply

namespace Probe

/-! ### Findings -/

/-- What asking an endpoint comes to. -/
inductive Finding where
  | reply (r : Reply)
  | timeout
  | broken (name message : String)
  | unaddressed
  deriving DecidableEq

/-- Asking for an address comes to this finding, and leaves this world. -/
inductive Finds (w : World σ) (url : String) (deadline : Seconds) (world : σ) : Finding → σ → Prop
  | noTime (h : deadline.isOver = true) : Finds w url deadline world .timeout world
  | unaddressed (h : deadline.isOver = false) {f : Failure}
      (htarget : World.target .empty url = .error f) : Finds w url deadline world .unaddressed world
  | reply (h : deadline.isOver = false) {u : Url} (htarget : World.target .empty url = .ok u)
      {r : Reply} {left : σ} (hget : (w.get u deadline).run world = (.ok r, left)) :
      Finds w url deadline world (.reply r) left
  | timeout (h : deadline.isOver = false) {u : Url} (htarget : World.target .empty url = .ok u)
      {message : String} {left : σ}
      (hget : (w.get u deadline).run world = (.error ⟨.deadline, message⟩, left)) :
      Finds w url deadline world .timeout left
  | broken (h : deadline.isOver = false) {u : Url} (htarget : World.target .empty url = .ok u)
      {name message : String} {left : σ}
      (hget : (w.get u deadline).run world = (.error ⟨.transport name, message⟩, left)) :
      Finds w url deadline world (.broken name message) left
  | refused (h : deadline.isOver = false) {u : Url} (htarget : World.target .empty url = .ok u)
      {message : String} {left : σ}
      (hget : (w.get u deadline).run world = (.error ⟨.address, message⟩, left)) :
      Finds w url deadline world .unaddressed left

/-- Is this the answer to a request that came to a finding?  All but a reply are failures of the
network. -/
def Finding.Answers : Finding → Attempt Reply → Prop
  | reply r, answer => answer = .ok r
  | _, answer => ∃ cause, answer = .error (.transient cause)

/-- The judgement on a finding: only a reply can be judged well. -/
def Finding.judged (yes : Reply → Bool) : Finding → Bool
  | reply r => yes r
  | _ => false

/-- With time, and an address that can be used, it is asked for. -/
theorem outcomeIn_fetch (w : World σ) {url : String} {deadline : Seconds} {u : Url}
    (h : deadline.isOver = false) (htarget : World.target .empty url = .ok u) (world : σ) :
    (fetch w url deadline).outcomeIn world =
      (((w.get u deadline).run world).1.mapError fun a =>
        word url deadline (.unexpected (.accident a)), ((w.get u deadline).run world).2) := by
  unfold fetch
  rw [if_neg (by rw [h]; exact Bool.false_ne_true), Work.outcomeIn_mapFailure,
    World.outcomeIn_visit]
  simp only [htarget]
  cases ((w.get u deadline).run world).1 <;> rfl

theorem Finds.outcomeIn_fetch {w : World σ} {url : String} {deadline : Seconds} {world left : σ}
    {finding : Finding} (h : Finds w url deadline world finding left) :
    ∃ answer, (fetch w url deadline).outcomeIn world = (answer, left) ∧
      finding.Answers answer := by
  cases h with
  | noTime h =>
    unfold fetch
    rw [if_pos h]
    exact ⟨_, rfl, _, rfl⟩
  | unaddressed h htarget =>
    unfold fetch
    rw [if_neg (by rw [h]; exact Bool.false_ne_true), Work.outcomeIn_mapFailure,
      World.outcomeIn_visit]
    simp only [htarget, World.target_eq_error htarget]
    exact ⟨_, rfl, _, rfl⟩
  | reply h htarget hget =>
    rw [Probe.outcomeIn_fetch w h htarget, hget]
    exact ⟨_, rfl, rfl⟩
  | timeout h htarget hget | broken h htarget hget | refused h htarget hget =>
    rw [Probe.outcomeIn_fetch w h htarget, hget]
    exact ⟨_, rfl, _, rfl⟩

/-- A probe judges its finding. -/
theorem Finds.outcomeIn_judge {w : World σ} {url : String} {deadline : Seconds} {world left : σ}
    {finding : Finding} (h : Finds w url deadline world finding left) (yes : Reply → Bool) :
    (judge w yes url deadline).outcomeIn world = (.ok (finding.judged yes), left) := by
  obtain ⟨answer, hfetch, hanswer⟩ := h.outcomeIn_fetch
  unfold judge
  rw [Work.outcomeIn_bind, Work.outcomeIn_attempt, hfetch]
  cases finding with
  | reply r =>
    obtain rfl : answer = .ok r := hanswer
    rfl
  | _ =>
    obtain ⟨cause, rfl⟩ := hanswer
    rfl

/-! ### Judgements -/

theorem isAlive_iff (r : Reply) : isAlive r = true ↔ r.status < 500 := by
  rw [isAlive, Bool.or_eq_true, decide_eq_true_iff, Reply.isSuccess, Bool.and_eq_true,
    decide_eq_true_iff, decide_eq_true_iff]
  omega

theorem deniesHealth_iff (v : Json) :
    deniesHealth v = true ↔
      ∃ fields, v = .obj fields ∧ Json.field? fields "is_healthy" = some (.bool false) := by
  cases v with
  | obj fields =>
    rw [deniesHealth, Json.field]
    constructor
    · intro h
      split at h
      · rename_i hfalse
        cases hfield : Json.field? fields "is_healthy" with
        | none =>
          rw [hfield] at hfalse
          cases hfalse
        | some v =>
          rw [hfield] at hfalse
          exact ⟨fields, rfl, hfield.trans (congrArg some hfalse)⟩
      · cases h
    · rintro ⟨_, ⟨⟩, hfield⟩
      rw [hfield]
      rfl
  | _ => simp [deniesHealth]

/-- A reply is well if it is a success whose body does not say otherwise, as far as its numbers can
be read. -/
theorem isHealthy_iff (r : Reply) :
    isHealthy r = true ↔
      (200 ≤ r.status ∧ r.status ≤ 299) ∧ (r.Denies "is_healthy" → r.Overlong) := by
  have hsuccess : r.isSuccess = true ↔ 200 ≤ r.status ∧ r.status ≤ 299 := by
    rw [Reply.isSuccess, Bool.and_eq_true, decide_eq_true_iff, decide_eq_true_iff]
  rw [isHealthy, Bool.and_eq_true, hsuccess]
  refine and_congr_right fun _ => ?_
  cases hdocument : r.document with
  | error fault =>
    -- what cannot be read is taken for well, even if it would deny health
    refine ⟨fun _ ⟨fields, hparse, _⟩ => ?_, fun _ => rfl⟩
    rcases r.document_eq_parse with hsame | hlong
    · rw [hsame, hparse] at hdocument
      cases hdocument
    · exact hlong
  | ok v =>
    have hshort : ¬ r.Overlong := by
      rintro ⟨fault, hfault, -⟩
      rw [hdocument] at hfault
      cases hfault
    have hparse : Json.parse none r.unmarked = .ok v :=
      (r.document_eq_parse.resolve_right hshort).symm.trans hdocument
    have hdenies : r.Denies "is_healthy" ↔ deniesHealth v = true := by
      rw [deniesHealth_iff, Reply.Denies, hparse]
      simp only [Except.ok.injEq]
    simp only [hdenies, hshort, Bool.not_eq_true', imp_false, Bool.not_eq_true]

/-! ### A number that is too long -/

/-- The digits of a number, and the end of an object. -/
def onesThenEnd (n : Nat) : List Char :=
  List.replicate (n + 1) '1' ++ ['\x7d']

/-- An object that denies health, and tells a height of so many digits and one more. -/
def deniedAtHeight (n : Nat) : List Char :=
  ['\x7b', '"', 'i', 's', '_', 'h', 'e', 'a', 'l', 't', 'h', 'y', '"', ':', 'f', 'a', 'l', 's',
    'e', ','] ++ (['"', 'h', '"', ':'] ++ onesThenEnd n)

theorem readNumber_ones (limit : Json.DigitLimit) (n : Nat) :
    Json.readNumber limit false (onesThenEnd n) =
      if limit.any (· < n + 1) then .error ⟨.tooManyDigits (n + 1), n + 2⟩
      else .ok (.int (Text.decimalValue (List.replicate (n + 1) '1')), ['\x7d']) := by
  have hdigits : (onesThenEnd n).takeWhile Text.isAsciiDigit = List.replicate (n + 1) '1' := by
    rw [onesThenEnd, List.takeWhile_append_of_pos]
    · exact List.append_nil _
    · intro c hc
      rw [List.eq_of_mem_replicate hc]
      decide
  have hfirst : (onesThenEnd n).head? ≠ some '0' := by
    show some '1' ≠ some '0'
    decide
  have hrest : (onesThenEnd n).drop (n + 1) = ['\x7d'] := by
    rw [onesThenEnd, List.drop_left' List.length_replicate]
  have hlength : (onesThenEnd n).length = n + 2 := by
    rw [onesThenEnd, List.length_append, List.length_replicate]
    rfl
  unfold Json.readNumber
  simp only [if_neg hfirst, hdigits, hrest, hlength, List.length_replicate]
  rfl

theorem readFields_height (limit : Json.DigitLimit) (fuel n : Nat) :
    Json.readFields limit (fuel + 2) (['"', 'h', '"', ':'] ++ onesThenEnd n) =
      if limit.any (· < n + 1) then .error ⟨.tooManyDigits (n + 1), n + 2⟩
      else .ok ([("h", .int (Text.decimalValue (List.replicate (n + 1) '1')))], []) := by
  show (Json.readNumber limit false (onesThenEnd n) >>= _) = _
  rw [readNumber_ones]
  split <;> rfl

theorem readValue_deniedAtHeight (limit : Json.DigitLimit) (fuel n : Nat) :
    Json.readValue limit (fuel + 4) (deniedAtHeight n) =
      if limit.any (· < n + 1) then .error ⟨.tooManyDigits (n + 1), n + 2⟩
      else .ok (.obj [("is_healthy", .bool false),
        ("h", .int (Text.decimalValue (List.replicate (n + 1) '1')))], []) := by
  have hread : Json.readValue limit (fuel + 4) (deniedAtHeight n) =
      (Json.readFields limit (fuel + 2) (['"', 'h', '"', ':'] ++ onesThenEnd n) >>= fun read =>
        pure ((.plain "is_healthy", Json.bool false) :: read.1, read.2)) >>= fun read =>
          pure (.obj (Entries.ofPairs read.1), read.2) := rfl
  rw [hread, readFields_height]
  split <;> rfl

theorem parse_deniedAtHeight (limit : Json.DigitLimit) (n : Nat) :
    Json.parse limit (String.ofList (deniedAtHeight n)) =
      if limit.any (· < n + 1) then .error ⟨.tooManyDigits (n + 1), n + 2⟩
      else .ok (.obj [("is_healthy", .bool false),
        ("h", .int (Text.decimalValue (List.replicate (n + 1) '1')))]) := by
  have hmark : (deniedAtHeight n).head? ≠ some (Char.ofNat 0xFEFF) := by
    show some '\x7b' ≠ some (Char.ofNat 0xFEFF)
    decide
  -- the readers count their fuel down from the length of the text
  have hfuel : (deniedAtHeight n).length + 1 = n + 23 + 4 := by
    rw [deniedAtHeight, onesThenEnd, List.length_append, List.length_append, List.length_append,
      List.length_replicate]
    simp only [List.length_cons, List.length_nil]
    omega
  have hblanks : Json.skipBlanks (deniedAtHeight n) = deniedAtHeight n := rfl
  rw [Json.parse_ofList hmark, hfuel, hblanks, readValue_deniedAtHeight]
  split <;> rfl

/-- A reply that says that the server is not healthy, and tells a height that is too long. -/
def overlong : Reply :=
  ⟨200, String.ofList (deniedAtHeight Quantity.maxDigits)⟩

theorem unmarked_overlong :
    overlong.unmarked = String.ofList (deniedAtHeight Quantity.maxDigits) := by
  rw [Reply.unmarked, overlong, String.toList_ofList]
  exact if_neg (by decide)

theorem denies_overlong : overlong.Denies "is_healthy" := by
  refine ⟨[("is_healthy", .bool false),
    ("h", .int (Text.decimalValue (List.replicate (Quantity.maxDigits + 1) '1')))], ?_, rfl⟩
  rw [unmarked_overlong, parse_deniedAtHeight]
  exact if_neg Bool.false_ne_true

theorem overlong_overlong : overlong.Overlong := by
  refine ⟨⟨.tooManyDigits (Quantity.maxDigits + 1), Quantity.maxDigits + 2⟩, ?_, rfl⟩
  show Json.parse (some Quantity.maxDigits) overlong.unmarked = _
  rw [unmarked_overlong, parse_deniedAtHeight]
  exact if_pos (by decide)

theorem isHealthy_overlong : isHealthy overlong = true := by
  have hstatus : overlong.status = 200 := rfl
  rw [isHealthy_iff, hstatus]
  exact ⟨by decide, fun _ => overlong_overlong⟩

end Probe

end TxDraft
