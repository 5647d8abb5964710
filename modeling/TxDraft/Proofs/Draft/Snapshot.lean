import Mathlib.Algebra.BigOperators.Group.List.Basic
import Mathlib.Algebra.GroupWithZero.Nat
import TxDraft.Proofs.Draft.Parts
import TxDraft.Proofs.Draft.Replay

/-!
# One snapshot

A draft asks the chain for the outputs at the source when the first output is looked up by its name,
and goes by that answer from then on, whatever the chain would answer later.  A step asks only if
nothing is remembered yet (`recalls_apply`), and a completion, which asks for reasons of its own,
leaves alone what is remembered (`sameSnapshot_complete`).

So in any run of operations, failures included, all steps together ask once at most, and every
lookup finds the first output of its name in the one answer, or fails with the name and stages
nothing (`lookUps_share_snapshot`).
-/

namespace TxDraft.Draft

open Ledger

variable {chain : Chain} {d left : Draft} {outputs : List Unspent}

/-! ### What a draft remembers -/

/-- What the second draft remembers of the chain is what the first one does, or the first one
remembered nothing and the chain was asked once. -/
inductive Recalls (chain : Chain) (d left : Draft) : Prop
  | same (snapshot : left.snapshot = d.snapshot) (questions : left.questions = d.questions)
  | first (nothing : d.snapshot = none)
    (snapshot : left.snapshot = some (chain.atSource d.questions))
    (questions : left.questions = d.questions + 1)

instance : Std.Refl (Recalls chain) :=
  ⟨fun _ => .same rfl rfl⟩

/-- What was asked once is not asked again. -/
theorem Recalls.trans {between : Draft} (h : Recalls chain d between)
    (h' : Recalls chain between left) : Recalls chain d left := by
  cases h with
  | same hsnapshot hquestions =>
    cases h' with
    | same hsnapshot' hquestions' =>
      exact .same (hsnapshot'.trans hsnapshot) (hquestions'.trans hquestions)
    | first hnothing hsnapshot' hquestions' =>
      rw [hsnapshot] at hnothing
      rw [hquestions] at hsnapshot' hquestions'
      exact .first hnothing hsnapshot' hquestions'
  | first hnothing hsnapshot hquestions =>
    cases h' with
    | same hsnapshot' hquestions' =>
      exact .first hnothing (hsnapshot'.trans hsnapshot) (hquestions'.trans hquestions)
    | first hnothing' =>
      rw [hsnapshot] at hnothing'
      cases hnothing'

instance : Trans (Recalls chain) (Recalls chain) (Recalls chain) :=
  ⟨Recalls.trans⟩

theorem recalls_change {f : Draft → Draft} (h : Staging f) (d : Draft) : Recalls chain d (f d) := by
  rw [h.kept d]
  exact .same rfl rfl

theorem recalls_sourceOutputs : (sourceOutputs chain).Leads (Recalls chain) := by
  intro d
  rw [sourceOutputs, Work.outcomeIn_get_bind]
  cases hsnapshot : d.snapshot with
  | none => exact .first hsnapshot rfl rfl
  | some outputs => exact .same rfl rfl

theorem recalls_scriptFor (action : String) : (scriptFor action).Leads (Recalls chain) := by
  intro d
  rw [scriptFor, Work.outcomeIn_get_bind]
  cases d.plutusScript <;> exact .same rfl rfl

theorem recalls_setPolicy (strategy : FeeStrategy) (multiplier : Option Binary64)
    (feeBuffer : Option Int) : (setPolicy strategy multiplier feeBuffer).Leads (Recalls chain) := by
  intro d
  unfold setPolicy
  cases multiplier.any (!·.isOne) <;> exact .same rfl rfl

/-- A step asks the chain once at most, and only if nothing is remembered yet. -/
theorem recalls_apply (step : Step) : (apply chain step).Leads (Recalls chain) := by
  have hparts : Compositional chain fun _ work => work.Leads (Recalls chain) :=
    ⟨Work.Leads.ofAttempt, Work.Leads.bind, fun hf => Work.Leads.change (recalls_change hf),
      recalls_sourceOutputs, recalls_scriptFor⟩
  exact hparts.apply step fun strategy multiplier feeBuffer _ =>
    recalls_setPolicy strategy multiplier feeBuffer

/-! ### Completing -/

/-- The same snapshot is remembered. -/
def SameSnapshot (d left : Draft) : Prop :=
  left.snapshot = d.snapshot

instance : Std.Refl SameSnapshot :=
  ⟨fun _ => rfl⟩

instance : Trans SameSnapshot SameSnapshot SameSnapshot :=
  ⟨fun h h' => Eq.trans h' h⟩

theorem sameSnapshot_change {f : Draft → Draft} (h : ∀ d, (f d).snapshot = d.snapshot) :
    (Work.change f).Leads SameSnapshot :=
  .change h

theorem sameSnapshot_select : (select chain).Leads SameSnapshot := by
  refine Work.Leads.get.bind fun d => ?_
  refine (Work.Leads.ofAttempt _).bind fun fee => ?_
  rcases d.shortage chain fee with ⟨missing, held⟩
  by_cases hcovered : isCovered missing
  · simp only [hcovered, if_true]
    exact sameSnapshot_change fun _ => rfl
  · simp only [hcovered, Bool.false_eq_true, if_false]
    refine Work.Leads.bind ?_ fun _ => ?_
    · exact sameSnapshot_change fun _ => rfl
    · exact (Work.Leads.ofAttempt _).bind fun more => sameSnapshot_change fun _ => rfl

theorem sameSnapshot_settle (outputs : List Output) :
    (settle chain outputs).Leads SameSnapshot := by
  refine Work.Leads.get.bind fun d => ?_
  refine (Work.Leads.ofAttempt _).bind fun fee => ?_
  refine Work.Leads.bind ?_ fun _ => ?_
  · exact sameSnapshot_change fun _ => rfl
  refine Work.Leads.get.bind fun d => ?_
  exact (Work.Leads.ofAttempt _).bind fun change => sameSnapshot_change fun _ => rfl

theorem sameSnapshot_withWindow (d : Draft) : (d.withWindow chain).snapshot = d.snapshot := by
  unfold withWindow
  split <;> rfl

theorem sameSnapshot_withSigners (d : Draft) : d.withSigners.snapshot = d.snapshot := by
  unfold withSigners
  split <;> rfl

theorem sameSnapshot_balance : (balance chain).Leads SameSnapshot := by
  refine Work.Leads.get.bind fun d => ?_
  refine .refused_or ?_
  refine Work.Leads.bind ?_ fun _ => ?_
  · exact sameSnapshot_change fun d => sameSnapshot_withWindow d
  refine sameSnapshot_select.bind fun _ => ?_
  refine Work.Leads.bind ?_ fun _ => ?_
  · exact sameSnapshot_change sameSnapshot_withSigners
  refine Work.Leads.get.bind fun d => ?_
  refine (sameSnapshot_settle _).bind fun _ => ?_
  refine (sameSnapshot_settle _).bind fun _ => ?_
  exact Work.Leads.get.bind fun d => .ofAttempt (.ok _)

/-- A completion asks the chain for reasons of its own, and keeps no answer. -/
theorem sameSnapshot_complete : (complete chain).Leads SameSnapshot := by
  refine Work.Leads.bind ?_ fun _ => ?_
  · exact sameSnapshot_change fun _ => rfl
  refine Work.Leads.get.bind fun d => ?_
  split
  · exact Work.Leads.within fun _ _ => rfl
  · exact sameSnapshot_balance

/-! ### Looking up by name -/

/-- The output has this name. -/
def HasName (hash : String) (index : Int) (u : Unspent) : Prop :=
  Hex.encode u.name.transaction = hash ∧ u.name.index = index

/-- The operation looks up the output of this name, for a collateral or to spend it without a
redeemer; the entry is what the output is staged as. -/
inductive LooksUp (hash : String) (index : Int) : Operation → (Unspent → Entry) → Prop
  | collateral : LooksUp hash index (.step (.addCollateral ⟨hash, index, none⟩)) .collateral
  | spend {redeemer : Option String} (without : given redeemer = none) :
    LooksUp hash index (.step (.spendUtxo ⟨hash, index, none⟩ redeemer)) fun u => .spend u none

/-- The outputs at the source as the draft sees them, now or from now on. -/
def seen (chain : Chain) (d : Draft) : List Unspent :=
  d.snapshot.getD (chain.atSource d.questions)

theorem isNamed_iff {hash : String} {index : Int} {u : Unspent} :
    isNamed (some hash) (some index) u = true ↔ HasName hash index u := by
  simp [isNamed, HasName]

theorem snapshot_put (d : Draft) (e : Entry) : (d.put e).snapshot = d.snapshot := by
  cases e <;> rfl

theorem outcomeIn_sourceOutputs_seen (chain : Chain) (d : Draft) :
    ∃ asked, (sourceOutputs chain).outcomeIn d = (.ok (d.seen chain), asked) ∧
      asked.unasked = d.unasked ∧ asked.snapshot = some (d.seen chain) ∧
      (asked.questions - d.questions = 0 → asked = d) := by
  rw [sourceOutputs, Work.outcomeIn_get_bind, seen]
  cases hsnapshot : d.snapshot with
  | none =>
    have hone : d.questions + 1 - d.questions ≠ 0 := by omega
    exact ⟨_, rfl, rfl, rfl, fun hzero => absurd hzero hone⟩
  | some outputs => exact ⟨d, rfl, rfl, hsnapshot, fun _ => rfl⟩

/-- A step that looks up an output stages what it finds. -/
theorem apply_of_looksUp {hash : String} {index : Int} {step : Step} {entry : Unspent → Entry}
    (h : LooksUp hash index (.step step) entry) :
    apply chain step =
      lookUp chain ⟨hash, index, none⟩ >>= fun u => Work.change fun d => d.put (entry u) := by
  cases h with
  | collateral => rfl
  | @spend redeemer without =>
    show spend chain _ redeemer = _
    rw [spend, without]
    rfl

/-! ### Runs of operations -/

/-- An operation on a draft: what it found, what became of it, and what it left. -/
structure Turn where
  before : Draft
  operation : Operation
  result : Attempt (Outcome Chain)
  left : Draft

/-- The turn of an operation. -/
def turn (chain : Chain) (d : Draft) (operation : Operation) : Turn :=
  let (result, left) := (outcome chain operation).outcomeIn d
  ⟨d, operation, result, left⟩

/-- One operation after the other, whether they fail or not. -/
def turns (chain : Chain) (d : Draft) : List Operation → List Turn
  | [] => []
  | operation :: rest =>
    let t := turn chain d operation
    t :: turns chain t.left rest

/-- How often a step asked the chain.  The questions of a completion are not counted. -/
def Turn.asked (t : Turn) : Nat :=
  match t.operation with
  | .step _ => t.left.questions - t.before.questions
  | .complete => 0

/-- How often all steps of a run asked the chain. -/
def asked (run : List Turn) : Nat :=
  (run.map Turn.asked).sum

/-- What a lookup among some outputs comes to: the first one of the name is staged, or there is
none, and the lookup fails with the name and stages nothing.  Unless it is the one that asks the
chain, a lookup that fails leaves the draft just as it was. -/
inductive Found (outputs : List Unspent) (hash : String) (index : Int) (entry : Unspent → Entry)
    (t : Turn) : Prop
  | first {u : Unspent} {front behind : List Unspent} (among : outputs = front ++ u :: behind)
    (named : HasName hash index u) (before : ∀ v ∈ front, ¬ HasName hash index v)
    (done : t.result = .ok .nothing) (staged : t.left.unasked = (t.before.put (entry u)).unasked)
  | missing (none : ∀ u ∈ outputs, ¬ HasName hash index u)
    (failed :
      t.result = .error (.compilation (.notAtSource (hash ++ "#" ++ toString index)) .unknown))
    (kept : t.left.unasked = t.before.unasked) (same : t.asked = 0 → t.left = t.before)

/-- The lookups of a run go by one snapshot, the answer to the question of this number. -/
structure OneSnapshot (chain : Chain) (run : List Turn) (question : Nat) : Prop where
  /-- The steps of the run ask the chain once at most. -/
  once : asked run ≤ 1
  /-- If one asks, this is its question. -/
  taken : ∀ t ∈ run, t.asked ≠ 0 → t.before.questions = question
  /-- By the end of a lookup the chain was asked. -/
  needed : ∀ earlier t later, run = earlier ++ t :: later → ∀ hash index entry,
    LooksUp hash index t.operation entry → asked (earlier ++ [t]) = 1
  /-- Every lookup is made among the outputs of the answer. -/
  found : ∀ t ∈ run, ∀ hash index entry, LooksUp hash index t.operation entry →
    Found (chain.atSource question) hash index entry t

theorem turn_step (chain : Chain) (d : Draft) (step : Step) :
    turn chain d (.step step) =
      ⟨d, .step step, ((apply chain step).outcomeIn d).1.map fun _ => .nothing,
        ((apply chain step).outcomeIn d).2⟩ := by
  have hrun : (outcome chain (.step step)).outcomeIn d =
      (((apply chain step).outcomeIn d).1.map fun _ => .nothing,
        ((apply chain step).outcomeIn d).2) := by
    show (apply chain step >>= fun _ => pure Outcome.nothing).outcomeIn d = _
    rw [Work.outcomeIn_bind]
    rcases (apply chain step).outcomeIn d with ⟨_ | _, left⟩ <;> rfl
  rw [turn, hrun]

/-- A lookup is made among the outputs that the draft sees, and they are remembered. -/
theorem found_turn (chain : Chain) {hash : String} {index : Int} {operation : Operation}
    {entry : Unspent → Entry} (h : LooksUp hash index operation entry) (d : Draft) :
    Found (d.seen chain) hash index entry (turn chain d operation) ∧
      (turn chain d operation).left.snapshot = some (d.seen chain) := by
  obtain ⟨step, rfl⟩ : ∃ step, operation = .step step := by
    cases h <;> exact ⟨_, rfl⟩
  obtain ⟨known, hask, hunasked, hsnapshot, hsame⟩ := outcomeIn_sourceOutputs_seen chain d
  have hlookUp : (lookUp chain ⟨hash, index, none⟩).outcomeIn d =
      (((d.seen chain).find? (isNamed hash index)).elim
        (.error (complaint (.notAtSource (nameText hash index)))) .ok, known) := by
    show Work.outcomeIn (sourceOutputs chain >>= fun _ => _) d = _
    simp only [Work.outcomeIn_bind, hask]
    cases (d.seen chain).find? (isNamed hash index) <;> rfl
  rw [turn_step, apply_of_looksUp h, Work.outcomeIn_bind, hlookUp]
  cases hfind : (d.seen chain).find? (isNamed hash index) with
  | none =>
    refine ⟨.missing ?_ rfl hunasked hsame, hsnapshot⟩
    intro u hu hnamed
    exact List.find?_eq_none.mp hfind u hu (isNamed_iff.mpr hnamed)
  | some u =>
    obtain ⟨hnamed, front, behind, hamong, hfront⟩ := List.find?_eq_some_iff_append.mp hfind
    have hbefore : ∀ v ∈ front, ¬ HasName hash index v := by
      intro v hv hname
      have hnot := hfront v hv
      rw [isNamed_iff.mpr hname] at hnot
      cases hnot
    have hstaged : (known.put (entry u)).unasked = (d.put (entry u)).unasked := by
      rw [unasked_put, hunasked, ← unasked_put]
    exact ⟨.first hamong (isNamed_iff.mp hnamed) hbefore rfl hstaged,
      (snapshot_put known (entry u)).trans hsnapshot⟩

/-- A turn asks nothing and keeps what is remembered, or nothing was remembered and it asks once. -/
theorem remembered_turn (chain : Chain) (d : Draft) (operation : Operation) :
    (turn chain d operation).left.snapshot = d.snapshot ∧ (turn chain d operation).asked = 0 ∨
      d.snapshot = none ∧
        (turn chain d operation).left.snapshot = some (chain.atSource d.questions) ∧
        (turn chain d operation).asked = 1 := by
  cases operation with
  | complete =>
    have hkept : (turn chain d .complete).left.snapshot = d.snapshot :=
      sameSnapshot_complete.bind (fun _ => .ofAttempt (.ok _)) d
    exact .inl ⟨hkept, rfl⟩
  | step step =>
    have hrecalls : Recalls chain d (turn chain d (.step step)).left := by
      rw [turn_step]
      exact recalls_apply step d
    have hasked : (turn chain d (.step step)).asked =
        (turn chain d (.step step)).left.questions - d.questions := rfl
    cases hrecalls with
    | same hsnapshot hquestions => exact .inl ⟨hsnapshot, by omega⟩
    | first hnothing hsnapshot hquestions => exact .inr ⟨hnothing, hsnapshot, by omega⟩

/-- A draft that remembers a snapshot asks nothing any more, and looks up among the outputs of the
snapshot. -/
theorem turns_of_known (chain : Chain) (operations : List Operation)
    (h : d.snapshot = some outputs) :
    ∀ t ∈ turns chain d operations, t.asked = 0 ∧
      ∀ hash index entry, LooksUp hash index t.operation entry →
        Found outputs hash index entry t := by
  induction operations generalizing d with
  | nil => exact fun t ht => absurd ht List.not_mem_nil
  | cons operation rest ih =>
    have hseen : d.seen chain = outputs := by
      rw [seen, h]
      rfl
    rcases remembered_turn chain d operation with ⟨hkept, hidle⟩ | ⟨hnothing, -⟩
    · intro t ht
      rcases List.mem_cons.mp ht with rfl | ht
      · exact ⟨hidle, fun hash index entry hlooks => hseen ▸ (found_turn chain hlooks d).1⟩
      · exact ih (hkept.trans h) t ht
    · rw [h] at hnothing
      cases hnothing

/-! ### One snapshot for a run -/

theorem asked_cons (t : Turn) (run : List Turn) : asked (t :: run) = t.asked + asked run := by
  rw [asked, List.map_cons, List.sum_cons, asked]

theorem asked_of_idle {run : List Turn} (h : ∀ t ∈ run, t.asked = 0) : asked run = 0 := by
  induction run with
  | nil => rfl
  | cons t rest ih =>
    obtain ⟨ht, hrest⟩ := List.forall_mem_cons.mp h
    rw [asked_cons, ht, ih hrest]

namespace OneSnapshot

theorem nil : OneSnapshot chain [] 0 where
  once := Nat.zero_le 1
  taken _ ht := absurd ht List.not_mem_nil
  needed earlier t later hrun := absurd hrun (List.append_ne_nil_of_right_ne_nil _ (by simp)).symm
  found _ ht := absurd ht List.not_mem_nil

variable {t : Turn} {run : List Turn} {question : Nat}

/-- A turn in front that neither asks nor looks anything up. -/
theorem cons_idle (hidle : t.asked = 0)
    (hnone : ∀ hash index entry, ¬ LooksUp hash index t.operation entry)
    (h : OneSnapshot chain run question) : OneSnapshot chain (t :: run) question where
  once := by
    rw [asked_cons, hidle, Nat.zero_add]
    exact h.once
  taken := by
    intro t' ht' hasked
    rcases List.mem_cons.mp ht' with rfl | ht'
    · exact absurd hidle hasked
    · exact h.taken t' ht' hasked
  needed := by
    intro earlier t' later hrun hash index entry hlooks
    cases earlier with
    | nil =>
      obtain ⟨rfl, -⟩ := List.cons.inj hrun
      exact absurd hlooks (hnone hash index entry)
    | cons first earlier =>
      obtain ⟨rfl, hrest⟩ := List.cons.inj hrun
      rw [List.cons_append, asked_cons, hidle, Nat.zero_add]
      exact h.needed earlier t' later hrest hash index entry hlooks
  found := by
    intro t' ht' hash index entry hlooks
    rcases List.mem_cons.mp ht' with rfl | ht'
    · exact absurd hlooks (hnone hash index entry)
    · exact h.found t' ht' hash index entry hlooks

/-- A turn in front that asks, so that nothing behind it asks again. -/
theorem cons_asking (hasks : t.asked = 1) (hquestion : t.before.questions = question)
    (hrun : ∀ t' ∈ run, t'.asked = 0)
    (hfound : ∀ t' ∈ t :: run, ∀ hash index entry, LooksUp hash index t'.operation entry →
      Found (chain.atSource question) hash index entry t') :
    OneSnapshot chain (t :: run) question where
  once := by
    have honce : asked (t :: run) = 1 := by
      rw [asked_cons, hasks, asked_of_idle hrun]
    exact Nat.le_of_eq honce
  taken := by
    intro t' ht' hasked
    rcases List.mem_cons.mp ht' with rfl | ht'
    · exact hquestion
    · exact absurd (hrun t' ht') hasked
  needed := by
    intro earlier t' later hsplit hash index entry hlooks
    cases earlier with
    | nil =>
      obtain ⟨rfl, -⟩ := List.cons.inj hsplit
      rw [List.nil_append, asked_cons, hasks]
      rfl
    | cons first earlier =>
      obtain ⟨rfl, hrest⟩ := List.cons.inj hsplit
      have hbefore : ∀ other ∈ earlier ++ [t'], other.asked = 0 := by
        intro other hother
        refine hrun other ?_
        rw [hrest, List.append_eq, List.append_cons]
        exact List.mem_append_left _ hother
      rw [List.cons_append, asked_cons, hasks, asked_of_idle hbefore]
  found := hfound

end OneSnapshot

theorem oneSnapshot_turns (operations : List Operation) (h : d.snapshot = none) :
    ∃ question, OneSnapshot chain (turns chain d operations) question := by
  induction operations generalizing d with
  | nil => exact ⟨0, .nil⟩
  | cons operation rest ih =>
    rcases remembered_turn chain d operation with
      ⟨hkept, hidle⟩ | ⟨-, hsnapshot, hasks⟩
    · -- nothing is remembered yet, so nothing was looked up
      obtain ⟨question, hrest⟩ := ih (hkept.trans h)
      refine ⟨question, .cons_idle hidle ?_ hrest⟩
      intro hash index entry hlooks
      have hremembered : (turn chain d operation).left.snapshot = some (d.seen chain) :=
        (found_turn chain hlooks d).2
      rw [hkept, h] at hremembered
      cases hremembered
    · have hseen : d.seen chain = chain.atSource d.questions := by
        rw [seen, h]
        rfl
      have hrest := turns_of_known chain rest hsnapshot
      refine ⟨d.questions, .cons_asking hasks rfl (fun t ht => (hrest t ht).1) ?_⟩
      intro t ht hash index entry hlooks
      rcases List.mem_cons.mp ht with rfl | ht
      · exact hseen ▸ (found_turn chain hlooks d).1
      · exact (hrest t ht).2 hash index entry hlooks

/-- In every run of operations on a fresh draft the lookups go by one snapshot: the chain is asked
once at most for them, and each finds the first output of its name in that answer, or fails with the
name and stages nothing, whatever came before it. -/
theorem lookUps_share_snapshot (chain : Chain) (source : Address) (operations : List Operation) :
    ∃ question, OneSnapshot chain (turns chain (empty source) operations) question :=
  oneSnapshot_turns operations rfl

end TxDraft.Draft
