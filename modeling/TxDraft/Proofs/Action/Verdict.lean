import TxDraft.Action.Validation

/-!
# Verdicts on single documents

What a verdict says of the document: an object with the tag of a kind is judged by its fields
(`judge_of_tagged`), and anything else is refused with a single issue (`judge_cases`).  The fields
are judged by what was read from them, and if they were read then by the rule across them
(`readKind_eq`).
-/

namespace TxDraft.Action

variable {network : Option Network} {kind : ActionKind} {fields : Json.Fields}

/-! ### Fields -/

/-- The fields of an action of a kind, read; not all kinds let other fields pass. -/
def readFields (network : Option Network) (kind : ActionKind) (fields : Json.Fields) :
    Checked Action :=
  if ignoresExtras kind then (form network kind).fill fields
  else (form network kind).fillOnly ["type"] fields

/-- What reading an action gives, by the ruling on it. -/
def Ruling.reading (action : Action) : Ruling → Reading
  | .kept => .accepted action
  | .broken complaint => .refused [⟨[], complaint⟩]
  | .unruled fault => .broken fault

theorem readKind_eq : readKind network kind fields =
    match readFields network kind fields with
    | .error problems => .refused problems
    | .ok action => action.rule.reading action := by
  show (match readFields network kind fields with
    | .error problems => Reading.refused problems
    | .ok action => match action.rule with
      | .kept => .accepted action
      | .broken complaint => .refused [⟨[], complaint⟩]
      | .unruled fault => .broken fault) = _
  cases readFields network kind fields with
  | error problems => rfl
  | ok action => cases h : action.rule <;> simp [h, Ruling.reading]

theorem readKind_eq_accepted_iff {action : Action} :
    readKind network kind fields = .accepted action ↔
      readFields network kind fields = .ok action ∧ action.rule = .kept := by
  rw [readKind_eq]
  cases readFields network kind fields with
  | error problems => simp
  | ok read =>
    simp only [Except.ok.injEq]
    constructor
    · intro h
      cases hrule : read.rule <;> simp [hrule, Ruling.reading] at h
      exact ⟨h, h ▸ hrule⟩
    · rintro ⟨rfl, hrule⟩
      rw [hrule, Ruling.reading]

theorem readKind_eq_broken_iff {fault : Utxo.Fault} :
    readKind network kind fields = .broken fault ↔
      ∃ action, readFields network kind fields = .ok action ∧ action.rule = .unruled fault := by
  rw [readKind_eq]
  cases readFields network kind fields with
  | error problems => simp
  | ok read =>
    simp only [Except.ok.injEq, exists_eq_left']
    cases read.rule <;> simp [Ruling.reading]

/-! ### Documents -/

/-- The verdict on an action, by what reading it gave. -/
def Reading.verdict : Reading → Verdict
  | .accepted action => .accepted action
  | .refused problems => .refused (problems.map Problem.issue)
  | .broken fault => .broken fault

theorem kindOf?_eq_some_iff {tag : Json} : kindOf? tag = some kind ↔ tag = .str kind.tag := by
  unfold kindOf?
  split
  · next tag =>
    simp only [Json.str.injEq, Json.Str.plain.injEq]
    constructor
    · intro h
      simpa [eq_comm] using List.find?_some h
    · rintro rfl
      exact ActionKind.ofTag?_tag kind
  · next hnot =>
    simp only [reduceCtorEq, false_iff]
    exact hnot kind.tag

/-- The document is an object with the tag of a kind. -/
def Tagged (v : Json) (kind : ActionKind) (fields : Json.Fields) : Prop :=
  v = .obj fields ∧ Json.field? fields "type" = some (.str kind.tag)

theorem judge_of_tagged {v : Json} (h : Tagged v kind fields) :
    judge network v = (readKind network kind fields).verdict := by
  obtain ⟨rfl, htag⟩ := h
  simp only [judge, tagField, htag, kindOf?_eq_some_iff.mpr rfl]
  cases readKind network kind fields <;> rfl

/-- A document without a tag is refused with one issue. -/
theorem judge_cases (network : Option Network) (v : Json) :
    (∃ kind fields, Tagged v kind fields) ∨ ∃ issue, judge network v = .refused [issue] := by
  unfold judge Verdict.refuse
  split
  · next fields =>
    split
    · exact Or.inr ⟨_, rfl⟩
    · next tag htag =>
      split
      · exact Or.inr ⟨_, rfl⟩
      · next kind hkind => exact Or.inl ⟨kind, fields, rfl, kindOf?_eq_some_iff.mp hkind ▸ htag⟩
  · exact Or.inr ⟨_, rfl⟩

/-- A verdict that is no refusal is one on an object with the tag of a kind. -/
theorem judge_eq_iff {v : Json} {verdict : Verdict} (h : ∀ issues, verdict ≠ .refused issues) :
    judge network v = verdict ↔
      ∃ kind fields, Tagged v kind fields ∧ (readKind network kind fields).verdict = verdict := by
  constructor
  · rintro rfl
    rcases judge_cases network v with ⟨kind, fields, htagged⟩ | ⟨issue, hissue⟩
    · exact ⟨kind, fields, htagged, (judge_of_tagged htagged).symm⟩
    · exact absurd hissue (h [issue])
  · rintro ⟨kind, fields, htagged, rfl⟩
    exact judge_of_tagged htagged

theorem judge_eq_accepted_iff {v : Json} {action : Action} :
    judge network v = .accepted action ↔
      ∃ kind fields, Tagged v kind fields ∧ readKind network kind fields = .accepted action := by
  have hverdict : ∀ reading : Reading,
      reading.verdict = .accepted action ↔ reading = .accepted action := by
    intro reading
    cases reading <;> simp [Reading.verdict]
  rw [judge_eq_iff (by simp)]
  simp only [hverdict]

theorem judge_eq_broken_iff {v : Json} {fault : Utxo.Fault} :
    judge network v = .broken fault ↔
      ∃ kind fields, Tagged v kind fields ∧ readKind network kind fields = .broken fault := by
  have hverdict : ∀ reading : Reading,
      reading.verdict = .broken fault ↔ reading = .broken fault := by
    intro reading
    cases reading <;> simp [Reading.verdict]
  rw [judge_eq_iff (by simp)]
  simp only [hverdict]

end TxDraft.Action
