import TxDraft.Proofs.Provider.Dolos
import TxDraft.Proofs.Readiness

/-!
# Two readings of the health of a Dolos server

Where a Dolos server tells its health it is asked on two occasions: by a probe, which wants a yes or
a no, and on behalf of somebody who wants to see the document.  Both get a reply of the same server,
and each reads it in its own way.

A no of the probe is always a no of the document, or a failure of the provider.  A yes of the probe
is a yes of the document, unless the reply is plain: a success that brings no document, or null for
one.  The probe takes plain replies for a yes, and nobody else does (`health_accords_iff`).
-/

namespace TxDraft.Dolos

variable {σ : Type}

/-! ### Answers -/

/-- The answer is a document that does not say that the server is not healthy. -/
def Affirms : Attempt Json → Prop
  | .ok (.obj fields) => Json.field? fields "is_healthy" ≠ some (.bool false)
  | _ => False

/-- The answer is a document that says that the server is not healthy, or the provider is blamed. -/
def Denies : Attempt Json → Prop
  | .ok (.obj fields) => Json.field? fields "is_healthy" = some (.bool false)
  | .error (.provider _) => True
  | _ => False

/-- The answer says what a probe found. -/
def Accords (healthy : Bool) (answer : Attempt Json) : Prop :=
  if healthy then Affirms answer else Denies answer

theorem not_affirms_of_denies {answer : Attempt Json} (h : Denies answer) : ¬ Affirms answer := by
  rcases answer with f | v
  · exact id
  · cases v with
    | obj fields => exact not_not_intro h
    | _ => exact id

/-- The answer that a reply makes to a question for the server's health. -/
def healthIn (path : String) (r : Reply) : Attempt Json :=
  (document path r).map healthOf

/-- A question for the server's health that can be asked is asked once, and answered by the
reply. -/
theorem outcomeIn_health {w : World σ} {s : Settings} {url : Url}
    (hlocated : (do World.target (← base s) s.dolosHealthPath) = .ok url) {world left : σ}
    {r : Reply} (hget : (w.get url s.requestTimeout).run world = (.ok r, left)) :
    (health w s).outcomeIn world = (healthIn s.dolosHealthPath r, left) := by
  have hquery : ([] : List (String × String)).isEmpty = true := rfl
  rw [health, Work.outcomeIn_bind, outcomeIn_fetch hlocated, hquery, if_pos rfl, hget, healthIn]
  simp only [answered]
  cases document s.dolosHealthPath r <;> rfl

/-! ### Replies -/

/-- The reply is a success without a document, or with null for one. -/
def Plain (r : Reply) : Prop :=
  r.isSuccess = true ∧ ∀ v, r.document = .ok v → v = .null

/-- A reply that is no success is a no for the probe, and not a yes in the answer. -/
theorem denies_of_refusal {r : Reply} (h : r.isSuccess = false) (path : String) :
    Probe.isHealthy r = false ∧ Denies (healthIn path r) := by
  refine ⟨by rw [Probe.isHealthy, h]; rfl, ?_⟩
  unfold healthIn document
  by_cases hmissing : r.status = 404
  · rw [if_pos hmissing]
    rfl
  · rw [if_neg hmissing, h]
    trivial

/-- A plain reply is a yes for the probe, but not in the answer: the body cannot be read, or it
reads like the body of a reply that nothing was found. -/
theorem denies_of_plain {r : Reply} (h : Plain r) (path : String) :
    Probe.isHealthy r = true ∧ Denies (healthIn path r) := by
  obtain ⟨hsuccess, hnull⟩ := h
  unfold Probe.isHealthy healthIn document
  rw [if_neg (status_ne_of_isSuccess hsuccess), hsuccess]
  cases hdocument : r.document with
  | error fault => exact ⟨rfl, trivial⟩
  | ok v =>
    obtain rfl := hnull v hdocument
    exact ⟨rfl, rfl⟩

/-- A document other than null says the same to both. -/
theorem accords_of_document {r : Reply} {v : Json} (hsuccess : r.isSuccess = true)
    (hdocument : r.document = .ok v) (hv : v ≠ .null) (path : String) :
    Accords (Probe.isHealthy r) (healthIn path r) := by
  have hhealthy : Probe.isHealthy r = !Probe.deniesHealth v := by
    rw [Probe.isHealthy, hsuccess, hdocument, Bool.true_and]
  have hanswer : healthIn path r = .ok (healthOf v) := by
    rw [healthIn, document_eq_ok hsuccess hdocument, Traversal.map_ok]
  rw [hhealthy, hanswer, Accords]
  cases v with
  | obj fields =>
    cases hdenies : Probe.deniesHealth (.obj fields) with
    | true =>
      obtain ⟨_, ⟨⟩, hfield⟩ := (Probe.deniesHealth_iff _).mp hdenies
      exact hfield
    | false =>
      intro hfield
      rw [(Probe.deniesHealth_iff _).mpr ⟨fields, rfl, hfield⟩] at hdenies
      cases hdenies
  | null => exact absurd rfl hv
  | _ =>
    show Json.field? [("is_healthy", .bool true)] "is_healthy" ≠ some (.bool false)
    simp [Json.field?, Entries.get?]

/-- The two readings of a reply accord exactly if it is not plain. -/
theorem accords_iff (path : String) (r : Reply) :
    Accords (Probe.isHealthy r) (healthIn path r) ↔ ¬ Plain r := by
  cases hsuccess : r.isSuccess with
  | false =>
    obtain ⟨hunhealthy, hdenies⟩ := denies_of_refusal hsuccess path
    rw [hunhealthy]
    refine iff_of_true hdenies fun hplain => ?_
    rw [hplain.1] at hsuccess
    cases hsuccess
  | true =>
    by_cases hplain : Plain r
    · obtain ⟨hhealthy, hdenies⟩ := denies_of_plain hplain path
      rw [hhealthy]
      exact iff_of_false (not_affirms_of_denies hdenies) (not_not_intro hplain)
    · refine iff_of_true ?_ hplain
      obtain ⟨v, hdocument, hv⟩ : ∃ v, r.document = .ok v ∧ v ≠ .null := by
        by_contra hnone
        exact hplain ⟨hsuccess, fun v hv => by_contra fun hne => hnone ⟨v, hv, hne⟩⟩
      exact accords_of_document hsuccess hdocument hv path

/-! ### Servers -/

/-- A probe and somebody who asks for the document get the same reply, whatever it is.  What the
probe finds is what the document says, exactly if the reply is not plain.  A no of the probe is
always a no of the other, but the yes that it makes of a plain reply is also a no of the other. -/
theorem health_accords_iff {w : World σ} {s : Settings} {url : Url}
    (hlocated : (do World.target (← base s) s.dolosHealthPath) = .ok url) {r : Reply}
    {world left world' left' : σ}
    (hprobe : Probe.Finds w s.dolosHealthUrl s.healthTimeout world (.reply r) left)
    (hget : (w.get url s.requestTimeout).run world' = (.ok r, left')) :
    ∃ healthy answer,
      (Probe.health w s.dolosHealthUrl s.healthTimeout).outcomeIn world = (.ok healthy, left) ∧
      (health w s).outcomeIn world' = (answer, left') ∧
      (Accords healthy answer ↔ ¬ Plain r) ∧
      (healthy = false → Denies answer) ∧
      (Plain r → healthy = true ∧ Denies answer) := by
  refine ⟨Probe.isHealthy r, healthIn s.dolosHealthPath r, hprobe.outcomeIn_judge Probe.isHealthy,
    outcomeIn_health hlocated hget, accords_iff _ r, fun hunhealthy => ?_,
    fun hplain => denies_of_plain hplain _⟩
  by_cases hplain : Plain r
  · exact (denies_of_plain hplain _).2
  · have haccords := (accords_iff s.dolosHealthPath r).mpr hplain
    rwa [hunhealthy] at haccords

/-- Where the default settings lead for the health of Dolos. -/
def healthUrl : Url :=
  ⟨"http", "", "localhost", some 4000, "/api/v0/health", none, none⟩

theorem located_health :
    (do World.target (← base Settings.default) Settings.default.dolosHealthPath) =
      .ok healthUrl := by
  decide +kernel

theorem finds_health (r : Reply) :
    Probe.Finds Readiness.scripted Settings.default.dolosHealthUrl Settings.default.healthTimeout
      [.reply r] (.reply r) [] :=
  have htarget : World.target .empty Settings.default.dolosHealthUrl = .ok healthUrl := by
    decide +kernel
  Readiness.finds_scripted (by decide +kernel) htarget _ _

/-- A server that is not there for the probe is not healthy for anybody else. -/
theorem health_accords_iff_missing :
    (do World.target (← base Settings.default) Settings.default.dolosHealthPath) =
        .ok healthUrl ∧
      Probe.Finds Readiness.scripted Settings.default.dolosHealthUrl
        Settings.default.healthTimeout [.reply ⟨404, ""⟩] (.reply ⟨404, ""⟩) [] ∧
      ∃ healthy answer,
        (Probe.health Readiness.scripted Settings.default.dolosHealthUrl
          Settings.default.healthTimeout).outcomeIn [.reply ⟨404, ""⟩] = (.ok healthy, []) ∧
        (health Readiness.scripted Settings.default).outcomeIn [.reply ⟨404, ""⟩] =
          (answer, []) ∧
        Accords healthy answer := by
  have hget : (Readiness.scripted.get healthUrl Settings.default.requestTimeout).run
      [.reply ⟨404, ""⟩] = (.ok ⟨404, ""⟩, []) := rfl
  obtain ⟨healthy, answer, hhealthy, hanswer, haccords, -, -⟩ :=
    health_accords_iff located_health (finds_health ⟨404, ""⟩) hget
  refine ⟨located_health, finds_health _, healthy, answer, hhealthy, hanswer, haccords.mpr ?_⟩
  rintro ⟨⟨⟩, -⟩

/-- The plain reply of a server that is healthy in the eyes of the probe. -/
def plainReply : Reply :=
  ⟨200, "OK"⟩

/-- Who asks the same server for its health is told that it is broken. -/
theorem plainReply_not_accords :
    ∃ healthy answer,
      (Probe.health Readiness.scripted Settings.default.dolosHealthUrl
        Settings.default.healthTimeout).outcomeIn [.reply plainReply] = (.ok healthy, []) ∧
      (health Readiness.scripted Settings.default).outcomeIn [.reply plainReply] =
        (answer, []) ∧
      healthy = true ∧ answer = .error (.provider (.dolosBody "/api/v0/health")) ∧
      ¬ Accords healthy answer :=
  ⟨_, _, (finds_health plainReply).outcomeIn_judge Probe.isHealthy,
    outcomeIn_health located_health rfl, rfl, rfl, id⟩

end TxDraft.Dolos
