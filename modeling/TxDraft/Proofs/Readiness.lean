import TxDraft.Proofs.Probe
import TxDraft.Readiness

/-!
# What is found out about the providers

A survey is what asking each of the five endpoints comes to.  Whatever a survey finds, there is a
verdict, each part of which hangs on its own endpoint (`resolve_of_surveys`).
-/

namespace TxDraft

variable {σ : Type}

namespace Probe.Finding

/-- Somebody replied, and it was no error of the server itself. -/
def IsUp (f : Finding) : Prop :=
  ∃ r, f = .reply r ∧ r.status < 500

/-- There was a reply that is a success, and its body does not say that the server is not healthy,
unless a number in it is too long to be read. -/
def IsWell (f : Finding) : Prop :=
  ∃ r, f = .reply r ∧ (200 ≤ r.status ∧ r.status ≤ 299) ∧ (r.Denies "is_healthy" → r.Overlong)

theorem judged_isAlive_iff (f : Finding) : f.judged isAlive = true ↔ f.IsUp := by
  cases f with
  | reply r => simp [judged, IsUp, isAlive_iff]
  | _ => simp [judged, IsUp]

theorem judged_isHealthy_iff (f : Finding) : f.judged isHealthy = true ↔ f.IsWell := by
  cases f with
  | reply r => simp [judged, IsWell, isHealthy_iff]
  | _ => simp [judged, IsWell]

end Probe.Finding

namespace Readiness

theorem isReady_iff (r : Readiness) :
    r.isReady = true ↔ (r.reachability.ogmios = true ∧ r.reachability.kupo = true) ∨
      r.reachability.dolosHealthy = true := by
  rw [isReady, Bool.or_eq_true, Reachability.kupmios, Bool.and_eq_true]

theorem provider?_of_kupmios {r : Readiness} (h : r.reachability.kupmios = true) :
    r.provider? = some .kupmios := by
  rw [provider?, if_pos h]

/-- There is a provider just when all is ready. -/
theorem isReady_iff_provider?_ne_none (r : Readiness) :
    r.isReady = true ↔ r.provider? ≠ none := by
  rw [isReady, provider?]
  cases r.reachability.kupmios <;> cases r.reachability.dolosHealthy <;> decide

/-! ### Surveys -/

/-- What asking the endpoints comes to. -/
structure Survey where
  ogmios : Probe.Finding
  kupo : Probe.Finding
  dolosGrpc : Probe.Finding
  dolosRest : Probe.Finding
  dolosHealth : Probe.Finding

/-- The endpoints that the settings name come to these findings, asked one after the other. -/
def Surveys (w : World σ) (s : Settings) (world : σ) (found : Survey) (left : σ) : Prop :=
  ∃ world₁ world₂ world₃ world₄,
    Probe.Finds w s.ogmiosUrl s.pingTimeout world found.ogmios world₁ ∧
      Probe.Finds w s.kupoUrl s.pingTimeout world₁ found.kupo world₂ ∧
      Probe.Finds w s.dolosGrpcUrl s.pingTimeout world₂ found.dolosGrpc world₃ ∧
      Probe.Finds w s.dolosRestUrl s.pingTimeout world₃ found.dolosRest world₄ ∧
      Probe.Finds w s.dolosHealthUrl s.healthTimeout world₄ found.dolosHealth left

/-- The endpoints that are there, going by a survey. -/
def Survey.reachability (found : Survey) : Reachability where
  ogmios := found.ogmios.judged Probe.isAlive
  kupo := found.kupo.judged Probe.isAlive
  dolosGrpc := found.dolosGrpc.judged Probe.isAlive
  dolosRest := found.dolosRest.judged Probe.isAlive
  dolosHealthy := found.dolosHealth.judged Probe.isHealthy

theorem Surveys.outcomeIn_resolve {w : World σ} {s : Settings} {world left : σ} {found : Survey}
    (h : Surveys w s world found left) :
    (resolve w s).outcomeIn world =
      (.ok ⟨found.reachability, [("ogmios", s.ogmiosUrl), ("kupo", s.kupoUrl),
        ("dolosGrpc", s.dolosGrpcUrl), ("dolosRest", s.dolosRestUrl)]⟩, left) := by
  obtain ⟨world₁, world₂, world₃, world₄, hogmios, hkupo, hgrpc, hrest, hhealth⟩ := h
  have hping {url : String} {before after : σ} {finding : Probe.Finding}
      (h : Probe.Finds w url s.pingTimeout before finding after) :
      (Probe.ping w url s.pingTimeout).outcomeIn before =
        (.ok (finding.judged Probe.isAlive), after) := h.outcomeIn_judge _
  have hwell : (Probe.health w s.dolosHealthUrl s.healthTimeout).outcomeIn world₄ =
      (.ok (found.dolosHealth.judged Probe.isHealthy), left) := hhealth.outcomeIn_judge _
  unfold resolve
  simp only [Work.outcomeIn_bind, Work.outcomeIn_attempt, hping hogmios, hping hkupo,
    hping hgrpc, hping hrest, hwell]
  rfl

/-- Whatever the endpoints answer there is a verdict.  Each of its parts is told by what its own
endpoint answered, there is a provider just when all is ready, and the pair of Ogmios and Kupo comes
first. -/
theorem resolve_of_surveys {w : World σ} {s : Settings} {world left : σ} {found : Survey}
    (h : Surveys w s world found left) :
    ∃ r, (resolve w s).outcomeIn world = (.ok r, left) ∧
      (r.reachability.ogmios = true ↔ found.ogmios.IsUp) ∧
      (r.reachability.kupo = true ↔ found.kupo.IsUp) ∧
      (r.reachability.dolosGrpc = true ↔ found.dolosGrpc.IsUp) ∧
      (r.reachability.dolosRest = true ↔ found.dolosRest.IsUp) ∧
      (r.reachability.dolosHealthy = true ↔ found.dolosHealth.IsWell) ∧
      (r.isReady = true ↔ r.provider? ≠ none) ∧
      (r.isReady = true ↔ (found.ogmios.IsUp ∧ found.kupo.IsUp) ∨ found.dolosHealth.IsWell) ∧
      (found.ogmios.IsUp → found.kupo.IsUp → r.provider? = some .kupmios) := by
  have hogmios := found.ogmios.judged_isAlive_iff
  have hkupo := found.kupo.judged_isAlive_iff
  have hhealthy := found.dolosHealth.judged_isHealthy_iff
  refine ⟨_, h.outcomeIn_resolve, hogmios, hkupo, found.dolosGrpc.judged_isAlive_iff,
    found.dolosRest.judged_isAlive_iff, hhealthy, isReady_iff_provider?_ne_none _, ?_, ?_⟩
  · rw [isReady_iff, Survey.reachability, hogmios, hkupo, hhealthy]
  · intro hogmiosUp hkupoUp
    refine provider?_of_kupmios ?_
    rw [Reachability.kupmios, Survey.reachability, hogmios.mpr hogmiosUp, hkupo.mpr hkupoUp]
    rfl

/-! ### A world that follows a script -/

/-- Every request is answered by the next of some findings. -/
def scripted : World (List Probe.Finding) where
  get _ _ := fun
    | [] => (.error ⟨.deadline, ""⟩, [])
    | .reply r :: rest => (.ok r, rest)
    | .timeout :: rest => (.error ⟨.deadline, ""⟩, rest)
    | .broken name message :: rest => (.error ⟨.transport name, message⟩, rest)
    | .unaddressed :: rest => (.error ⟨.address, ""⟩, rest)
  connect _ _ := pure (.ok ())
  send _ := pure (.ok ())
  receive := pure (.ok "")
  close := pure ()

theorem finds_scripted {url : String} {deadline : Seconds} {u : Url}
    (h : deadline.isOver = false) (htarget : World.target .empty url = .ok u)
    (f : Probe.Finding) (rest : List Probe.Finding) :
    Probe.Finds scripted url deadline (f :: rest) f rest := by
  cases f with
  | reply r => exact .reply h htarget rfl
  | timeout => exact .timeout h htarget rfl
  | broken name message => exact .broken h htarget rfl
  | unaddressed => exact .refused h htarget rfl

/-- Every combination of findings can come up. -/
theorem surveys_scripted (found : Survey) :
    Surveys scripted Settings.default [found.ogmios, found.kupo, found.dolosGrpc, found.dolosRest,
      found.dolosHealth] found [] := by
  have hping : Settings.default.pingTimeout.isOver = false := by decide +kernel
  have hhealth : Settings.default.healthTimeout.isOver = false := by decide +kernel
  exact ⟨_, _, _, _, finds_scripted hping rfl _ _, finds_scripted hping rfl _ _,
    finds_scripted hping rfl _ _, finds_scripted hping rfl _ _, finds_scripted hhealth rfl _ _⟩

/-- Kupo does not answer in time, and where Dolos tells its health there is an empty text. -/
def fallback : Survey where
  ogmios := .reply ⟨404, ""⟩
  kupo := .timeout
  dolosGrpc := .broken "ConnectError" "refused"
  dolosRest := .unaddressed
  dolosHealth := .reply ⟨200, ""⟩

theorem isWell_fallback : fallback.dolosHealth.IsWell := by
  refine ⟨_, rfl, by decide, ?_⟩
  rintro ⟨fields, hparse, -⟩
  cases hparse

theorem resolve_of_surveys_fallback :
    Surveys scripted Settings.default [fallback.ogmios, fallback.kupo, fallback.dolosGrpc,
      fallback.dolosRest, fallback.dolosHealth] fallback [] ∧
    ∃ r, (resolve scripted Settings.default).outcomeIn [fallback.ogmios, fallback.kupo,
        fallback.dolosGrpc, fallback.dolosRest, fallback.dolosHealth] = (.ok r, []) ∧
      r.reachability.ogmios = true ∧ r.reachability.kupo ≠ true ∧ r.isReady = true := by
  obtain ⟨r, hr, hogmios, hkupo, -, -, -, -, hready, -⟩ :=
    resolve_of_surveys (surveys_scripted fallback)
  refine ⟨surveys_scripted fallback, r, hr, hogmios.mpr ⟨_, rfl, by decide⟩, ?_,
    hready.mpr (.inr isWell_fallback)⟩
  rw [Ne, hkupo]
  rintro ⟨_, ⟨⟩, -⟩

/-- Only Dolos answers, and what it denies stands beside a number that is too long. -/
def denied : Survey where
  ogmios := .timeout
  kupo := .timeout
  dolosGrpc := .timeout
  dolosRest := .timeout
  dolosHealth := .reply Probe.overlong

/-- A server that says that it is not healthy is taken to be, and used. -/
theorem denied_is_ready :
    Probe.overlong.Denies "is_healthy" ∧
    ∃ r, (resolve scripted Settings.default).outcomeIn [denied.ogmios, denied.kupo,
        denied.dolosGrpc, denied.dolosRest, denied.dolosHealth] = (.ok r, []) ∧
      r.reachability.dolosHealthy = true ∧ r.provider? = some .dolos := by
  have hhealthy : denied.reachability.dolosHealthy = true := by
    rw [Survey.reachability, denied, Probe.Finding.judged, Probe.isHealthy_overlong]
  refine ⟨Probe.denies_overlong, _, (surveys_scripted denied).outcomeIn_resolve, hhealthy, ?_⟩
  rw [provider?, if_neg (by decide), if_pos hhealthy]

end Readiness

end TxDraft
