import TxDraft.Proofs.Compile.Loop
import TxDraft.Proofs.Builder.Log
import TxDraft.Service

/-!
# Services that keep a log

Everything that a service asks of what stands behind it is an effect: readiness is found out, a
client is made and asked, a builder is started and its operations are called.  `Service.logged` is
the service with a log of its effects, in order, behind its world.

After a builder was started, compiling has no effects but calls of its operations
(`outcomeIn_compile_logged`).
-/

namespace TxDraft

variable {η ω ε α : Type}

/-- The work beside a log: the effect is noted, and the work is done. -/
def Work.noted (effect : ε) (work : Work ω α) : Work (ω × List ε) α :=
  ExceptT.mk fun state =>
    let (result, left) := work.outcomeIn state.1
    (result, (left, state.2 ++ [effect]))

@[simp] theorem Work.outcomeIn_noted (effect : ε) (work : Work ω α) (world : ω) (log : List ε) :
    (work.noted effect).outcomeIn (world, log) =
      ((work.outcomeIn world).1, ((work.outcomeIn world).2, log ++ [effect])) := rfl

namespace Service

/-- Something that a service asks of what stands behind it. -/
inductive Effect (η : Type) where
  /-- It is found out which providers are usable. -/
  | resolve
  /-- A client of a provider is made. -/
  | client (p : Provider)
  /-- A client is asked for the unspent outputs at an address. -/
  | unspent (p : Provider) (address : String)
  /-- A client is asked for the protocol parameters. -/
  | parameters (p : Provider)
  | tip
  | version
  | health
  /-- A builder is started with a provider, for an address. -/
  | start (p : Provider) (source : String)
  /-- An operation of a builder is called. -/
  | call (c : Call η)

/-- The client with a log of what it is asked. -/
def loggedClient (p : Provider) (c : Client ω) : Client (ω × List (Effect η)) where
  unspentAt address := (c.unspentAt address).noted (.unspent p address)
  parameters := c.parameters.noted (.parameters p)

/-- The backend with a log of what it is asked. -/
def loggedBackend (backend : Backend ω) : Backend (ω × List (Effect η)) where
  resolve := backend.resolve.noted .resolve
  client p := do return loggedClient p (← (backend.client p).noted (.client p))
  tip := backend.tip.noted .tip
  version := backend.version.noted .version
  health := backend.health.noted .health

/-- The builder with its calls in a log of effects. -/
def loggedBuilder (b : Builder η ω) : Builder η (ω × List (Effect η)) :=
  b.logged.within (fun state => (state.1, [])) fun inner state =>
    (inner.1, state.2 ++ inner.2.map .call)

/-- The service with a log of its effects. -/
def logged (s : Service η ω) : Service η (ω × List (Effect η)) where
  network := s.network
  backend := loggedBackend s.backend
  builder := loggedBuilder s.builder
  start p source := (s.start p source).noted (.start p source)

theorem outcomeIn_client_logged (s : Service η ω) (p : Provider) (world : ω)
    (log : List (Effect η)) :
    (s.logged.backend.client p).outcomeIn (world, log) =
      (((s.backend.client p).outcomeIn world).1.map (loggedClient p),
        (((s.backend.client p).outcomeIn world).2, log ++ [.client p])) := by
  show (Work.noted _ (s.backend.client p) >>= fun c => pure (loggedClient p c)).outcomeIn _ = _
  rw [Work.outcomeIn_bind, Work.outcomeIn_noted]
  cases ((s.backend.client p).outcomeIn world).1 <;> rfl

/-! ### Compiling beside a log -/

/-- The same world, with a log that has grown by calls of operations. -/
def CalledSince (log : List (Effect η)) (world : ω) (state : ω × List (Effect η)) : Prop :=
  state.1 = world ∧ ∃ calls : List (Call η), state.2 = log ++ calls.map .call

theorem call_loggedBuilder (b : Builder η ω) (h : η) (name : String) (operation : Operation)
    (world : ω) (log : List (Effect η)) :
    ((loggedBuilder b).call h name operation).run (world, log) =
      (((b.call h name operation).run world).1, (((b.call h name operation).run world).2,
        log ++ [.call ⟨h, name, operation, ((b.call h name operation).run world).1⟩])) := rfl

theorem alike_loggedBuilder (b : Builder η ω) (log : List (Effect η)) :
    b.Alike (CalledSince log) (loggedBuilder b) where
  exposes h name world state := by
    rintro ⟨hworld, calls, hlog⟩
    obtain ⟨world', log'⟩ := state
    obtain rfl : world' = world := hworld
    obtain rfl : log' = log ++ calls.map .call := hlog
    exact ⟨rfl, rfl, calls, List.append_nil _⟩
  call h name operation world state := by
    rintro ⟨hworld, calls, hlog⟩
    obtain ⟨world', log'⟩ := state
    obtain rfl : world' = world := hworld
    obtain rfl : log' = log ++ calls.map .call := hlog
    rw [call_loggedBuilder]
    exact ⟨rfl, rfl, calls ++ [⟨h, name, operation, ((b.call h name operation).run world').1⟩],
      by simp⟩

theorem outcomeIn_compile (s : Service η ω) (p : Provider) (source : String)
    (actions : List Action) (world : ω) :
    (s.compile p source actions).outcomeIn world =
      match (s.start p source).outcomeIn world with
      | (.ok h, between) => (Compile.run s.builder h actions).outcomeIn between
      | (.error f, left) => (.error (wordStart f), left) := by
  unfold compile
  rw [Work.outcomeIn_bind, Work.outcomeIn_mapFailure]
  rcases (s.start p source).outcomeIn world with ⟨started, between⟩
  cases started <;> rfl

/-- Compiling starts one builder, and all that follows are calls of its operations. -/
theorem outcomeIn_compile_logged (s : Service η ω) (p : Provider) (source : String)
    (actions : List Action) (world : ω) (log : List (Effect η)) :
    ∃ result left, ∃ calls : List (Call η),
      (s.logged.compile p source actions).outcomeIn (world, log) =
        (result, (left, log ++ .start p source :: calls.map .call)) ∧
      (s.compile p source actions).outcomeIn world = (result, left) := by
  rw [outcomeIn_compile, outcomeIn_compile]
  have hstart : (s.logged.start p source).outcomeIn (world, log) =
      (((s.start p source).outcomeIn world).1,
        (((s.start p source).outcomeIn world).2, log ++ [.start p source])) := rfl
  rw [hstart]
  rcases (s.start p source).outcomeIn world with ⟨started, between⟩
  cases started with
  | error f => exact ⟨_, _, [], rfl, rfl⟩
  | ok h =>
    obtain ⟨hresult, hworld, calls, hlog⟩ :=
      Compile.alike_run (alike_loggedBuilder s.builder (log ++ [.start p source])) h actions
        between (between, log ++ [.start p source]) ⟨rfl, [], (List.append_nil _).symm⟩
    have hfollow : log ++ .start p source :: calls.map .call =
        log ++ [.start p source] ++ calls.map .call := by simp
    refine ⟨((Compile.run s.builder h actions).outcomeIn between).1,
      ((Compile.run s.builder h actions).outcomeIn between).2, calls, ?_, rfl⟩
    rw [hfollow, ← hlog]
    exact Prod.ext hresult.symm (Prod.ext hworld rfl)

end Service

end TxDraft
