import TxDraft.Proofs.Lexicon
import TxDraft.Proofs.Lookup
import TxDraft.Proofs.Service.Log

/-!
# The phases of a request

A request is checked, then a provider is found, and only then something is done with it.
`effects_in_phases`: whatever the backend and the builders do, the effects of building a transaction
are none at all if the address or the actions are invalid; else readiness is found out once; and if
a provider is usable one builder is started, with that provider and the address in its normal form,
before any of its operations is called.  Looking up an address goes the same way, and no client is
made before a provider was found.
-/

namespace TxDraft

variable {η ω α : Type}

/-! ### Addresses -/

/-- The value is a text whose normal form is a payment address of the network. -/
def Denotes (network : Network) (v : Json) (address : String) : Prop :=
  ∃ text : String, v = .str text ∧ address = Lexicon.normal text ∧
    Lexicon.Address .payment (some network) address.toList

theorem validateAddress_eq_ok_iff {network : Network} {field : String} {v : Json}
    {address : String} :
    validateAddress (some network) field v = .ok address ↔ Denotes network v address := by
  cases v with
  | str text =>
    rw [validateAddress, Traversal.mapError_eq_ok_iff, Lexicon.address_eq_ok_iff]
    constructor
    · rintro ⟨rfl, haddress⟩
      have hplain := Lexicon.eq_plain_of_normal (Lexicon.ascii_address _ _ _ haddress)
      exact ⟨text.string, congrArg Json.str hplain, rfl, haddress⟩
    · rintro ⟨_, ⟨⟩, hnormal, haddress⟩
      exact ⟨hnormal, haddress⟩
  | _ => simp [validateAddress, Denotes]

namespace Service

/-! ### Phases -/

/-- Validation refuses the address with this failure, or else the actions. -/
def Refuses (s : Service η ω) (source actions : Json) (f : Failure) : Prop :=
  validateAddress (some s.network) "fromAddress" source = .error f ∨
    (∃ address, Denotes s.network source address) ∧
      Action.validateAll (some s.network) actions = .error f

/-- The address and the actions are valid, and this is what they are. -/
structure Takes (s : Service η ω) (source actions : Json) (address : String)
    (valid : List Action) : Prop where
  address : Denotes s.network source address
  actions : Action.validateAll (some s.network) actions = .ok valid

/-- How building goes in a world: the effects in order, the result, and the world that is left. -/
inductive Builds (s : Service η ω) (source actions : Json) (world : ω) :
    List (Effect η) → Attempt UnsignedTransaction → ω → Prop
  /-- The request is invalid, and nothing is asked of anybody. -/
  | refused {f : Failure} (h : s.Refuses source actions f) :
    Builds s source actions world [] (.error f) world
  /-- It cannot be found out which providers are usable. -/
  | unresolved {address : String} {valid : List Action} {f : Failure} {left : ω}
    (h : s.Takes source actions address valid)
    (hresolve : s.backend.resolve.outcomeIn world = (.error f, left)) :
    Builds s source actions world [.resolve] (.error f) left
  /-- No provider is usable, and no builder is started. -/
  | unavailable {address : String} {valid : List Action} {r : Readiness} {left : ω}
    (h : s.Takes source actions address valid)
    (hresolve : s.backend.resolve.outcomeIn world = (.ok r, left)) (hnone : r.provider? = none) :
    Builds s source actions world [.resolve] (.error (.unavailable .noneReachable)) left
  /-- A builder is started with the provider that was found, and then its operations are called. -/
  | started {address : String} {valid : List Action} {r : Readiness} {p : Provider}
    {found left : ω} {calls : List (Call η)} {result : Attempt UnsignedTransaction}
    (h : s.Takes source actions address valid)
    (hresolve : s.backend.resolve.outcomeIn world = (.ok r, found)) (hsome : r.provider? = some p)
    (hcompile : (s.compile p address valid).outcomeIn found = (result, left)) :
    Builds s source actions world (.resolve :: .start p address :: calls.map .call) result left

/-- How looking up an address goes in a world: the effects in order, the result, and the world that
is left. -/
inductive LooksUp (s : Service η ω) (v : Json) (world : ω) :
    List (Effect η) → Attempt α → ω → Prop
  /-- The address is invalid, and nothing is asked of anybody. -/
  | refused {f : Failure} (h : validateAddress (some s.network) "address" v = .error f) :
    LooksUp s v world [] (.error f) world
  /-- It cannot be found out which providers are usable. -/
  | unresolved {address : String} {f : Failure} {left : ω} (h : Denotes s.network v address)
    (hresolve : s.backend.resolve.outcomeIn world = (.error f, left)) :
    LooksUp s v world [.resolve] (.error f) left
  /-- No provider is usable, and no client is made. -/
  | unavailable {address : String} {r : Readiness} {left : ω} (h : Denotes s.network v address)
    (hresolve : s.backend.resolve.outcomeIn world = (.ok r, left)) (hnone : r.provider? = none) :
    LooksUp s v world [.resolve] (.error (.unavailable .noneReachable)) left
  /-- No client of the provider that was found can be made. -/
  | clientless {address : String} {r : Readiness} {p : Provider} {f : Failure} {found left : ω}
    (h : Denotes s.network v address)
    (hresolve : s.backend.resolve.outcomeIn world = (.ok r, found)) (hsome : r.provider? = some p)
    (hclient : (s.backend.client p).outcomeIn found = (.error f, left)) :
    LooksUp s v world [.resolve, .client p] (.error f) left
  /-- A client of the provider that was found is made and asked. -/
  | asked {address : String} {r : Readiness} {p : Provider} {c : Client ω} {found made left : ω}
    {result : Attempt α} (h : Denotes s.network v address)
    (hresolve : s.backend.resolve.outcomeIn world = (.ok r, found)) (hsome : r.provider? = some p)
    (hclient : (s.backend.client p).outcomeIn found = (.ok c, made))
    (hasked : ((c.unspentAt address).outcomeIn made).2 = left) :
    LooksUp s v world [.resolve, .client p, .unspent p address] result left

/-- The result of work and the world that it leaves, when the same work beside a log has these
effects. -/
structure Leaves (work : Work ω α) (beside : Work (ω × List (Effect η)) α) (world : ω)
    (log : List (Effect η)) (result : Attempt α) (left : ω) : Prop where
  outcome : work.outcomeIn world = (result, left)
  logged : beside.outcomeIn (world, []) = (result, (left, log))

/-! ### Building -/

theorem outcomeIn_build (s : Service η ω) (source actions : Json) (world : ω) :
    (s.build source actions).outcomeIn world =
      match validateAddress (some s.network) "fromAddress" source with
      | .error f => (.error f, world)
      | .ok address =>
        match Action.validateAll (some s.network) actions with
        | .error f => (.error f, world)
        | .ok valid =>
          match (Lookup.provider s.backend none).outcomeIn world with
          | (.error f, left) => (.error f, left)
          | (.ok p, found) => (s.compile p address valid).outcomeIn found := by
  unfold build checkAddress checkActions requireProvider
  rw [Work.outcomeIn_bind, Work.outcomeIn_ofAttempt]
  cases validateAddress (some s.network) "fromAddress" source with
  | error f => rfl
  | ok address =>
    simp only
    rw [Work.outcomeIn_bind, Work.outcomeIn_ofAttempt]
    cases Action.validateAll (some s.network) actions with
    | error f => rfl
    | ok valid =>
      simp only
      rw [Work.outcomeIn_bind]
      rcases (Lookup.provider s.backend none).outcomeIn world with ⟨found, left⟩
      cases found <;> rfl

theorem build_leaves (s : Service η ω) (source actions : Json) (world : ω) :
    ∃ log result left,
      Leaves (s.build source actions) (s.logged.build source actions) world log result left ∧
      s.Builds source actions world log result left := by
  have hplain := outcomeIn_build s source actions world
  have hlogged := outcomeIn_build s.logged source actions (world, [])
  rw [Lookup.outcomeIn_provider] at hplain hlogged
  have hresolve : s.logged.backend.resolve.outcomeIn (world, []) =
      ((s.backend.resolve.outcomeIn world).1,
        ((s.backend.resolve.outcomeIn world).2, [.resolve])) := rfl
  have hnetwork : s.logged.network = s.network := rfl
  rw [hresolve, hnetwork] at hlogged
  cases hsource : validateAddress (some s.network) "fromAddress" source with
  | error f =>
    rw [hsource] at hplain hlogged
    exact ⟨_, _, _, ⟨hplain, hlogged⟩, .refused (Or.inl hsource)⟩
  | ok address =>
    have haddress := validateAddress_eq_ok_iff.mp hsource
    rw [hsource] at hplain hlogged
    cases hactions : Action.validateAll (some s.network) actions with
    | error f =>
      rw [hactions] at hplain hlogged
      exact ⟨_, _, _, ⟨hplain, hlogged⟩, .refused (Or.inr ⟨⟨address, haddress⟩, hactions⟩)⟩
    | ok valid =>
      have htakes : s.Takes source actions address valid := ⟨haddress, hactions⟩
      rw [hactions] at hplain hlogged
      rcases hfound : s.backend.resolve.outcomeIn world with ⟨readiness, found⟩
      rw [hfound] at hplain hlogged
      cases readiness with
      | error f => exact ⟨_, _, _, ⟨hplain, hlogged⟩, .unresolved htakes hfound⟩
      | ok r =>
        cases hprovider : r.provider? with
        | none =>
          simp only [bind, Except.bind, Readiness.provider_of_none hprovider] at hplain hlogged
          exact ⟨_, _, _, ⟨hplain, hlogged⟩, .unavailable htakes hfound hprovider⟩
        | some p =>
          simp only [bind, Except.bind, Readiness.provider_of_some hprovider] at hplain hlogged
          obtain ⟨result, left, calls, hbeside, hcompile⟩ :=
            outcomeIn_compile_logged s p address valid found [.resolve]
          exact ⟨_, _, _, ⟨hplain.trans hcompile, hlogged.trans hbeside⟩,
            .started htakes hfound hprovider hcompile⟩

/-! ### Looking up -/

/-- Looks up an address, and reads the records that are there. -/
def lookUp (s : Service η ω) (v : Json) (read : String → Provider → List Json → Attempt α) :
    Work ω α := do
  let address ← s.checkAddress "address" v
  Lookup.asked s.backend none address (read address)

theorem unspent_eq_lookUp (s : Service η ω) (v : Json) :
    s.unspent v = s.lookUp v fun _ p records => records.mapM (Lookup.readRecord p) := by
  unfold unspent lookUp
  simp only [Lookup.unspentAt_eq_asked]

theorem balance_eq_lookUp (s : Service η ω) (v : Json) :
    s.balance v = s.lookUp v Lookup.balanceOf := by
  unfold balance lookUp
  simp only [Lookup.balanceAt_eq_asked]

theorem outcomeIn_lookUp (s : Service η ω) (v : Json)
    (read : String → Provider → List Json → Attempt α) (world : ω) :
    (s.lookUp v read).outcomeIn world =
      match validateAddress (some s.network) "address" v with
      | .error f => (.error f, world)
      | .ok address => (Lookup.asked s.backend none address (read address)).outcomeIn world := by
  unfold lookUp checkAddress
  rw [Work.outcomeIn_bind, Work.outcomeIn_ofAttempt]
  cases validateAddress (some s.network) "address" v <;> rfl

theorem lookUp_leaves (s : Service η ω) (v : Json)
    (read : String → Provider → List Json → Attempt α) (world : ω) :
    ∃ log result left,
      Leaves (s.lookUp v read) (s.logged.lookUp v read) world log result left ∧
      s.LooksUp v world log result left := by
  have hplain := outcomeIn_lookUp s v read world
  have hlogged := outcomeIn_lookUp s.logged v read (world, [])
  have hnetwork : s.logged.network = s.network := rfl
  rw [hnetwork] at hlogged
  cases haddress : validateAddress (some s.network) "address" v with
  | error f =>
    rw [haddress] at hplain hlogged
    exact ⟨_, _, _, ⟨hplain, hlogged⟩, .refused haddress⟩
  | ok address =>
    have hdenotes := validateAddress_eq_ok_iff.mp haddress
    have hresolve : s.logged.backend.resolve.outcomeIn (world, []) =
        ((s.backend.resolve.outcomeIn world).1,
          ((s.backend.resolve.outcomeIn world).2, [.resolve])) := rfl
    simp only [haddress, Lookup.outcomeIn_asked, Lookup.outcomeIn_provider, hresolve]
      at hplain hlogged
    rcases hfound : s.backend.resolve.outcomeIn world with ⟨readiness, found⟩
    rw [hfound] at hplain hlogged
    cases readiness with
    | error f => exact ⟨_, _, _, ⟨hplain, hlogged⟩, .unresolved hdenotes hfound⟩
    | ok r =>
      cases hprovider : r.provider? with
      | none =>
        simp only [bind, Except.bind, Readiness.provider_of_none hprovider] at hplain hlogged
        exact ⟨_, _, _, ⟨hplain, hlogged⟩, .unavailable hdenotes hfound hprovider⟩
      | some p =>
        simp only [bind, Except.bind, Readiness.provider_of_some hprovider,
          outcomeIn_client_logged] at hplain hlogged
        rcases hclient : (s.backend.client p).outcomeIn found with ⟨client, made⟩
        rw [hclient] at hplain hlogged
        cases client with
        | error f =>
          exact ⟨_, _, _, ⟨hplain, hlogged⟩, .clientless hdenotes hfound hprovider hclient⟩
        | ok c => exact ⟨_, _, _, ⟨hplain, hlogged⟩, .asked hdenotes hfound hprovider hclient rfl⟩

/-- The effects of building come in phases: checking has none, then readiness is found out, once,
and only if a provider is usable a builder is started, once, before its operations are called.
Lookups do the same with a client in the place of a builder. -/
theorem effects_in_phases (s : Service η ω) (world : ω) :
    (∀ source actions, ∃ log result left,
      Leaves (s.build source actions) (s.logged.build source actions) world log result left ∧
        s.Builds source actions world log result left) ∧
    (∀ v, ∃ log result left,
      Leaves (s.balance v) (s.logged.balance v) world log result left ∧
        s.LooksUp v world log result left) ∧
    ∀ v, ∃ log result left,
      Leaves (s.unspent v) (s.logged.unspent v) world log result left ∧
        s.LooksUp v world log result left := by
  refine ⟨fun source actions => build_leaves s source actions world, fun v => ?_, fun v => ?_⟩
  · rw [balance_eq_lookUp, balance_eq_lookUp]
    exact lookUp_leaves s v _ world
  · rw [unspent_eq_lookUp, unspent_eq_lookUp]
    exact lookUp_leaves s v _ world

end Service

end TxDraft
