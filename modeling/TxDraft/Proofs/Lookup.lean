import TxDraft.Lookup
import TxDraft.Proofs.Traversal
import TxDraft.Proofs.Work

/-!
# Lookups

A lookup finds a provider, makes a client of it, asks the client for the records at an address, and
from there on only reads: it is `Lookup.asked` with a reading of the records.  The unspent outputs
at an address and its balance are two such readings (`unspentAt_eq_asked`, `balanceAt_eq_asked`), so
that what they ask of the backend is the same.
-/

namespace TxDraft

variable {ω α : Type}

/-! ### Finding a provider -/

theorem Readiness.provider_of_some {r : Readiness} {p : Provider} (h : r.provider? = some p) :
    r.provider = .ok p := by
  rw [provider, h]

theorem Readiness.provider_of_none {r : Readiness} (h : r.provider? = none) :
    r.provider = .error (.unavailable .noneReachable) := by
  rw [provider, h]

namespace Lookup

theorem outcomeIn_provider (backend : Backend ω) (world : ω) :
    (provider backend none).outcomeIn world =
      ((backend.resolve.outcomeIn world).1 >>= Readiness.provider,
        (backend.resolve.outcomeIn world).2) := by
  unfold provider
  rw [Work.outcomeIn_bind]
  rcases backend.resolve.outcomeIn world with ⟨found, left⟩
  cases found <;> rfl

/-! ### Asking and reading -/

/-- Asks for the records at an address, and reads them. -/
def asked (backend : Backend ω) (known : Option Readiness) (address : String)
    (read : Provider → List Json → Attempt α) : Work ω α := do
  let p ← provider backend known
  let client ← backend.client p
  let records ← client.unspentAt address
  .ofAttempt (read p records)

/-- The balance that the records of a provider come to. -/
def balanceOf (address : String) (p : Provider) (records : List Json) : Attempt AddressBalance := do
  let utxos ← records.mapM (readRecord p)
  let lovelace ← (Utxo.totalLovelace records).mapError fun fault => .unexpected (.value fault)
  return ⟨address, lovelace, Utxo.totalAssets utxos, some p⟩

/-- Asking comes before reading. -/
theorem asked_eq_bind (backend : Backend ω) (known : Option Readiness) (address : String)
    (read : Provider → List Json → Attempt α) :
    asked backend known address read =
      asked backend known address (fun p records => .ok (p, records)) >>=
        fun reply => .ofAttempt (read reply.1 reply.2) := by
  unfold asked
  simp only [bind_assoc]
  rfl

theorem outcomeIn_asked (backend : Backend ω) (known : Option Readiness) (address : String)
    (read : Provider → List Json → Attempt α) (world : ω) :
    (asked backend known address read).outcomeIn world =
      match (provider backend known).outcomeIn world with
      | (.error f, left) => (.error f, left)
      | (.ok p, found) =>
        match (backend.client p).outcomeIn found with
        | (.error f, left) => (.error f, left)
        | (.ok c, made) =>
          (((c.unspentAt address).outcomeIn made).1 >>= read p,
            ((c.unspentAt address).outcomeIn made).2) := by
  unfold asked
  rw [Work.outcomeIn_bind]
  rcases (provider backend known).outcomeIn world with ⟨p, found⟩
  cases p with
  | error f => rfl
  | ok p =>
    simp only
    rw [Work.outcomeIn_bind]
    rcases (backend.client p).outcomeIn found with ⟨client, made⟩
    cases client with
    | error f => rfl
    | ok c =>
      simp only
      rw [Work.outcomeIn_bind]
      rcases (c.unspentAt address).outcomeIn made with ⟨records, left⟩
      cases records <;> rfl

theorem unspentAt_eq_asked (backend : Backend ω) (known : Option Readiness) (address : String) :
    unspentAt backend known address =
      asked backend known address fun p records => records.mapM (readRecord p) := by
  unfold unspentAt records asked
  simp only [bind_assoc, pure_bind, bind_pure]

theorem balanceAt_eq_asked (backend : Backend ω) (known : Option Readiness) (address : String) :
    balanceAt backend known address = asked backend known address (balanceOf address) := by
  have hread : ∀ (p : Provider) (records : List Json),
      (do
        let utxos ← Work.ofAttempt (ω := ω) (records.mapM (readRecord p))
        let lovelace ← Work.ofAttempt ((Utxo.totalLovelace records).mapError fun fault =>
          .unexpected (.value fault))
        return (⟨address, lovelace, Utxo.totalAssets utxos, some p⟩ : AddressBalance))
      = .ofAttempt (balanceOf address p records) := by
    intro p records
    unfold balanceOf
    cases records.mapM (readRecord p) with
    | error f => rfl
    | ok utxos => cases Utxo.totalLovelace records <;> rfl
  unfold balanceAt records asked
  simp only [bind_assoc, pure_bind, hread]

end Lookup

end TxDraft
