import TxDraft.Draft.Builder
import TxDraft.Endpoint
import TxDraft.Main
import TxDraft.Proofs.Action.Sequence
import TxDraft.Proofs.Action.Independence
import TxDraft.Proofs.Compile.Order
import TxDraft.Proofs.Utxo.ReadBack
import TxDraft.Proofs.Service.Log
import TxDraft.Proofs.Service.Phases
import TxDraft.Proofs.Value.Shapes
import TxDraft.Proofs.Lookup.Balance
import TxDraft.Proofs.Draft.Replay
import TxDraft.Proofs.Draft.Summary
import TxDraft.Proofs.Provider.Dolos
import TxDraft.Proofs.Action.Minting
import TxDraft.Proofs.Compile.Answer
import TxDraft.Proofs.Compile.Attribution
import TxDraft.Proofs.Draft.Mint
import TxDraft.Proofs.Draft.FeePolicy
import TxDraft.Proofs.Probe
import TxDraft.Proofs.Readiness
import TxDraft.Proofs.Action.AssetMaps
import TxDraft.Proofs.Utxo.Accounts
import TxDraft.Proofs.Lookup.Answer
import TxDraft.Proofs.CommandLine
import TxDraft.Proofs.Draft.Payments
import TxDraft.Proofs.Draft.Redeemers
import TxDraft.Proofs.Provider.Paging
import TxDraft.Proofs.Ogmios.Matching
import TxDraft.Proofs.Ogmios.Answer
import TxDraft.Proofs.Provider.Health
import TxDraft.Proofs.Utxo.Absence
import TxDraft.Proofs.Endpoint
import TxDraft.Proofs.Metadatum.FirstFault
import TxDraft.Proofs.Value.Gathered
import TxDraft.Proofs.Ledger.Units
import TxDraft.Proofs.Text.Blank
import TxDraft.Proofs.Action.Document
import TxDraft.Proofs.Quantity.Numeral
import TxDraft.Proofs.Draft.Snapshot
import TxDraft.Proofs.Draft.LeastCoin
