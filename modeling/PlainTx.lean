import PlainTx.Bytes
import PlainTx.Text.Blank
import PlainTx.Text.DecimalDigit
import PlainTx.Text.Printable
import PlainTx.Text.Lowercase
import PlainTx.Text.Quoted
import PlainTx.Hex.Number
import PlainTx.Value
import PlainTx.Difference
import PlainTx.Rlp.Reader
import PlainTx.Payload.Fields
import PlainTx.Curve.Account
import PlainTx.Curve.Ecdsa
import PlainTx.Fault
import PlainTx.Check
import PlainTx.CallData
import PlainTx.Quantity
import PlainTx.Signature.Reader
import PlainTx.Signature.RecoveryId
import PlainTx.Signature.Slot
import PlainTx.CommonFields
import PlainTx.Transaction.Arguments
import PlainTx.Transaction.Encoding
import PlainTx.Transaction.Decoding
import PlainTx.Transaction.Operation
import PlainTx.Session.Run
import PlainTx.Fault.Statement
import PlainTx.Proofs.Canonical
import PlainTx.Proofs.Agreement
import PlainTx.Proofs.Sessions
import PlainTx.Proofs.ForeignCopies
import PlainTx.Proofs.RoundTrip
import PlainTx.Proofs.Commitment
import PlainTx.Proofs.Acceptance
import PlainTx.Proofs.Layout
import PlainTx.Proofs.Encodability
import PlainTx.Proofs.StoredSignatures
import PlainTx.Proofs.Finalizing
import PlainTx.Proofs.Markers
import PlainTx.Proofs.Shielding
import PlainTx.Proofs.Travel
import PlainTx.Proofs.Appending
import PlainTx.Proofs.Construction
import PlainTx.Proofs.Overrides
import PlainTx.Proofs.Choosing
import PlainTx.Proofs.Components
import PlainTx.Proofs.Differing
import PlainTx.Proofs.Normalizing
