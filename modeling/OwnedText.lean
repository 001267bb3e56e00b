import OwnedText.ByteString.Workspace
import OwnedText.Memory.Workbench
import OwnedText.Token.Session
import OwnedText.Command.Program
import OwnedText.Main
import OwnedText.Proofs.Token.Boundary
import OwnedText.Proofs.Token.Places
import OwnedText.Proofs.Token.Resumption
import OwnedText.Proofs.Memory.Requests
import OwnedText.Proofs.Memory.Accounts
import OwnedText.Proofs.Memory.Ownership
import OwnedText.Proofs.Memory.Ledger
import OwnedText.Proofs.Memory.Coverage
import OwnedText.Proofs.Memory.Slots
import OwnedText.Proofs.Memory.Renewal
import OwnedText.Proofs.Memory.Freshness
import OwnedText.Proofs.ByteString.Consistency
import OwnedText.Proofs.ByteString.Runs
import OwnedText.Proofs.Decimal.Magnitude
import OwnedText.Proofs.Decimal.Digits
import OwnedText.Proofs.Decimal.Rounding
import OwnedText.Proofs.Decimal.Shortest
import OwnedText.Proofs.Decimal.Closest
import OwnedText.Proofs.CallerBuffer
import OwnedText.Proofs.Decimal.Numeral
import OwnedText.Proofs.Decimal.RoundTrip
import OwnedText.Proofs.Decimal.ShortestText
import OwnedText.Proofs.ByteString.Holdings
import OwnedText.Proofs.ByteString.Lending
import OwnedText.Proofs.ByteString.Provenance
import OwnedText.Proofs.Text.Escape
import OwnedText.Proofs.Decimal.Integer
import OwnedText.Proofs.Decimal.Canonical
import OwnedText.Proofs.Decimal.Reading
import OwnedText.Proofs.Command.Delivery
import OwnedText.Proofs.Command.TokenLines
import OwnedText.Proofs.Command.Copying
import OwnedText.Proofs.Command.Scalars
import OwnedText.Proofs.CallerBuffer.Calls
import OwnedText.Proofs.Token.Concatenation
import OwnedText.Proofs.ByteString.Independence
import OwnedText.Proofs.Memory.Elements
import OwnedText.Proofs.Event.Warnings
import OwnedText.Proofs.Memory.Reassembly
import OwnedText.Proofs.Token.Progress
import OwnedText.Proofs.ByteString.Description
