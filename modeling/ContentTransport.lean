import ContentTransport.Applicability
import ContentTransport.Architecture
import ContentTransport.Bytes
import ContentTransport.Client
import ContentTransport.Connection
import ContentTransport.Decimal.Binary
import ContentTransport.Decimal.Numeral
import ContentTransport.Decimal.Shortest
import ContentTransport.Fault
import ContentTransport.HeaderList
import ContentTransport.HostName.Ascii
import ContentTransport.HostName.Prepared
import ContentTransport.HostName.Punycode
import ContentTransport.HostName.Repertoire
import ContentTransport.Http.Field
import ContentTransport.Http.Head
import ContentTransport.Http.Reader
import ContentTransport.Http.Request
import ContentTransport.Main
import ContentTransport.Network
import ContentTransport.Network.Scripted
import ContentTransport.Network.ScriptedSystem
import ContentTransport.Network.Sockets
import ContentTransport.Network.System
import ContentTransport.Network.Tape
import ContentTransport.Outcome
import ContentTransport.Outcome.OfTransfer
import ContentTransport.Outcome.OfValue
import ContentTransport.Port
import ContentTransport.Receiver
import ContentTransport.Report
import ContentTransport.ScriptedConnection
import ContentTransport.Session
import ContentTransport.Session.Diagnosis
import ContentTransport.Session.Headers
import ContentTransport.Session.Options
import ContentTransport.Session.Transfer
import ContentTransport.Settings
import ContentTransport.Text.Blank
import ContentTransport.Text.CodePoints
import ContentTransport.Text.Compatibility
import ContentTransport.Text.Decomposition
import ContentTransport.Text.Digit
import ContentTransport.Text.Lowercase
import ContentTransport.Text.Printable
import ContentTransport.Text.Points
import ContentTransport.Text.Quoted
import ContentTransport.Text.Utf8
import ContentTransport.TransferCode
import ContentTransport.Url
import ContentTransport.Url.Address
import ContentTransport.Url.Split
import ContentTransport.Value
import ContentTransport.Value.Body
import ContentTransport.Value.Key
import ContentTransport.Proofs.Http.Hear
import ContentTransport.Proofs.Network.Recorded
import ContentTransport.Proofs.Session.Exchange
import ContentTransport.Proofs.Http.Request
import ContentTransport.Proofs.Network.Serving
import ContentTransport.Proofs.Network.Sources
import ContentTransport.Proofs.Session.Ownership
import ContentTransport.Proofs.Session.Provenance
import ContentTransport.Proofs.Connection.Answer
import ContentTransport.Proofs.Http.Cuts
import ContentTransport.Proofs.Network.Supply
import ContentTransport.Proofs.Session.Resend
import ContentTransport.Proofs.Session.Fate
import ContentTransport.Proofs.Session.Cutting
import ContentTransport.Proofs.Connection.Segmentation
import ContentTransport.Proofs.Http.Truncated
import ContentTransport.Proofs.Session.BrokenOff
import ContentTransport.Proofs.Session.Written
import ContentTransport.Proofs.Connection.Calls
import ContentTransport.Proofs.Connection.Requests
import ContentTransport.Proofs.Session.Terms
import ContentTransport.Proofs.Session.Framed
import ContentTransport.Proofs.Session.Faults
import ContentTransport.Proofs.Connection.Served
import ContentTransport.Proofs.Connection.Faults
import ContentTransport.Proofs.Connection.Recovery
import ContentTransport.Proofs.Network.Succession
import ContentTransport.Proofs.Http.Counted
import ContentTransport.Proofs.Session.Resting
import ContentTransport.Proofs.Connection.Double
import ContentTransport.Proofs.Session.GivenUp
import ContentTransport.Proofs.Connection.TakenDown
import ContentTransport.Proofs.Connection.Reports
import ContentTransport.Proofs.Connection.Interspersed
import ContentTransport.Proofs.HeaderList
import ContentTransport.Proofs.Session.Timeouts
import ContentTransport.Proofs.Session.Attachment
import ContentTransport.Proofs.Connection.Making
import ContentTransport.Proofs.Connection.Timeouts
import ContentTransport.Proofs.Text.Ascii
import ContentTransport.Proofs.Text.Utf8
import ContentTransport.Proofs.Session.Descriptions
import ContentTransport.Proofs.Connection.Descriptions
import ContentTransport.Proofs.Connection.Diagnoses
import ContentTransport.Proofs.Url
import ContentTransport.Proofs.HostName.Label
import ContentTransport.Proofs.HostName.Name
import ContentTransport.Proofs.Session.HostField
import ContentTransport.Proofs.Network.Handing
import ContentTransport.Proofs.Network.Stock
import ContentTransport.Proofs.Session.Bounded
import ContentTransport.Proofs.Connection.Rejections
import ContentTransport.Proofs.Network.Addresses
import ContentTransport.Proofs.Session.Refusals
