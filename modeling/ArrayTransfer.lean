import ArrayTransfer.Bytes
import ArrayTransfer.Client
import ArrayTransfer.Session.Scripted
import ArrayTransfer.Proofs.Selection.Axis
import ArrayTransfer.Proofs.Selection.IndexRange
import ArrayTransfer.Proofs.Selection.Traversal
import ArrayTransfer.Proofs.Selection.Indices
import ArrayTransfer.Proofs.Selection.Encoding
import ArrayTransfer.Proofs.Bytes.Edit
import ArrayTransfer.Proofs.Conversion.Element
import ArrayTransfer.Proofs.DataType.NormalForm
import ArrayTransfer.Proofs.Selection.Memory
import ArrayTransfer.Proofs.Conversion.InPlace
import ArrayTransfer.Proofs.Selection.Region
import ArrayTransfer.Proofs.Conversion.Reuse
import ArrayTransfer.Proofs.Conversion.Lossless
import ArrayTransfer.Proofs.Conversion.Partial
import ArrayTransfer.Proofs.Number.Saturation
import ArrayTransfer.Proofs.Selection.Selecting
import ArrayTransfer.Proofs.Selection.Checked
import ArrayTransfer.Proofs.Selection.Odometer
import ArrayTransfer.Proofs.Selection.Order
import ArrayTransfer.Proofs.Selection.Scatter
import ArrayTransfer.Proofs.Wire.Nesting
import ArrayTransfer.Proofs.Wire.RawBody
import ArrayTransfer.Proofs.Text.Base64
import ArrayTransfer.Proofs.Transfer.Decoded
import ArrayTransfer.Proofs.Transfer.Confidential
import ArrayTransfer.Proofs.Session.Buffers
import ArrayTransfer.Proofs.Session.Sibling
import ArrayTransfer.Proofs.Session.Retrying
import ArrayTransfer.Proofs.Session.Verdict
import ArrayTransfer.Proofs.Session.Faithful
import ArrayTransfer.Proofs.Selection.Runs
import ArrayTransfer.Proofs.Selection.Admission
import ArrayTransfer.Proofs.Wire.Accepted
import ArrayTransfer.Proofs.Wire.Fidelity
import ArrayTransfer.Proofs.Selection.Canonical
import ArrayTransfer.Proofs.DataType.Resolved
import ArrayTransfer.Proofs.Transfer.Backoff
import ArrayTransfer.Proofs.Http.Headers
import ArrayTransfer.Proofs.Transfer.Negotiated
