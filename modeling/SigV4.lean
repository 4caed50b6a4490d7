import SigV4.Header.Change
import SigV4.Payload.Cursor
import SigV4.Proofs.Header.Line
import SigV4.Proofs.Header.Signable
import SigV4.Proofs.Header.Value
import SigV4.Proofs.Payload.Contents
import SigV4.Proofs.Payload.Delivery
import SigV4.Proofs.Payload.Drain
import SigV4.Proofs.Payload.Endless
import SigV4.Proofs.Payload.Exposure
import SigV4.Proofs.Payload.Failure
import SigV4.Proofs.Payload.Framing
import SigV4.Proofs.Payload.Misdeclared
import SigV4.Proofs.Payload.Receiving
import SigV4.Proofs.Payload.Reliable
import SigV4.Proofs.Payload.Remaining
import SigV4.Proofs.Payload.Retry
import SigV4.Proofs.Payload.Steady
import SigV4.Proofs.Payload.Stock
import SigV4.Proofs.Payload.WireLength
import SigV4.Proofs.Signing.Agreement
import SigV4.Proofs.Signing.Announced
import SigV4.Proofs.Signing.Chunked
import SigV4.Proofs.Signing.Hashing
import SigV4.Proofs.Signing.Interrupted
import SigV4.Proofs.Signing.Plain
import SigV4.Proofs.Signing.Presigned
import SigV4.Proofs.Signing.Sent
import SigV4.Proofs.Signing.Steps
import SigV4.Proofs.Signing.Upload
import SigV4.Proofs.Signing.Verification
import SigV4.Proofs.Text.Case
import SigV4.Proofs.Text.Hex
import SigV4.Proofs.Text.Pieces
import SigV4.Proofs.Text.Trim
import SigV4.Proofs.Text.Utf8
import SigV4.Proofs.Url.Canonical
import SigV4.Proofs.Url.Normal
import SigV4.Proofs.Url.Percent
import SigV4.Proofs.Url.Query
import SigV4.Proofs.Url.Segments
import SigV4.Proofs.Url.Spelling
import SigV4.Proofs.Url.Target
import SigV4.Signing.Sign
import SigV4.Time.Iso
import SigV4.Proofs.Header.Names
import SigV4.Proofs.Signing.Writes
import SigV4.Proofs.Signing.Parameters
import SigV4.Proofs.Signing.Coverage
import SigV4.Proofs.Signing.Session
import SigV4.Proofs.Signing.Readback
import SigV4.Proofs.Signing.Checksum
import SigV4.Proofs.Header.Again
import SigV4.Proofs.Signing.Renewal
import SigV4.Proofs.Header.Meaning
import SigV4.Proofs.Signing.Meaning
import SigV4.Proofs.Payload.Spill
import SigV4.Proofs.Signing.Blame
import SigV4.Proofs.Signing.Obstacles
import SigV4.Proofs.Signing.Spared
import SigV4.Proofs.Signing.Twins
import SigV4.Proofs.Signing.TwinBodies
import SigV4.Proofs.Signing.Secrecy
import SigV4.Proofs.Payload.ExactLength
import SigV4.Proofs.Url.DotSegments
import SigV4.Proofs.Payload.Reslicing
import SigV4.Proofs.Header.Parts
import SigV4.Proofs.Header.Quoting
import SigV4.Proofs.Payload.Chain
import SigV4.Proofs.Header.Reading
import SigV4.Proofs.Header.History
