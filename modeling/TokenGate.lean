import TokenGate.Asn1.Algorithm
import TokenGate.Asn1.Characters
import TokenGate.Asn1.Der
import TokenGate.Asn1.Moment
import TokenGate.Asn1.Pem
import TokenGate.Attribute
import TokenGate.Base64
import TokenGate.Bytes
import TokenGate.Certificate.Admission
import TokenGate.Certificate.Basic
import TokenGate.Certificate.Extension
import TokenGate.Certificate.GeneralName
import TokenGate.Certificate.Location
import TokenGate.Certificate.Name
import TokenGate.Certificate.Policy
import TokenGate.Certificate.Timestamp
import TokenGate.Certificate.Usage
import TokenGate.Config
import TokenGate.Connector
import TokenGate.Crypto.Aes
import TokenGate.Crypto.Cipher
import TokenGate.Crypto.Curve
import TokenGate.Crypto.Des
import TokenGate.Crypto.Edwards
import TokenGate.Crypto.Hash
import TokenGate.Crypto.Mac
import TokenGate.Crypto.Md5
import TokenGate.Crypto.Modular
import TokenGate.Crypto.Padding
import TokenGate.Crypto.Rc2
import TokenGate.Crypto.Rsa
import TokenGate.Crypto.Scrypt
import TokenGate.Crypto.Sha1
import TokenGate.Crypto.Sha2
import TokenGate.Crypto.Shake
import TokenGate.Crypto.Stretch
import TokenGate.Fault
import TokenGate.Files
import TokenGate.Identity.Assertion
import TokenGate.Identity.Basic
import TokenGate.Inbound.Validator
import TokenGate.Json.Encoding
import TokenGate.Json.Reader
import TokenGate.Json.Writer
import TokenGate.Key.Basic
import TokenGate.Key.Cache
import TokenGate.Key.Published
import TokenGate.Key.Selection
import TokenGate.Logging
import TokenGate.Message.Basic
import TokenGate.Message.Payload
import TokenGate.Message.Scalar
import TokenGate.Number.Binary64
import TokenGate.Number.Shortest
import TokenGate.Outbound.Acquirer
import TokenGate.Outbound.Provider
import TokenGate.Proofs.Key.Serving
import TokenGate.Proofs.Token.Authentic
import TokenGate.Rule.Basic
import TokenGate.Rule.Chain
import TokenGate.Rule.Custom
import TokenGate.Service.App
import TokenGate.Service.Assembly
import TokenGate.Service.Gate
import TokenGate.Service.Request
import TokenGate.Stored.Group
import TokenGate.Stored.Password
import TokenGate.Stored.PrivateKey
import TokenGate.Stored.PublicKey
import TokenGate.Stored.ShellKey
import TokenGate.Text.Blank
import TokenGate.Text.Capital
import TokenGate.Text.Charset.Basic
import TokenGate.Text.Charset.Big5
import TokenGate.Text.Charset.Big5Supplement
import TokenGate.Text.Charset.Chinese
import TokenGate.Text.Charset.Dos
import TokenGate.Text.Charset.Ebcdic
import TokenGate.Text.Charset.Escaped
import TokenGate.Text.Charset.Gb2312
import TokenGate.Text.Charset.Gbk
import TokenGate.Text.Charset.Grid
import TokenGate.Text.Charset.Iso8859
import TokenGate.Text.Charset.Japanese
import TokenGate.Text.Charset.Jis0208
import TokenGate.Text.Charset.Jis0212
import TokenGate.Text.Charset.Jis0213
import TokenGate.Text.Charset.JisVendor
import TokenGate.Text.Charset.Korean
import TokenGate.Text.Charset.Ksx1001
import TokenGate.Text.Charset.Macintosh
import TokenGate.Text.Charset.Named
import TokenGate.Text.Charset.Punycode
import TokenGate.Text.Charset.Regional
import TokenGate.Text.Charset.Switched
import TokenGate.Text.Charset.Utf7
import TokenGate.Text.Charset.Windows
import TokenGate.Text.Digit
import TokenGate.Text.Numeral
import TokenGate.Text.Printable
import TokenGate.Text.Quoted
import TokenGate.Text.Utf8
import TokenGate.Text.Wide
import TokenGate.Token.Compact
import TokenGate.Token.Decode
import TokenGate.Token.Header
import TokenGate.Token.Secret
import TokenGate.Token.Signature
import TokenGate.Transport
import TokenGate.Value.Basic
import TokenGate.Value.Order
import TokenGate.Proofs.Key.Memory
import TokenGate.Proofs.Inbound.Decoding
import TokenGate.Proofs.Connector.Work
import TokenGate.Proofs.Connector.History
import TokenGate.Proofs.Rule.Passing
import TokenGate.Proofs.Service.Admission
import TokenGate.Proofs.Stored.Reading
import TokenGate.Proofs.Token.Suitability
import TokenGate.Proofs.Inbound.Escape
import TokenGate.Proofs.Key.Breakdown
import TokenGate.Proofs.Inbound.Renaming
import TokenGate.Proofs.Site.Acquisition
import TokenGate.Proofs.Site.Insertion
import TokenGate.Proofs.Site.Disturbance
import TokenGate.Proofs.Outbound.Freshness
import TokenGate.Proofs.Connector.Agreement
import TokenGate.Proofs.Transport.Status
import TokenGate.Proofs.Service.Judgement
import TokenGate.Proofs.Service.Discretion
import TokenGate.Proofs.Outbound.Renewal
import TokenGate.Proofs.Inbound.Eviction
import TokenGate.Proofs.Rule.Violations
import TokenGate.Proofs.Service.Assembly
import TokenGate.Proofs.Rule.Order
import TokenGate.Proofs.Service.Acknowledgement
import TokenGate.Proofs.Outbound.Outcomes
import TokenGate.Proofs.Identity.Recovery
import TokenGate.Proofs.Config.Blanks
import TokenGate.Proofs.Identity.Contents
import TokenGate.Proofs.Connector.Lapse
import TokenGate.Proofs.Inbound.Foreign
import TokenGate.Proofs.Message.Acceptance
import TokenGate.Proofs.Rule.Wrapping
import TokenGate.Proofs.Key.Choice
import TokenGate.Proofs.Service.Bearer
import TokenGate.Proofs.Config.Items
