import ClientAuth.Api.Host
import ClientAuth.Api.Name.Label
import ClientAuth.Api.Name.Letter
import ClientAuth.Api.Percent
import ClientAuth.Api.Punycode
import ClientAuth.Api.Request
import ClientAuth.Api.Signature
import ClientAuth.Api.Url
import ClientAuth.Api.UrlFault
import ClientAuth.Api.UrlPlace
import ClientAuth.Arguments
import ClientAuth.Authorization.Decorator
import ClientAuth.Authorization.Mechanism
import ClientAuth.Authorization.Providers
import ClientAuth.Authorization.Resolver
import ClientAuth.Authorization.Rule
import ClientAuth.Base64
import ClientAuth.Bytes
import ClientAuth.Calendar.Date
import ClientAuth.Calendar.Moment
import ClientAuth.Calendar.Stamp
import ClientAuth.Credentials.IdToken
import ClientAuth.Credentials.Store
import ClientAuth.Crypto.Hmac
import ClientAuth.Crypto.ModPow
import ClientAuth.Crypto.Sha256
import ClientAuth.Exchange.Address
import ClientAuth.Exchange.Call
import ClientAuth.Exchange.Endpoint
import ClientAuth.Exchange.Http
import ClientAuth.Exchange.Plan
import ClientAuth.Exchange.Reply
import ClientAuth.Exchange.Sdk
import ClientAuth.Exchange.Transport
import ClientAuth.Failure
import ClientAuth.Fault
import ClientAuth.Handshake.Attempt
import ClientAuth.Handshake.Run
import ClientAuth.Handshake.SignIn
import ClientAuth.Hex
import ClientAuth.Json.Basic
import ClientAuth.Json.Equality
import ClientAuth.Json.Reader
import ClientAuth.Json.Writer
import ClientAuth.Metrics.Collector
import ClientAuth.Metrics.Exposition
import ClientAuth.Metrics.Label
import ClientAuth.Number.Binary64
import ClientAuth.Number.DecimalText
import ClientAuth.Number.Numeral
import ClientAuth.Number.WholeText
import ClientAuth.Proofs.DigitPairs
import ClientAuth.Proofs.ModularPower
import ClientAuth.Proofs.Outcome
import ClientAuth.Settings.Basic
import ClientAuth.Settings.EnvFile
import ClientAuth.Settings.Environment
import ClientAuth.Settings.Logging
import ClientAuth.Settings.Source
import ClientAuth.Sorting
import ClientAuth.Sorting.Halving
import ClientAuth.Srp.Ephemeral
import ClientAuth.Srp.Group
import ClientAuth.Srp.Padding
import ClientAuth.Srp.Session
import ClientAuth.Text.Blank
import ClientAuth.Text.Case
import ClientAuth.Text.Cased
import ClientAuth.Text.Combining
import ClientAuth.Text.Composed
import ClientAuth.Text.Digit
import ClientAuth.Text.Direction
import ClientAuth.Text.Encoding
import ClientAuth.Text.Half
import ClientAuth.Text.Joining
import ClientAuth.Text.Pieces
import ClientAuth.Text.Printable
import ClientAuth.Text.Quoted
import ClientAuth.Text.Runs
import ClientAuth.Text.Script
import ClientAuth.Text.Upper
import ClientAuth.Validation
import ClientAuth.Proofs.SignedBytes
import ClientAuth.Proofs.KeyDerivation
import ClientAuth.Proofs.KeyAgreement
import ClientAuth.Proofs.EphemeralDraw
import ClientAuth.Proofs.StampText
import ClientAuth.Proofs.ChallengeResponse
import ClientAuth.Proofs.Course
import ClientAuth.Proofs.Ending
import ClientAuth.Proofs.SignInFaults
import ClientAuth.Proofs.HandshakeLife
import ClientAuth.Proofs.Acceptance
import ClientAuth.Proofs.NumeralText
import ClientAuth.Proofs.SextetText
import ClientAuth.Proofs.HonestService
import ClientAuth.Proofs.CodePlaces
import ClientAuth.Proofs.TwoRuns
import ClientAuth.Proofs.Secrecy
import ClientAuth.Proofs.RuleOrder
import ClientAuth.Proofs.Resolution
import ClientAuth.Proofs.HeaderSet
import ClientAuth.Proofs.AsciiText
import ClientAuth.Proofs.SignedRequest
import ClientAuth.Proofs.Signable
import ClientAuth.Proofs.RequestDecoration
import ClientAuth.Proofs.DoubleRange
import ClientAuth.Proofs.SessionProbe
import ClientAuth.Proofs.TransportService
import ClientAuth.Proofs.FailureSource
import ClientAuth.Proofs.SignInAccount
import ClientAuth.Proofs.TwoServices
import ClientAuth.Proofs.ServiceRejection
import ClientAuth.Proofs.TextPieces
import ClientAuth.Proofs.HeaderValues
import ClientAuth.Proofs.SortedList
import ClientAuth.Proofs.SignatureClaim
import ClientAuth.Proofs.DateHeader
import ClientAuth.Proofs.SignatureCheck
import ClientAuth.Proofs.StoreHistory
import ClientAuth.Proofs.Recording
import ClientAuth.Proofs.ResolutionReport
import ClientAuth.Proofs.ExpositionFormat
import ClientAuth.Proofs.FaithfulExport
import ClientAuth.Proofs.WholeDocument
import ClientAuth.Proofs.SameExchange
import ClientAuth.Proofs.CandidateTable
import ClientAuth.Proofs.HeaderReplacement
import ClientAuth.Proofs.Resigning
import ClientAuth.Proofs.RandomRequests
import ClientAuth.Proofs.PaddedNumeral
import ClientAuth.Proofs.ReplySpelling
import ClientAuth.Proofs.NestingDepth
import ClientAuth.Proofs.ResponseClassification
import ClientAuth.Proofs.CalendarDays
import ClientAuth.Proofs.ChallengeStamp
import ClientAuth.Proofs.DeclaredOrder
