import ToolGateway.Table
import ToolGateway.Glob
import ToolGateway.Breaker.Basic
import ToolGateway.Time
import ToolGateway.Limiter
import ToolGateway.Text.Blank
import ToolGateway.Text.Hex
import ToolGateway.Text.Utf8
import ToolGateway.Text.Base64
import ToolGateway.Number.Binary64
import ToolGateway.Number.Shortest
import ToolGateway.Json.Basic
import ToolGateway.Json.Document
import ToolGateway.Json.Reading
import ToolGateway.Json.Token
import ToolGateway.Record
import ToolGateway.Json.Record
import ToolGateway.Json.Printer
import ToolGateway.Breaker.Settings
import ToolGateway.Trust.Basic
import ToolGateway.Trust.Policy
import ToolGateway.ToolServer
import ToolGateway.Crypto.Block
import ToolGateway.Crypto.Sha256
import ToolGateway.Crypto.Aes
import ToolGateway.Crypto.Gcm
import ToolGateway.Credential
import ToolGateway.Net.Address
import ToolGateway.Callers
import ToolGateway.Audit
import ToolGateway.FileError
import ToolGateway.Audit.Sink
import ToolGateway.Failure
import ToolGateway.Delivery.Basic
import ToolGateway.Gateway.Rejection
import ToolGateway.Gateway.Call
import ToolGateway.Gateway.Basic
import ToolGateway.Gateway.Session
import ToolGateway.Text.Percent
import ToolGateway.Text.Punycode
import ToolGateway.Unicode.Ranges
import ToolGateway.Unicode.Graphic
import ToolGateway.Unicode.Marks
import ToolGateway.Unicode.Folded
import ToolGateway.Unicode.Composition
import ToolGateway.Unicode.Direction
import ToolGateway.Unicode.Joining
import ToolGateway.Http.Message
import ToolGateway.Http.Route
import ToolGateway.Http.Service
import ToolGateway.Url.Basic
import ToolGateway.Url.Name
import ToolGateway.Url.Host
import ToolGateway.Url.Path
import ToolGateway.Url.Authority
import ToolGateway.Url.File
import ToolGateway.Url.Parse
import ToolGateway.Url.Tool
import ToolGateway.Delivery.Post
import ToolGateway.Delivery.Intake
import ToolGateway.Delivery.Head
import ToolGateway.Delivery.Framing
import ToolGateway.Delivery.Send
import ToolGateway.Toml.Basic
import ToolGateway.Toml.Token
import ToolGateway.Toml.Scalar
import ToolGateway.Toml.Draft
import ToolGateway.Toml.Document
import ToolGateway.Toml.Record
import ToolGateway.Text.Quoted
import ToolGateway.Config.Basic
import ToolGateway.Config.Written
import ToolGateway.Config.Fault
import ToolGateway.Config.Validity
import ToolGateway.Config.Load
import ToolGateway.Server
import ToolGateway.Log
import ToolGateway.Command.Invocation
import ToolGateway.Command.SecretInput
import ToolGateway.Command.Run
import ToolGateway.Delivery.Wire
import ToolGateway.Machine.Files
import ToolGateway.Machine.Network
import ToolGateway.Main
import ToolGateway.Proofs.Breaker.History
import ToolGateway.Proofs.Gateway.BreakerLog
import ToolGateway.Proofs.Breaker.Trial
import ToolGateway.Proofs.Gateway.TrialOverlap
import ToolGateway.Proofs.Gateway.Mediation
import ToolGateway.Proofs.Text.Percent
import ToolGateway.Proofs.Url.Segment
import ToolGateway.Proofs.Url.ToolSegment
import ToolGateway.Proofs.Gateway.Completion
import ToolGateway.Proofs.Gateway.Evidence
import ToolGateway.Proofs.Limiter.Grid
import ToolGateway.Proofs.Gateway.TrialPlace
import ToolGateway.Proofs.Config.Entries
import ToolGateway.Proofs.Gateway.LimiterLog
import ToolGateway.Proofs.Gateway.Isolation
import ToolGateway.Proofs.Gateway.Report
import ToolGateway.Proofs.Gateway.Lockout
import ToolGateway.Proofs.Gateway.Ending
import ToolGateway.Proofs.Gateway.AuditTrail
import ToolGateway.Proofs.Breaker.Answers
import ToolGateway.Proofs.Gateway.FirstFault
import ToolGateway.Proofs.Gateway.NoTrace
import ToolGateway.Proofs.Gateway.Alike
import ToolGateway.Proofs.Gateway.Secrecy
import ToolGateway.Proofs.Credential.Sealing
import ToolGateway.Proofs.Text.Trimming
import ToolGateway.Proofs.Text.WellFormed
import ToolGateway.Proofs.Trust.Precedence
import ToolGateway.Proofs.Trust.Tables
import ToolGateway.Proofs.Config.WrittenPolicy
import ToolGateway.Proofs.Table.Insertion
import ToolGateway.Proofs.Config.Registry
import ToolGateway.Proofs.Delivery.Buildable
import ToolGateway.Proofs.Gateway.Configured
import ToolGateway.Proofs.Gateway.WithPolicy
import ToolGateway.Proofs.Gateway.Denial
import ToolGateway.Proofs.Credential.Carried
import ToolGateway.Proofs.Text.ByteOrder
import ToolGateway.Proofs.Gateway.RetryAfter
import ToolGateway.Proofs.Gateway.Listing
import ToolGateway.Proofs.Http.Admission
import ToolGateway.Proofs.Callers.TokenOwner
import ToolGateway.Proofs.Http.TokenHeader
import ToolGateway.Proofs.Glob.Language
import ToolGateway.Proofs.Trust.Decision
import ToolGateway.Proofs.Text.Canonical
import ToolGateway.Proofs.Crypto.Galois
import ToolGateway.Proofs.Credential.Opening
import ToolGateway.Proofs.Config.Acceptance
import ToolGateway.Proofs.Text.Ascii
import ToolGateway.Proofs.Text.Digits
import ToolGateway.Proofs.Text.Punycode
import ToolGateway.Proofs.Json.Spelling
import ToolGateway.Proofs.Json.Grammar
import ToolGateway.Proofs.Json.Trimming
import ToolGateway.Proofs.Json.Names
import ToolGateway.Proofs.Json.Members
import ToolGateway.Proofs.Json.Writing
import ToolGateway.Proofs.Json.Values
import ToolGateway.Proofs.Breaker.WrittenSettings
import ToolGateway.Proofs.Url.NameText
import ToolGateway.Proofs.Url.HostText
import ToolGateway.Proofs.Url.UrlText
import ToolGateway.Proofs.Url.Origin
import ToolGateway.Proofs.Gateway.CallMembers
import ToolGateway.Audit.LogFile
import ToolGateway.Proofs.Audit.ReadBack
import ToolGateway.Proofs.Audit.LogFile
import ToolGateway.Proofs.Delivery.SizeLimit
import ToolGateway.Proofs.Delivery.Payload
import ToolGateway.Proofs.Glob.Rounds
import ToolGateway.Proofs.Limiter.Ranges
import ToolGateway.Proofs.Credential.LineEnds
import ToolGateway.Proofs.Config.AuditPath
