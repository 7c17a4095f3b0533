import GatedRelay.Command.Line
import GatedRelay.Command.Run
import GatedRelay.Command.StartupError
import GatedRelay.Config.Access
import GatedRelay.Config.Options
import GatedRelay.Config.Settings
import GatedRelay.Config.Template
import GatedRelay.Digest.Block
import GatedRelay.Digest.Hmac
import GatedRelay.Digest.Sha1
import GatedRelay.Digest.Sha2
import GatedRelay.Expr.Ast
import GatedRelay.Expr.Convert
import GatedRelay.Expr.Error
import GatedRelay.Expr.Eval
import GatedRelay.Expr.Format
import GatedRelay.Expr.Function
import GatedRelay.Expr.Library
import GatedRelay.Expr.Operators
import GatedRelay.Expr.Parser
import GatedRelay.Expr.Program
import GatedRelay.Expr.ProgramSet
import GatedRelay.Expr.TimePart
import GatedRelay.Expr.Token
import GatedRelay.Expr.Type
import GatedRelay.Expr.Typing
import GatedRelay.Expr.Value
import GatedRelay.Fault
import GatedRelay.Json.Parser
import GatedRelay.Json.Printer
import GatedRelay.Json.Record
import GatedRelay.Json.Value
import GatedRelay.Jwt
import GatedRelay.Net.HostPort
import GatedRelay.Net.IpAddress
import GatedRelay.Net.IpRange
import GatedRelay.Number.Binary64
import GatedRelay.Number.Render
import GatedRelay.Number.Shortest
import GatedRelay.Pattern.Bracket
import GatedRelay.Pattern.CharSet
import GatedRelay.Pattern.Escape
import GatedRelay.Pattern.Flags
import GatedRelay.Pattern.Parser
import GatedRelay.Pattern.Regex
import GatedRelay.Publish.Deliveries
import GatedRelay.Publish.Exchange
import GatedRelay.Publish.Outbox
import GatedRelay.Publish.PubSub
import GatedRelay.Publish.Shared
import GatedRelay.Publish.Status
import GatedRelay.Publish.Token
import GatedRelay.Publish.TokenDesk
import GatedRelay.Publish.Topic
import GatedRelay.Relay.Content
import GatedRelay.Relay.Pipeline
import GatedRelay.Relay.Rejection
import GatedRelay.Relay.Traffic
import GatedRelay.Secret.Manager
import GatedRelay.Secret.Reference
import GatedRelay.Text.Base64
import GatedRelay.Text.Blank
import GatedRelay.Text.CaseFold
import GatedRelay.Text.Category
import GatedRelay.Text.Escaped
import GatedRelay.Text.Hex
import GatedRelay.Text.Hidden
import GatedRelay.Text.Numeral
import GatedRelay.Text.Property
import GatedRelay.Text.Quoted
import GatedRelay.Text.Runs
import GatedRelay.Text.Script
import GatedRelay.Text.Search
import GatedRelay.Text.Utf8
import GatedRelay.Time.Calendar
import GatedRelay.Time.Duration
import GatedRelay.Time.Timestamp
import GatedRelay.Time.Zone
import GatedRelay.Toml.Parser
import GatedRelay.Toml.Scalar
import GatedRelay.Toml.Value
import GatedRelay.Web.Form
import GatedRelay.Web.Handler
import GatedRelay.Web.Message
import GatedRelay.Web.Request
import GatedRelay.Web.Route
import GatedRelay.Web.Uri
import GatedRelay.Web.Variables
import GatedRelay.Main
import GatedRelay.Proofs.Attempts
import GatedRelay.Proofs.Stages
import GatedRelay.Proofs.Interleaving
import GatedRelay.Proofs.FunctionNames
import GatedRelay.Proofs.TermInduction
import GatedRelay.Proofs.ValueTypes
import GatedRelay.Proofs.TypeSoundness
import GatedRelay.Proofs.Compiling
import GatedRelay.Proofs.Decisions
import GatedRelay.Proofs.Names
import GatedRelay.Proofs.Resolving
import GatedRelay.Proofs.ScopeSoundness
import GatedRelay.Proofs.Encoding
import GatedRelay.Proofs.Numerals
import GatedRelay.Proofs.JsonOrder
import GatedRelay.Proofs.JsonText
import GatedRelay.Proofs.Answers
import GatedRelay.Proofs.Republishing
import GatedRelay.Proofs.Aborts
import GatedRelay.Proofs.ObjectTexts
import GatedRelay.Proofs.Base64Text
import GatedRelay.Proofs.DoubleValues
import GatedRelay.Proofs.Tokens
import GatedRelay.Proofs.TokenTimes
import GatedRelay.Proofs.AddressTexts
import GatedRelay.Proofs.Reordering
import GatedRelay.Proofs.PeerAddresses
import GatedRelay.Proofs.TextParts
import GatedRelay.Proofs.MergedSettings
import GatedRelay.Proofs.SecretSettings
import GatedRelay.Proofs.Delivering
import GatedRelay.Proofs.TokenCache
import GatedRelay.Proofs.Drafts
import GatedRelay.Proofs.Comprehensions
import GatedRelay.Proofs.Likeness
import GatedRelay.Proofs.Renaming
import GatedRelay.Proofs.RoutePaths
import GatedRelay.Proofs.Startup
import GatedRelay.Proofs.Scanning
import GatedRelay.Proofs.FieldPresence
import GatedRelay.Proofs.GradualTyping
import GatedRelay.Proofs.Headers
import GatedRelay.Proofs.FormText
import GatedRelay.Proofs.TakingUp
import GatedRelay.Proofs.DecimalTexts
import GatedRelay.Proofs.DurationTexts
import GatedRelay.Proofs.JsonForms
import GatedRelay.Proofs.AddressGrammar
import GatedRelay.Proofs.RangeTests
import GatedRelay.Proofs.ShortestDecimals
import GatedRelay.Proofs.DoubleTexts
import GatedRelay.Proofs.PrintedJson
import GatedRelay.Proofs.Coercions
import GatedRelay.Proofs.Templates
import GatedRelay.Proofs.WholeNumberTexts
import GatedRelay.Proofs.QuotedText
import GatedRelay.Proofs.Base64Functions
import GatedRelay.Proofs.Occurrences
import GatedRelay.Proofs.TextPieces
import GatedRelay.Proofs.ByteOffsets
import GatedRelay.Proofs.CharacterIndices
import GatedRelay.Proofs.TextSizes
import GatedRelay.Proofs.CalendarDays
import GatedRelay.Proofs.CalendarFields
import GatedRelay.Proofs.ZoneTexts
import GatedRelay.Proofs.HostPorts
import GatedRelay.Proofs.EnumerationOrder
import GatedRelay.Proofs.TokenLifetimes
