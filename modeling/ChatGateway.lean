import ChatGateway.Application.Selection
import ChatGateway.Application.Startup
import ChatGateway.Bundle
import ChatGateway.Classifier
import ChatGateway.Config.Document
import ChatGateway.Config.EnvironmentFile
import ChatGateway.Config.File
import ChatGateway.Config.Ini
import ChatGateway.Config.Json
import ChatGateway.Config.Json5
import ChatGateway.Config.Key
import ChatGateway.Config.Layer
import ChatGateway.Config.Load
import ChatGateway.Config.Ron
import ChatGateway.Config.Setting
import ChatGateway.Config.Toml.Number
import ChatGateway.Config.Toml.Table
import ChatGateway.Config.Toml.Text
import ChatGateway.Config.Yaml.Node
import ChatGateway.Config.Yaml.Scalar
import ChatGateway.Config.Yaml.Stream
import ChatGateway.Decimal.Notation
import ChatGateway.Decimal.Reading
import ChatGateway.Decimal.Shortest
import ChatGateway.Echo
import ChatGateway.Envelope
import ChatGateway.Failure
import ChatGateway.Files.Path
import ChatGateway.Files.Tree
import ChatGateway.Gateway.Endpoint
import ChatGateway.Gateway.Extract
import ChatGateway.Gateway.Handler
import ChatGateway.Gateway.Layer
import ChatGateway.Gateway.Router
import ChatGateway.Gateway.Task
import ChatGateway.Gateway.Uuid
import ChatGateway.Http.Client
import ChatGateway.Http.Date
import ChatGateway.Http.Header
import ChatGateway.Http.Host
import ChatGateway.Http.MediaType
import ChatGateway.Http.Message
import ChatGateway.Http.Punycode
import ChatGateway.Http.Range
import ChatGateway.Http.StaticFiles
import ChatGateway.Http.Status
import ChatGateway.Http.Target
import ChatGateway.Http.Url
import ChatGateway.Json.Fault
import ChatGateway.Json.Lexeme
import ChatGateway.Json.Number
import ChatGateway.Json.Reader
import ChatGateway.Json.Record
import ChatGateway.Json.Skip
import ChatGateway.Json.Value
import ChatGateway.Json.Writer
import ChatGateway.Listen
import ChatGateway.Log
import ChatGateway.Log.Filter
import ChatGateway.Log.Line
import ChatGateway.Main
import ChatGateway.Metrics.Exposition
import ChatGateway.Metrics.Registry
import ChatGateway.Metrics.Tally
import ChatGateway.OsFault
import ChatGateway.Program
import ChatGateway.Proofs.Application.Start
import ChatGateway.Proofs.Bundle.Admission
import ChatGateway.Proofs.Bundle.Collision
import ChatGateway.Proofs.Bundle.Footprint
import ChatGateway.Proofs.Bundle.Ground
import ChatGateway.Proofs.Bundle.History
import ChatGateway.Proofs.Bundle.Overlap
import ChatGateway.Proofs.Bundle.Promise
import ChatGateway.Proofs.Bundle.Rivals
import ChatGateway.Proofs.Bundle.Stages
import ChatGateway.Proofs.Bundle.Storing
import ChatGateway.Proofs.Classifier.Forwarding
import ChatGateway.Proofs.Classifier.Health
import ChatGateway.Proofs.Classifier.Meaning
import ChatGateway.Proofs.Classifier.Origin
import ChatGateway.Proofs.Classifier.Transport
import ChatGateway.Proofs.Config.Characters
import ChatGateway.Proofs.Config.Layers
import ChatGateway.Proofs.Config.Loading
import ChatGateway.Proofs.Config.Numerals
import ChatGateway.Proofs.Config.Port
import ChatGateway.Proofs.Config.PortFile
import ChatGateway.Proofs.Config.PortForm
import ChatGateway.Proofs.Config.PortForm.Braces
import ChatGateway.Proofs.Config.PortForm.Yaml
import ChatGateway.Proofs.Config.Variables
import ChatGateway.Proofs.Echo
import ChatGateway.Proofs.Envelope
import ChatGateway.Proofs.Failure
import ChatGateway.Proofs.Files.Agreement
import ChatGateway.Proofs.Files.Change
import ChatGateway.Proofs.Files.Walk
import ChatGateway.Proofs.Gateway.Acceptance
import ChatGateway.Proofs.Gateway.Accounting
import ChatGateway.Proofs.Gateway.Alone
import ChatGateway.Proofs.Gateway.Arrangement
import ChatGateway.Proofs.Gateway.Bounded
import ChatGateway.Proofs.Gateway.Chain
import ChatGateway.Proofs.Gateway.Correlation
import ChatGateway.Proofs.Gateway.Interference
import ChatGateway.Proofs.Gateway.Layers
import ChatGateway.Proofs.Gateway.Likeness
import ChatGateway.Proofs.Gateway.Notices
import ChatGateway.Proofs.Gateway.PageAssets
import ChatGateway.Proofs.Gateway.PagePolicy
import ChatGateway.Proofs.Gateway.Paths
import ChatGateway.Proofs.Gateway.Prediction
import ChatGateway.Proofs.Gateway.Probes
import ChatGateway.Proofs.Gateway.Quiet
import ChatGateway.Proofs.Gateway.RequestId
import ChatGateway.Proofs.Gateway.RouteCounts
import ChatGateway.Proofs.Gateway.Routes
import ChatGateway.Proofs.Gateway.SecurityFields
import ChatGateway.Proofs.Gateway.SeriesBound
import ChatGateway.Proofs.Gateway.Traffic
import ChatGateway.Proofs.Http.Connection
import ChatGateway.Proofs.Http.Fields
import ChatGateway.Proofs.Http.IgnoredField
import ChatGateway.Proofs.Http.LastAnswer
import ChatGateway.Proofs.Http.Redirection
import ChatGateway.Proofs.Json.Conformity
import ChatGateway.Proofs.Json.Economy
import ChatGateway.Proofs.Json.Entries
import ChatGateway.Proofs.Json.Envelopes
import ChatGateway.Proofs.Json.Extent
import ChatGateway.Proofs.Json.Grammar
import ChatGateway.Proofs.Json.Lexemes
import ChatGateway.Proofs.Json.Members
import ChatGateway.Proofs.Json.Numbers
import ChatGateway.Proofs.Json.Numeral
import ChatGateway.Proofs.Json.Passing
import ChatGateway.Proofs.Json.Spelling
import ChatGateway.Proofs.Json.Values
import ChatGateway.Proofs.Json.Written
import ChatGateway.Proofs.Listen
import ChatGateway.Proofs.Log.Filter
import ChatGateway.Proofs.Metrics.Accounts
import ChatGateway.Proofs.Metrics.Marks
import ChatGateway.Proofs.Metrics.Shown
import ChatGateway.Proofs.Program
import ChatGateway.Proofs.Settings.Reading
import ChatGateway.Proofs.Settings.Respelling
import ChatGateway.Proofs.Settings.Timeout
import ChatGateway.Proofs.Text.Encoding
import ChatGateway.Proofs.Text.Hexadecimal
import ChatGateway.Proofs.Text.Numeral
import ChatGateway.Proofs.Text.Octets
import ChatGateway.Proofs.Text.Trimming
import ChatGateway.Proofs.Trace.Stamp
import ChatGateway.Responder
import ChatGateway.Settings
import ChatGateway.Site.Assets
import ChatGateway.Site.Page
import ChatGateway.Site.Script
import ChatGateway.Site.Style
import ChatGateway.Telemetry
import ChatGateway.Text.Alphanumeric
import ChatGateway.Text.Base64
import ChatGateway.Text.Blank
import ChatGateway.Text.Bytes
import ChatGateway.Text.Cursor
import ChatGateway.Text.Natural
import ChatGateway.Text.Percent
import ChatGateway.Text.Quoted
import ChatGateway.Text.Unprintable
import ChatGateway.Trace.Context
