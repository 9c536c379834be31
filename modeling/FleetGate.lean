import FleetGate.AccessError
import FleetGate.AccessReview
import FleetGate.Api.Call
import FleetGate.Api.Moment
import FleetGate.Api.Shape
import FleetGate.ApiObject
import FleetGate.Backoff
import FleetGate.Calendar
import FleetGate.Caller
import FleetGate.Certificate
import FleetGate.Client
import FleetGate.Clock
import FleetGate.ClusterState
import FleetGate.ClusterWatcher
import FleetGate.CommandLine
import FleetGate.Config.Hub
import FleetGate.Config.Loader
import FleetGate.Config.Settings
import FleetGate.Config.Tables
import FleetGate.Config.Toolset
import FleetGate.Connection
import FleetGate.Debouncer
import FleetGate.DenyList
import FleetGate.Discovery
import FleetGate.Domain.Accents
import FleetGate.Domain.Direction
import FleetGate.Domain.Folding
import FleetGate.Domain.Joining
import FleetGate.Domain.Letters
import FleetGate.Domain.Ligatures
import FleetGate.Domain.Marks
import FleetGate.Domain.Name
import FleetGate.Domain.Punycode
import FleetGate.Domain.Refused
import FleetGate.Environment
import FleetGate.Fields
import FleetGate.Files
import FleetGate.FleetError
import FleetGate.Form
import FleetGate.Gate
import FleetGate.Handle
import FleetGate.Http
import FleetGate.Json.Draft
import FleetGate.Json.Number
import FleetGate.Json.Parser
import FleetGate.Json.Printer
import FleetGate.Json.Token
import FleetGate.Json.Value
import FleetGate.Kubeconfig
import FleetGate.Kubeconfig.Connecting
import FleetGate.Kubeconfig.Reading
import FleetGate.KubeconfigFiles
import FleetGate.Limiter
import FleetGate.Main
import FleetGate.Manager
import FleetGate.Membership
import FleetGate.Method
import FleetGate.Network
import FleetGate.Numeric.Binary
import FleetGate.Numeric.Decimal
import FleetGate.Numeric.Rounding
import FleetGate.Numeric.Shortest
import FleetGate.Path
import FleetGate.Pem
import FleetGate.Proofs.Admission
import FleetGate.Proofs.Calls
import FleetGate.Proofs.Running
import FleetGate.Provider
import FleetGate.Provider.Contexts
import FleetGate.Provider.Hub
import FleetGate.Provider.Single
import FleetGate.Registry
import FleetGate.Report.Clients
import FleetGate.Report.Failures
import FleetGate.Report.Settings
import FleetGate.Resource
import FleetGate.ResourcePath
import FleetGate.Route
import FleetGate.Schema
import FleetGate.SchemaCheck
import FleetGate.Session
import FleetGate.Simulation.Description
import FleetGate.Simulation.Desk
import FleetGate.Simulation.Scenario
import FleetGate.Simulation.ScriptedCluster
import FleetGate.Simulation.ScriptedGate
import FleetGate.Simulation.Server
import FleetGate.Simulation.Trace
import FleetGate.Simulation.World
import FleetGate.StatusCode
import FleetGate.Strategy
import FleetGate.Text.Base64
import FleetGate.Text.Blank
import FleetGate.Text.CharClass
import FleetGate.Text.Quoted
import FleetGate.Text.Reader
import FleetGate.Text.Unprintable
import FleetGate.Text.Utf8
import FleetGate.TokenExchange
import FleetGate.TokenReview
import FleetGate.Toml.Decode
import FleetGate.Toml.Document
import FleetGate.Toml.Scalar
import FleetGate.Toml.Value
import FleetGate.Topology
import FleetGate.Uri
import FleetGate.Url
import FleetGate.Url.Host
import FleetGate.Url.Percent
import FleetGate.Yaml.Atom
import FleetGate.Yaml.Cursor
import FleetGate.Yaml.Decode
import FleetGate.Yaml.Directive
import FleetGate.Yaml.Json
import FleetGate.Yaml.Node
import FleetGate.Yaml.Scalar
import FleetGate.Yaml.Tag
import FleetGate.Yaml.Token
import FleetGate.Yaml.Tree
import FleetGate.Yaml.Value
import FleetGate.Proofs.Clients
import FleetGate.Proofs.Mediation
import FleetGate.Proofs.Encoding
import FleetGate.Proofs.Bearers
import FleetGate.Proofs.Identity
import FleetGate.Proofs.Managers
import FleetGate.Proofs.Credentials
import FleetGate.Proofs.Topologies
import FleetGate.Proofs.Turns
import FleetGate.Proofs.Histories
import FleetGate.Proofs.LocalCluster
import FleetGate.Proofs.Followers
import FleetGate.Proofs.Following
import FleetGate.Proofs.Recovery
import FleetGate.Proofs.Slots
import FleetGate.Proofs.Makes
import FleetGate.Proofs.Seats
import FleetGate.Proofs.HubLives
import FleetGate.Proofs.Lives
import FleetGate.Proofs.Targets
import FleetGate.Proofs.Defaults
import FleetGate.Proofs.Delays
import FleetGate.Proofs.Edits
import FleetGate.Proofs.Staffing
import FleetGate.Proofs.Answers
import FleetGate.Proofs.Rosters
import FleetGate.Proofs.BusyProviders
import FleetGate.Proofs.ByteOrder
import FleetGate.Proofs.Polling
import FleetGate.Proofs.Reloads
import FleetGate.Proofs.Recaptures
import FleetGate.Proofs.Documents
import FleetGate.Proofs.Directories
import FleetGate.Proofs.Layers
import FleetGate.Proofs.Locations
import FleetGate.Proofs.Decoding
import FleetGate.Proofs.ProxyTrust
import FleetGate.Proofs.Exchanges
import FleetGate.Proofs.Escalation
import FleetGate.Proofs.Rereading
import FleetGate.Proofs.Reviews
import FleetGate.Proofs.Verdicts
import FleetGate.Proofs.ResourcePaths
import FleetGate.Proofs.Conformance
import FleetGate.Proofs.Repairs
import FleetGate.Proofs.OwnCalls
import FleetGate.Proofs.Journals
import FleetGate.Proofs.Nesting
import FleetGate.Proofs.Closing
import FleetGate.Proofs.Stopping
import FleetGate.Proofs.FieldNames
import FleetGate.Proofs.SharedCaches
import FleetGate.Proofs.Freshness
import FleetGate.Proofs.Snapshots
import FleetGate.Proofs.Settling
import FleetGate.Proofs.KnownTables
import FleetGate.Proofs.DerivedContexts
import FleetGate.Proofs.Interchange
import FleetGate.Proofs.Overrides
import FleetGate.Proofs.Rates
import FleetGate.Proofs.Triggers
import FleetGate.Proofs.WatchedFiles
import FleetGate.Proofs.TwoReaders
import FleetGate.Proofs.Openings
import FleetGate.Proofs.Rounds
