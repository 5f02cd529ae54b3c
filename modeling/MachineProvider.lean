import MachineProvider.Action
import MachineProvider.ApiAnswer
import MachineProvider.Cloud.Client
import MachineProvider.Cloud.Connector
import MachineProvider.Cloud.Error
import MachineProvider.Cloud.Http
import MachineProvider.Cloud.Message
import MachineProvider.Cloud.Url
import MachineProvider.Cluster
import MachineProvider.Cluster.Reconcile
import MachineProvider.Cluster.Run
import MachineProvider.ClusterApi
import MachineProvider.Condition
import MachineProvider.Config.Basic
import MachineProvider.Config.Encoding
import MachineProvider.Config.File
import MachineProvider.Config.Settings
import MachineProvider.Controller.Basic
import MachineProvider.Controller.Conclude
import MachineProvider.Controller.Kind
import MachineProvider.Controller.Retry
import MachineProvider.Controller.Schedule
import MachineProvider.Controller.Watch
import MachineProvider.Controller.Write
import MachineProvider.Credentials
import MachineProvider.Delay
import MachineProvider.Dictionary
import MachineProvider.Encoding.Base64
import MachineProvider.Encoding.Gzip
import MachineProvider.Encoding.Inflate
import MachineProvider.Environment
import MachineProvider.Error
import MachineProvider.Event
import MachineProvider.FailureCount
import MachineProvider.Guard
import MachineProvider.Instance
import MachineProvider.Json.Decode
import MachineProvider.Json.Parser
import MachineProvider.Json.Printer
import MachineProvider.Json.Value
import MachineProvider.Lease.Basic
import MachineProvider.Lease.Election
import MachineProvider.Lease.Leadership
import MachineProvider.Machine
import MachineProvider.Machine.Launch
import MachineProvider.Machine.Reconcile
import MachineProvider.Machine.Run
import MachineProvider.Main
import MachineProvider.Manager.Arguments
import MachineProvider.Manager.Start
import MachineProvider.Object.Basic
import MachineProvider.Object.Metadata
import MachineProvider.Procedure
import MachineProvider.Proofs.Discipline
import MachineProvider.Proofs.Machine.Progress
import MachineProvider.Proofs.Machine.Services
import MachineProvider.ProviderId
import MachineProvider.Secret
import MachineProvider.Service
import MachineProvider.Simulation.Clock
import MachineProvider.Simulation.Cloud
import MachineProvider.Simulation.Dispatch
import MachineProvider.Simulation.Labels
import MachineProvider.Simulation.Log
import MachineProvider.Simulation.Network
import MachineProvider.Simulation.Replica
import MachineProvider.Simulation.Script
import MachineProvider.Simulation.Server
import MachineProvider.Simulation.Services
import MachineProvider.Simulation.World
import MachineProvider.SocketAddress
import MachineProvider.Text.Blank
import MachineProvider.Text.Digit
import MachineProvider.Text.Hidden
import MachineProvider.Text.Quoted
import MachineProvider.Text.Utf8
import MachineProvider.Timestamp
import MachineProvider.Timestamp.Lenient
import MachineProvider.Yaml.Core
import MachineProvider.Yaml.Cursor
import MachineProvider.Yaml.Document.OfTokens
import MachineProvider.Yaml.Node
import MachineProvider.Yaml.Scalar
import MachineProvider.Yaml.Tag
import MachineProvider.Yaml.Token
import MachineProvider.Yaml.Token.Lexer
import MachineProvider.Proofs.Machine.Conduct
import MachineProvider.Proofs.Machine.History
import MachineProvider.Proofs.Machine.Records
import MachineProvider.Proofs.Machine.SingleInstance
import MachineProvider.Proofs.Machine.Cleanup
import MachineProvider.Proofs.Writing
import MachineProvider.Proofs.Machine.FinalFailure
import MachineProvider.Proofs.Machine.Latch
import MachineProvider.Proofs.Guard
import MachineProvider.Proofs.Surroundings
import MachineProvider.Proofs.Machine.Interruption
import MachineProvider.Proofs.Lease.Campaign
import MachineProvider.Proofs.Lease.Replicas
import MachineProvider.Proofs.Lease.Exclusion
import MachineProvider.Proofs.Lease.Overlap
import MachineProvider.Proofs.Lease.Tenure
import MachineProvider.Proofs.Lease.Electorate
import MachineProvider.Proofs.Machine.Recording
import MachineProvider.Proofs.Machine.Shutdown
import MachineProvider.Proofs.Condition
import MachineProvider.Proofs.Machine.Advance
import MachineProvider.Proofs.Machine.Status
import MachineProvider.Proofs.Machine.Readiness
import MachineProvider.Proofs.Content
import MachineProvider.Proofs.Pause
import MachineProvider.Proofs.Machine.Wakeup
import MachineProvider.Proofs.Json
import MachineProvider.Proofs.Codec
import MachineProvider.Proofs.Replies
import MachineProvider.Proofs.Machine.Convergence
import MachineProvider.Proofs.FailureCount
import MachineProvider.Proofs.Dictionary
import MachineProvider.Proofs.Retry.Forgetting
import MachineProvider.Proofs.Retry.Delays
import MachineProvider.Proofs.Cloud.Visit
import MachineProvider.Proofs.Cloud.Sharing
import MachineProvider.Proofs.Cluster.Readiness
import MachineProvider.Proofs.Machine.Release
import MachineProvider.Proofs.Machine.Requests
import MachineProvider.Proofs.Machine.Frame
import MachineProvider.Proofs.Machine.Rebase
import MachineProvider.Proofs.Cloud.Errand
import MachineProvider.Proofs.Cloud.Creation
import MachineProvider.Proofs.Cloud.Failure
import MachineProvider.Proofs.Machine.Spot
import MachineProvider.Proofs.Cluster.Convergence
import MachineProvider.Proofs.Race
import MachineProvider.Proofs.Retry.Backoff
import MachineProvider.Proofs.Retry.Streaks
import MachineProvider.Proofs.Lease.Arithmetic
import MachineProvider.Proofs.Lease.Loss
import MachineProvider.Proofs.Lease.Upkeep
import MachineProvider.Proofs.Calendar
import MachineProvider.Proofs.Timestamp
import MachineProvider.Proofs.Lease.Recognition
import MachineProvider.Proofs.Deadline
import MachineProvider.Proofs.Cloud.Expiry
import MachineProvider.Proofs.Encoding.Base64
import MachineProvider.Proofs.Encoding.Gzip
import MachineProvider.Proofs.Machine.Bootstrap
import MachineProvider.Proofs.Credentials
import MachineProvider.Proofs.Cloud.Connector
import MachineProvider.Proofs.Cloud.Percent
import MachineProvider.Proofs.Cloud.Url
import MachineProvider.Proofs.Cloud.Resource
import MachineProvider.Proofs.Machine.Naming
import MachineProvider.Proofs.Cluster.Release
import MachineProvider.Proofs.Manager.Arguments
import MachineProvider.Proofs.Manager.Start
import MachineProvider.Proofs.Secrecy.Basic
import MachineProvider.Proofs.Secrecy.Reconcile
