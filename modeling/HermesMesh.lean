import HermesMesh.Foundation.Action
import HermesMesh.Foundation.Machine
import HermesMesh.Foundation.HashChain
import HermesMesh.Python.Text
import HermesMesh.Python.Float
import HermesMesh.Python.Dict
import HermesMesh.Python.Json
import HermesMesh.Python.JsonScanner
import HermesMesh.Python.JsonRoundTrip
import HermesMesh.Python.JsonFacts
import HermesMesh.Python.Repr
import HermesMesh.Python.Path
import HermesMesh.Platform
import HermesMesh.Collab.Vault.State
import HermesMesh.Collab.Vault.Ledger
import HermesMesh.Collab.Vault.Commitment
import HermesMesh.Collab.Vault.Operations
import HermesMesh.Collab.Vault.Append
import HermesMesh.Collab.Vault.ChainRuns
import HermesMesh.Collab.Vault.Rejection
import HermesMesh.Collab.Vault.Acceptance
import HermesMesh.Python.FloatOrder
import HermesMesh.Collab.RateLimit
import HermesMesh.Server.RelayConnections
import HermesMesh.Collab.Relay.Client
import HermesMesh.Collab.Relay.Retry
import HermesMesh.Collab.Relay.Breaker
import HermesMesh.Collab.Auth.JoinCodes
import HermesMesh.Collab.Auth.SingleUse
import HermesMesh.Collab.Trust.Policy
import HermesMesh.Collab.Trust.Manager
import HermesMesh.Collab.Trust.Delivery
import HermesMesh.Python.JsonWire
import HermesMesh.Collab.Trust.ValuePolicy
import HermesMesh.Collab.Trust.Verification
import HermesMesh.Collab.Trust.Unambiguous
import HermesMesh.Server.ViewerGates
import HermesMesh.Collab.Vault.Crash
import HermesMesh.Collab.Vault.Recovery
import HermesMesh.Collab.Auth.Join
import HermesMesh.Collab.Auth.AllOrNothing
import HermesMesh.Server.Handlers
import HermesMesh.Collab.Vault.Applied
import HermesMesh.Server.RelayAgreement
import HermesMesh.Collab.WsRelay.Reconnect
import HermesMesh.Collab.Relay.Backoff
import HermesMesh.Collab.RateWindow
import HermesMesh.Collab.RetryAfter
import HermesMesh.Python.Links
import HermesMesh.Collab.Vault.SafePath
import HermesMesh.Collab.Vault.Files
import HermesMesh.Collab.Auth.Identity
import HermesMesh.Collab.Vault.TaskFolders
import HermesMesh.Collab.Auth.Invite
import HermesMesh.Collab.Auth.Redeem
import HermesMesh.Server.Forwarding
import HermesMesh.Server.LinkForward
import HermesMesh.Server.FailClosed
import HermesMesh.Collab.Vault.TaskTable
import HermesMesh.Collab.Vault.TaskFailure
import HermesMesh.Server.TaskRequests
import HermesMesh.Server.LocalTasks
import HermesMesh.Server.ExportPlace
import HermesMesh.Server.AgentStatus
import HermesMesh.Collab.Vault.Reader
import HermesMesh.Server.CollabStatus
import HermesMesh.Server.LedgerPage
import HermesMesh.Collab.Auth.Revoke
import HermesMesh.Foundation.Tickets
import HermesMesh.Server.Revocation
import HermesMesh.Collab.Vault.LoadedState
import HermesMesh.Collab.Vault.StateShape
import HermesMesh.Collab.Auth.KillSwitch
import HermesMesh.Collab.Trust.Replay
import HermesMesh.Collab.Trust.Authenticity
import HermesMesh.Foundation.Refinement
import HermesMesh.Server.Replication
import HermesMesh.Collab.Vault.Calls
import HermesMesh.Collab.Vault.Journal
import HermesMesh.Collab.Vault.Revoked
import HermesMesh.Server.Node
import HermesMesh.Server.VaultRuns
import HermesMesh.Server.RecordedOnce
import HermesMesh.Python.JsonLines
import HermesMesh.Server.Discussion
import HermesMesh.Collab.Vault.Reload
import HermesMesh.Server.ViewerAccess
import HermesMesh.Collab.Vault.Restarts
import HermesMesh.Collab.Vault.TypedState
import HermesMesh.Scripts.IdentityScan
import HermesMesh.Collab.Vault.Opening
