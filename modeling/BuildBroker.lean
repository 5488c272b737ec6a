import BuildBroker.Main
import BuildBroker.Scenario.Live
import BuildBroker.Scenario.LogScript
import BuildBroker.Scenario.RendezvousScript
import BuildBroker.Proofs.Log.FanOut
import BuildBroker.Rendezvous.Step
import BuildBroker.Proofs.Rendezvous.Handover
import BuildBroker.Coordinator.Step
import BuildBroker.Proofs.Coordinator.Delegation
import BuildBroker.Proofs.Coordinator.Stranded
import BuildBroker.Http.Step
import BuildBroker.Proofs.Http.FirstResult
import BuildBroker.Proofs.Coordinator.Lifecycle
import BuildBroker.Proofs.Coordinator.Endings
import BuildBroker.Proofs.Coordinator.Answers
import BuildBroker.Proofs.Rendezvous.Prompt
import BuildBroker.Proofs.Log.Closing
import BuildBroker.Proofs.Coordinator.Isolation
import BuildBroker.Proofs.Config.Layering
import BuildBroker.Proofs.Tunnel.Copying
import BuildBroker.Proofs.Coordinator.Sessions
import BuildBroker.Proofs.Log.Following
import BuildBroker.Proofs.Log.Merging
import BuildBroker.Proofs.Http.LogSockets
import BuildBroker.Proofs.Build.Peers
import BuildBroker.Proofs.Http.Callbacks
import BuildBroker.Proofs.Config.EnvFile
import BuildBroker.Proofs.Http.Relays
import BuildBroker.Proofs.Http.Unchanged
import BuildBroker.Proofs.Http.Heads
import BuildBroker.Proofs.Log.Backlog
import BuildBroker.Proofs.CommandLine.StandIns
import BuildBroker.Proofs.Coordinator.Drains
import BuildBroker.Proofs.Registry.Listing
import BuildBroker.Proofs.Build.Documents
import BuildBroker.Proofs.Net.Addresses
import BuildBroker.Proofs.Tunnel.Endpoints
import BuildBroker.Proofs.Config.LocalPeers
import BuildBroker.Proofs.Registry.Results
import BuildBroker.Proofs.Rendezvous.Ownership
