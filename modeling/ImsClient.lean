import ImsClient.Engine
import ImsClient.Numbering
import ImsClient.Proofs.Registration.Attempt
import ImsClient.Proofs.Registration.Deferral
import ImsClient.Proofs.Registration.Notices
import ImsClient.Session.Document
import ImsClient.Settings.Document
import ImsClient.Simulation.Capability
import ImsClient.Simulation.Client
import ImsClient.Simulation.Registry
import ImsClient.Simulation.Session
import ImsClient.Simulation.Timer
import ImsClient.Proofs.Session.Routing
import ImsClient.Proofs.Dialog.Request
import ImsClient.Proofs.Registration.Traffic
import ImsClient.Proofs.Registration.Wire
import ImsClient.Proofs.Session.Run
import ImsClient.Proofs.Engine.Agreement
import ImsClient.Proofs.Session.Acknowledgement
import ImsClient.Proofs.Session.Capacity
import ImsClient.Proofs.Registration.Refresh
import ImsClient.Proofs.Session.Decision
import ImsClient.Proofs.Time.Refresher
import ImsClient.Proofs.Capability.Polling
import ImsClient.Proofs.Dialog.Offer
import ImsClient.Proofs.Session.Retry
import ImsClient.Proofs.Registration.Failure
import ImsClient.Proofs.Registration.Challenges
import ImsClient.Proofs.Session.Course
import ImsClient.Proofs.Session.Offering
import ImsClient.Proofs.Dialog.Response
import ImsClient.Proofs.Session.Answering
import ImsClient.Proofs.Session.Commitment
import ImsClient.Proofs.Session.Failures
import ImsClient.Proofs.Session.Ringing
import ImsClient.Proofs.Registration.Backoff
import ImsClient.Proofs.Registration.Lifetime
import ImsClient.Proofs.Registration.Binding
import ImsClient.Proofs.Net.Address
import ImsClient.Proofs.Dialog.Origin
import ImsClient.Proofs.Registration.Recognition
import ImsClient.Proofs.Registration.Traversal
import ImsClient.Proofs.Digest.History
import ImsClient.Proofs.Digest.Parameters
import ImsClient.Proofs.Digest.Verifier
import ImsClient.Proofs.Digest.Selection
import ImsClient.Proofs.Session.Removal
import ImsClient.Proofs.Session.Shadowing
import ImsClient.Proofs.Capability.Scanning
import ImsClient.Proofs.Session.Lifecycle
import ImsClient.Proofs.Json.RoundTrip
import ImsClient.Proofs.Json.Shapes
import ImsClient.Proofs.Session.Sequence
import ImsClient.Proofs.Settings.Document
import ImsClient.Proofs.Sip.Replacement
import ImsClient.Proofs.Registration.Seconds
import ImsClient.Proofs.Registration.Overlap
