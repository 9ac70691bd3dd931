import KernelLink.Main
import KernelLink.Proofs.Log.History
import KernelLink.Rehearsal.Chance
import KernelLink.Rehearsal.Peer
import KernelLink.Proofs.Client.Pending
import KernelLink.Proofs.Client.Frames
import KernelLink.Proofs.Bytes
import KernelLink.Proofs.Signature
import KernelLink.Proofs.Launch.Template
import KernelLink.Proofs.Json.Numerals
import KernelLink.Proofs.Json.Strings
import KernelLink.Proofs.Json.WriteRead
import KernelLink.Proofs.Message.Header
import KernelLink.Proofs.Wire.RoundTrip
import KernelLink.Proofs.Client.Interleaving
import KernelLink.Proofs.Client.Verdicts
import KernelLink.Proofs.Manager.SharedKey
import KernelLink.Proofs.Wire.Boundaries
import KernelLink.Proofs.Message.Readings
import KernelLink.Proofs.Manager.Acknowledgement
import KernelLink.Proofs.Client.Attribution
import KernelLink.Proofs.Client.Correlation
import KernelLink.Proofs.Client.Dispatch
import KernelLink.Proofs.Client.Failures
import KernelLink.Proofs.Client.Service
import KernelLink.Proofs.Client.Upkeep
import KernelLink.Proofs.Client.Stopping
import KernelLink.Proofs.Rehearsal.Course
import KernelLink.Proofs.Rehearsal.Passing
import KernelLink.Proofs.Manager.Tenure
import KernelLink.Proofs.Manager.Shutdown
import KernelLink.Proofs.Manager.CurrentLaunch
import KernelLink.Proofs.Manager.Asking
import KernelLink.Proofs.Heartbeat.Beating
import KernelLink.Proofs.Heartbeat.Released
import KernelLink.Proofs.Rehearsal.Ensuing
import KernelLink.Proofs.Manager.Refusal
import KernelLink.Proofs.Manager.Liveness
import KernelLink.Proofs.Manager.Attempts
import KernelLink.Proofs.Process.Notice
import KernelLink.Proofs.Process.Rehearsed
import KernelLink.Proofs.Connection.Ownership
import KernelLink.Proofs.Spec.Precedence
import KernelLink.Proofs.Spec.Enumeration
import KernelLink.Proofs.Spec.Listing
import KernelLink.Proofs.Launch.Layers
import KernelLink.Proofs.Address.Loopback
import KernelLink.Proofs.Log.Counter
import KernelLink.Proofs.Log.Index
import KernelLink.Proofs.Channel.Silence
