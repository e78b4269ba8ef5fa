import Gateway.Main
import Gateway.Proxy.Call
import Gateway.Server.Admission
import Gateway.Server.Connection
import Gateway.Server.Phase
import Gateway.Proofs.Text
import Gateway.Proofs.Framing
import Gateway.Proofs.Request
import Gateway.Proofs.Capture
import Gateway.Proofs.Routing
import Gateway.Proofs.Reframing
import Gateway.Proofs.Host
import Gateway.Proofs.Delivery
import Gateway.Proofs.Reply
import Gateway.Proofs.Wire
import Gateway.Proofs.Transparency
import Gateway.Proofs.Rotation
import Gateway.Proofs.Health
import Gateway.Proofs.Exchange
import Gateway.Proofs.Course
import Gateway.Proofs.Failover
import Gateway.Proofs.Overtaking
import Gateway.Proofs.DeclaredLength
import Gateway.Proofs.Walk
import Gateway.Proofs.Confinement
import Gateway.Proofs.Answer
import Gateway.Proofs.Connection
import Gateway.Proofs.History
import Gateway.Proofs.Charge
import Gateway.Proofs.RoundTrip
import Gateway.Proofs.Permits
import Gateway.Proofs.Segmentation
import Gateway.Proofs.Acceptance
import Gateway.Proofs.Disclosure
import Gateway.Proofs.Turns
import Gateway.Proofs.Fairness
import Gateway.Proofs.Starvation
import Gateway.Proofs.CanonicalForm
import Gateway.Proofs.ShortWrites
import Gateway.Proofs.Body
import Gateway.Proofs.HeaderLines
import Gateway.Proofs.TargetForms
import Gateway.Proofs.TargetForms
