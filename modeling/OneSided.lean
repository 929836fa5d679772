import OneSided.Document.Calibration
import OneSided.Document.Geometry
import OneSided.Document.Text
import OneSided.Operation
import OneSided.Proofs.Plane.Rates
import OneSided.Proofs.Plane.Observer
import OneSided.Proofs.Plane.Lowest
import OneSided.Proofs.State.Frame
import OneSided.Proofs.State.Reading
import OneSided.Proofs.Contact.Observation
import OneSided.Proofs.State.Switching
import OneSided.Proofs.State.Validity
import OneSided.Proofs.Assembly.Construction
import OneSided.Proofs.Assembly.Growth
import OneSided.Proofs.Assembly.Compatibility
import OneSided.Proofs.Assembly.Atomicity
import OneSided.Proofs.Assembly.Shares
import OneSided.Proofs.Assembly.Bounds
import OneSided.Proofs.Assembly.Answers
import OneSided.Proofs.Scalar.Order
import OneSided.Proofs.Calibration.Validity
import OneSided.Proofs.Contact.Condition
import OneSided.Proofs.Assembly.Proximal
import OneSided.Proofs.State.Reordering
import OneSided.Proofs.Calibration.Plastic
import OneSided.Proofs.Calibration.Monotonicity
import OneSided.Proofs.Contact.Parameters
import OneSided.Proofs.Document.Return
import OneSided.Proofs.Document.Reload
import OneSided.Proofs.Drive.Regime
import OneSided.Proofs.Contact.Mirror
import OneSided.Proofs.Plane.Drift
import OneSided.Proofs.State.Anchor
import OneSided.Proofs.Drive.Torque
import OneSided.Proofs.Friction.Limit
import OneSided.Proofs.Plane.Frame
import OneSided.Proofs.State.Failure
import OneSided.Proofs.Space.Transport
import OneSided.Proofs.State.Stray
import OneSided.Proofs.Assembly.Registration
