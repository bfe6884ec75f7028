import H2Proofs.Utilities.Strings
import H2Proofs.Utilities.Headers
import H2Proofs.Utilities.Generators
import H2Proofs.Utilities.Validation
import H2Proofs.Utilities.Pipeline
import H2Proofs.Utilities.Attribution
import H2Proofs.Utilities.Acceptance
import H2Proofs.Utilities.Normalization
import H2Proofs.Utilities.Encoding
import H2Proofs.Utilities.Extractors
import H2Proofs.Utilities.FlowControl
import H2Proofs.Connection.StateMachine
import H2Proofs.Connection.Runs
import H2Proofs.Connection.Peers
import H2Proofs.Connection.Facade
