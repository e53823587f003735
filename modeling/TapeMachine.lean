import TapeMachine.Main
import TapeMachine.Program.Shown
import TapeMachine.Proofs.CommandLine.Footprint
import TapeMachine.Proofs.CommandLine.Storing
import TapeMachine.Proofs.CommandLine.Truncation
import TapeMachine.Proofs.CommandLine.Verdict
import TapeMachine.Proofs.Machine.Locality
import TapeMachine.Proofs.Machine.Partners
import TapeMachine.Proofs.Machine.Progress
import TapeMachine.Proofs.Machine.Retries
import TapeMachine.Proofs.Machine.Sequence
import TapeMachine.Proofs.Machine.StraightLine
import TapeMachine.Proofs.Machine.Translation
import TapeMachine.Proofs.Program.Messages
import TapeMachine.Proofs.Session.Accounts
import TapeMachine.Proofs.Session.Boundaries
import TapeMachine.Proofs.Session.Bounds
import TapeMachine.Proofs.Session.Locality
import TapeMachine.Proofs.Session.LogFile
import TapeMachine.Proofs.Session.Searching
import TapeMachine.Proofs.Source.Canonical
import TapeMachine.Proofs.Source.Decoding
import TapeMachine.Proofs.Structured.Simulation
