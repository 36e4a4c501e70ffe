import DifferentialDrive.Fault.Message
import DifferentialDrive.Binary64.Scalar
import DifferentialDrive.Config.Report
import DifferentialDrive.Decimal.Read
import DifferentialDrive.Simulation
import DifferentialDrive.Timeline
import DifferentialDrive.Client
import DifferentialDrive.Health
import DifferentialDrive.Session
import DifferentialDrive.Log
import DifferentialDrive.Script
import DifferentialDrive.Main
import DifferentialDrive.Proofs.ModeLatch
import DifferentialDrive.Proofs.Framing
import DifferentialDrive.Proofs.Batching
import DifferentialDrive.Proofs.EmergencyStop
import DifferentialDrive.Proofs.Arrival
import DifferentialDrive.Proofs.Legs
import DifferentialDrive.Proofs.Readings
import DifferentialDrive.Proofs.Rest
import DifferentialDrive.Proofs.Watch
import DifferentialDrive.Proofs.Replies
import DifferentialDrive.Proofs.Ranges
import DifferentialDrive.Proofs.Odometer
import DifferentialDrive.Proofs.Hold
import DifferentialDrive.Proofs.StraightDrive
import DifferentialDrive.Proofs.ReplyStreams
import DifferentialDrive.Proofs.Resynchronisation
import DifferentialDrive.Proofs.Clock
import DifferentialDrive.Proofs.Trace
import DifferentialDrive.Proofs.Intake
import DifferentialDrive.Proofs.Refusals
import DifferentialDrive.Proofs.Transports
import DifferentialDrive.Proofs.ReplyRoutes
import DifferentialDrive.Proofs.ReadBack
import DifferentialDrive.Proofs.Clients
import DifferentialDrive.Proofs.Binary64.Reach
import DifferentialDrive.Proofs.Keepalives
import DifferentialDrive.Proofs.Calls
import DifferentialDrive.Proofs.Cursor
import DifferentialDrive.Proofs.EndlessHolds
import DifferentialDrive.Proofs.RefusedMoves
import DifferentialDrive.Proofs.Maneuvers
import DifferentialDrive.Proofs.Overlap
import DifferentialDrive.Proofs.Border
import DifferentialDrive.Proofs.Shutdown
