import Coprocessor.CommandLine.FileTree
import Coprocessor.Declare.CodecCode
import Coprocessor.Declare.ErrorCode
import Coprocessor.Declare.Filling
import Coprocessor.Main
import Coprocessor.Proofs.Device.Consistency
import Coprocessor.Proofs.Device.Execution
import Coprocessor.Proofs.Device.LongNoise
import Coprocessor.Proofs.Host.Uploads
import Coprocessor.Proofs.Link.Window
import Coprocessor.Proofs.Tune.Performance
import Coprocessor.Wire.Format
import Coprocessor.Proofs.Wire.Damage
import Coprocessor.Proofs.Device.Damage
import Coprocessor.Proofs.Wire.Formats
import Coprocessor.Proofs.Host.Requests
import Coprocessor.Proofs.Host.Queries
import Coprocessor.Proofs.Handoff.Flag
import Coprocessor.Proofs.Host.LateReplies
import Coprocessor.Proofs.Device.Renewal
import Coprocessor.Proofs.Device.Announcing
import Coprocessor.Proofs.Device.Envelope
import Coprocessor.Proofs.Device.Programming
import Coprocessor.Proofs.Script.Recasing
import Coprocessor.Proofs.Script.Recognition
import Coprocessor.Proofs.Device.Capacity
import Coprocessor.Proofs.Device.Callable
import Coprocessor.Proofs.Tune.Timing
import Coprocessor.Proofs.Tune.ByteForm
import Coprocessor.Proofs.Upload.Account
import Coprocessor.Proofs.Thumb.Confinement
import Coprocessor.Proofs.Thumb.Departure
import Coprocessor.Proofs.Handoff.Interruption
import Coprocessor.Proofs.Script.Joining
import Coprocessor.Proofs.Script.Operands
import Coprocessor.Proofs.Script.Registers
import Coprocessor.Proofs.Script.Forward
import Coprocessor.Proofs.Script.Shifting
import Coprocessor.Proofs.Device.Printing
import Coprocessor.Proofs.Host.Shortage
import Coprocessor.Proofs.Tune.Announced
import Coprocessor.Proofs.Thumb.Stacking
import Coprocessor.Proofs.Thumb.Shifts
import Coprocessor.Proofs.Script.Numerals
import Coprocessor.Proofs.Wire.Hashing
import Coprocessor.Proofs.Script.SharedText
