import SalienceGate.Lib.Checked
import SalienceGate.Lib.Dict
import SalienceGate.Lib.Replay
import SalienceGate.Lib.Revisions
import SalienceGate.Lib.Tiling
import SalienceGate.Lib.Allotment
import SalienceGate.Lib.Json
import SalienceGate.Lib.Hex
import SalienceGate.Domain.Enums
import SalienceGate.Domain.Primitives
import SalienceGate.Domain.Evidence
import SalienceGate.Domain.Ids
import SalienceGate.Domain.Records
import SalienceGate.Domain.Cycles
import SalienceGate.Intervention.Claims
import SalienceGate.Intervention.Rendering
import SalienceGate.Intervention.Grounding
import SalienceGate.Intervention.ReceiptReplay
import SalienceGate.Ports.Ledger
import SalienceGate.Projector.Projection
import SalienceGate.Projector.Memory
import SalienceGate.Projector.Cycle
import SalienceGate.Projector.Apply
import SalienceGate.Projector.Accepted
import SalienceGate.Projector.Budget
import SalienceGate.Projector.MemoryBank
import SalienceGate.Projector.Cursor
import SalienceGate.Projector.Deliveries
import SalienceGate.Projector.Spacing
import SalienceGate.Projector.Bounded
import SalienceGate.Repository.ConditionalBatch
import SalienceGate.Repository.Reminders
import SalienceGate.Repository.Resubmitted
import SalienceGate.Repository.SqliteRefines
import SalienceGate.Runtime.Races
import SalienceGate.Runtime.TraceRuns
import SalienceGate.Capture.SpoolIntegrity
import SalienceGate.Capture.StoreFreezes
import SalienceGate.Capture.StoreDeletion
import SalienceGate.Capture.CalibrationDocuments
import SalienceGate.Runtime.Scheduling
import SalienceGate.Signals.Windows
import SalienceGate.Signals.Identities
import SalienceGate.Signals.Repetition
import SalienceGate.Runtime.BatchBuild
import SalienceGate.Bridge.Gaps
import SalienceGate.Bridge.PiGaps
import SalienceGate.Bridge.PiRuns
import SalienceGate.Bridge.Coverage
import SalienceGate.Shadow.AtifSource
import SalienceGate.Capture.BoundsWalk
import SalienceGate.Capture.IntakeDocuments
import SalienceGate.Intervention.Verification
import SalienceGate.Capture.StoreOnce
import SalienceGate.Intervention.Quoting
