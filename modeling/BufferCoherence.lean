import BufferCoherence.Bytes.Hex
import BufferCoherence.Device.Memory
import BufferCoherence.Journal.Console
import BufferCoherence.Proofs.Aliasing
import BufferCoherence.Proofs.Attendance
import BufferCoherence.Proofs.Bounds
import BufferCoherence.Proofs.Colors
import BufferCoherence.Proofs.Counters
import BufferCoherence.Proofs.Depots
import BufferCoherence.Proofs.Descriptor
import BufferCoherence.Proofs.Extents
import BufferCoherence.Proofs.Fleet
import BufferCoherence.Proofs.Grants
import BufferCoherence.Proofs.Growth
import BufferCoherence.Proofs.Hazards
import BufferCoherence.Proofs.Isolation
import BufferCoherence.Proofs.Marking
import BufferCoherence.Proofs.Provisions
import BufferCoherence.Proofs.Reconversion
import BufferCoherence.Proofs.Recording
import BufferCoherence.Proofs.Rehearsal
import BufferCoherence.Proofs.Renaming
import BufferCoherence.Proofs.Repetition
import BufferCoherence.Proofs.Residency
import BufferCoherence.Proofs.Rollback
import BufferCoherence.Proofs.Sessions
import BufferCoherence.Proofs.Setbacks
import BufferCoherence.Proofs.Streams
import BufferCoherence.Proofs.Strides
import BufferCoherence.Proofs.Tenancy
import BufferCoherence.Proofs.Traffic
import BufferCoherence.Proofs.Views
import BufferCoherence.Proofs.Walk
import BufferCoherence.Proofs.Watched
import BufferCoherence.Vulkan.Device
import BufferCoherence.Workspace
