import BufferCoherence.Journal.Journal

/-!
# The device interface

What a device offers to the buffers on it. A device is a state `δ` with the operations of
`Device`: creating and destroying objects, copying runs of bytes, mapping, and the notices
of hazards. Two rules shape the interface:

* a host destination is handed in as its content and handed back as its content afterwards
  (`TransferReply.host`), also where the transfer failed half way;
* a mapping is a position inside the storage of an object. Storage starts at an address that every
  alignment in use divides, so that the position alone decides whether a mapping is aligned.

Host memory is had from the machine that the device is on, and it may run out as well:
`Device.hostLends` says what is still to be had.
-/

namespace BufferCoherence

/-! ## 1. Transfers -/

/-- Where a transfer reads; ranges count from the start of the slice or from the offset. -/
inductive TransferSource where
  | host (data : ByteArray)
  | object (handle : ObjectHandle) (offset : Nat)

/-- Where a transfer writes; ranges count from the start of the slice or from the offset. -/
inductive TransferTarget where
  | host (data : ByteArray)
  | object (handle : ObjectHandle) (offset : Nat)

namespace TransferTarget

/-- The host bytes of a target, none for an object. -/
def hostBytes : TransferTarget → ByteArray
  | host data => data
  | object _ _ => ByteArray.empty

end TransferTarget

/-- What a transfer answers: the host destination as it is afterwards, and whether it failed. -/
structure TransferReply where
  host : ByteArray
  outcome : Except Failure Unit

/-! ## 2. Devices -/

/-- What host memory is asked for. -/
inductive HostUse where
  /-- The shadow of a buffer. -/
  | shadow
  /-- A copy to convert vertices in. -/
  | scratch
deriving DecidableEq

/-- The operations of a device with states in `δ`. -/
class Device (δ : Type) where
  /-- What the device can do. -/
  caps : δ → Capabilities
  /-- The handle names an object. -/
  live : δ → ObjectHandle → Bool
  /-- A new object. -/
  makeObject : ObjectRequest → Attempt δ Placement
  /-- An object given up. -/
  freeObject : ObjectHandle → Step δ Unit
  /-- The bytes of each range copied. -/
  transfer : TransferTarget → TransferSource → List ByteRange → MapFlags → Step δ TransferReply
  /-- A part of an object mapped; the answer is the position of its first byte in the storage. -/
  openMapping : ObjectHandle → (offset size : Nat) → MapFlags → Attempt δ Nat
  /-- An object unmapped; the ranges are what the host wrote. -/
  closeMapping : ObjectHandle → List ByteRange → Step δ Unit
  /-- A barrier recorded. -/
  recordBarrier : Barrier → Step δ Unit
  /-- The object is the one being captured into. -/
  captureActive : δ → ObjectHandle → Bool
  /-- The capture ended. -/
  endCapture : Step δ Unit
  /-- The bytes of a mapped object from a position on; none for an object that is gone. -/
  peek : δ → ObjectHandle → (position size : Nat) → ByteArray
  /-- Bytes written through a mapping. -/
  poke : ObjectHandle → (position : Nat) → ByteArray → δ → δ
  /-- The host has so many bytes to lend. -/
  hostLends : δ → HostUse → (size : Nat) → Bool := fun _ _ _ => true

/-- Host memory does not run out. -/
class LendsFreely (δ : Type) [Device δ] : Prop where
  lends (d : δ) (use : HostUse) (size : Nat) : Device.hostLends d use size = true

end BufferCoherence
