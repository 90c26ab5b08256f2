import DecodeSession.Device.Call
import DecodeSession.Fault

/-! The structures the kernel interface passes.

A multi-planar format has room for eight planes and says how many of them count; a
buffer refers to a list of planes and says how many there are. Whatever the kernel says,
at most the eight planes that exist are read. A frame id travels in a buffer's
timestamp: the kernel keeps that as a count of nanoseconds, so whole seconds go into
the seconds and the rest, below one second, into the microseconds. -/
namespace DecodeSession.Kernel

/-- How many memory planes a format or a buffer can have. -/
def maxPlanes : Nat := 8

/-- The number of a queue's buffer type. -/
def bufferType : Queue → UInt32
  | .input => 10
  | .output => 9

/-- The number of memory that the driver allocates and the caller maps. -/
def mappedMemory : UInt32 := 1

/-- The flag of a buffer that is bound to a request. -/
def requestFlag : UInt32 := 0x800000

/-! ### Formats -/

structure RawFormat where
  bufferType : UInt32
  pixelFormat : UInt32
  width : UInt32
  height : UInt32
  planeCount : UInt8
  planes : Vector PlaneFormat maxPlanes
  deriving DecidableEq

namespace RawFormat

/-- All zero but for the type of the queue. -/
def blank (queue : Queue) : RawFormat :=
  ⟨Kernel.bufferType queue, 0, 0, 0, 0, Vector.replicate maxPlanes ⟨0, 0⟩⟩

/-- A format as it is passed. Planes past the eighth are left out. -/
def ofPixFormat (queue : Queue) (pix : PixFormat) : RawFormat where
  bufferType := Kernel.bufferType queue
  pixelFormat := pix.pixelFormat.code
  width := pix.width
  height := pix.height
  planeCount := (min pix.planes.length maxPlanes).toUInt8
  planes := Vector.ofFn fun i => pix.planes[i.val]?.getD ⟨0, 0⟩

/-- A format as it is read, with as many planes as it counts and has. -/
def toPixFormat (raw : RawFormat) : PixFormat where
  pixelFormat := ⟨raw.pixelFormat⟩
  width := raw.width
  height := raw.height
  planes := raw.planes.toList.take (min raw.planeCount.toNat maxPlanes)

end RawFormat

structure RawDescription where
  index : UInt32
  bufferType : UInt32
  pixelFormat : UInt32
  /-- The description's bytes, ended by a zero byte if there is room for one. -/
  description : List UInt8
  deriving DecidableEq

/-! ### Buffers -/

structure RawPlane where
  length : UInt32
  bytesUsed : UInt32
  dataOffset : UInt32
  deriving DecidableEq, Inhabited

structure RawBuffer where
  index : UInt32
  bufferType : UInt32
  memory : UInt32
  flags : UInt32
  seconds : Int64
  microseconds : Int64
  /-- The request the buffer is bound to, if its flags say so. -/
  request : Handle
  /-- How many planes the buffer has. -/
  planeCount : UInt32
  planes : List RawPlane
  deriving DecidableEq

namespace RawBuffer

/-- A buffer with nothing said of it but its place and its planes. -/
def blank (queue : Queue) (index : UInt32) (planes : List RawPlane) : RawBuffer :=
  ⟨index, Kernel.bufferType queue, mappedMemory, 0, 0, 0, ⟨0⟩, planes.length.toUInt32, planes⟩

/-- Room for the planes of a buffer that the kernel fills in. -/
def room (queue : Queue) (index : UInt32) : RawBuffer :=
  blank queue index (List.replicate maxPlanes ⟨0, 0, 0⟩)

/-- The planes that the buffer counts and has. -/
def filledPlanes (raw : RawBuffer) : List RawPlane :=
  raw.planes.take (min raw.planeCount.toNat maxPlanes)

/-- Puts a frame id into the timestamp. -/
def withFrameId (raw : RawBuffer) (frameId : UInt32) : RawBuffer :=
  {raw with
    seconds := Int64.ofNat (frameId / 1000000).toNat
    microseconds := Int64.ofNat (frameId % 1000000).toNat}

/-- The frame id in the timestamp: its microseconds, of which the low 32 bits count. -/
def frameId (raw : RawBuffer) : Except Fault UInt32 := do
  let whole ← Checked.mul64 raw.seconds.toUInt64 1000000
  let all ← Checked.add64 whole raw.microseconds.toUInt64
  return all.toUInt32

/-- A submission as it is passed. -/
def ofSubmission (b : Submission) : RawBuffer :=
  let planes := b.bytesUsed.map fun used => ⟨0, used, 0⟩
  let raw := (blank b.queue b.index planes).withFrameId b.frameId
  match b.request with
  | some request => {raw with flags := requestFlag, request := request}
  | none => raw

/-- A buffer as it is given back. -/
def toDequeued (raw : RawBuffer) : Except Fault DequeuedBuffer := do
  return ⟨raw.index, ← raw.frameId, raw.filledPlanes.map (·.bytesUsed), raw.flags⟩

end RawBuffer

structure RawAllocation where
  count : UInt32
  bufferType : UInt32
  memory : UInt32
  deriving DecidableEq

structure RawExport where
  bufferType : UInt32
  index : UInt32
  plane : UInt32
  flags : UInt32
  deriving DecidableEq

/-! ### Controls -/

structure RawControl where
  id : UInt32
  /-- The size of a compound control's payload, and zero for any other. -/
  size : UInt32
  value : ControlValue
  deriving DecidableEq

def RawControl.ofControl (c : Control) : RawControl :=
  match c.value with
  | .compound bytes => ⟨c.id, bytes.length.toUInt32, c.value⟩
  | _ => ⟨c.id, 0, c.value⟩

structure RawControls where
  /-- Whether the controls are for now or for a request. -/
  which : UInt32
  request : Handle
  controls : List RawControl
  deriving DecidableEq

namespace RawControls

/-- Controls that apply at once. -/
def currentValues : UInt32 := 0

/-- Controls that apply when their request executes. -/
def requestValues : UInt32 := 0xF010000

def ofControls (request : Option Handle) (controls : List Control) : RawControls :=
  match request with
  | some request => ⟨requestValues, request, controls.map .ofControl⟩
  | none => ⟨currentValues, ⟨0⟩, controls.map .ofControl⟩

end RawControls

end DecodeSession.Kernel
