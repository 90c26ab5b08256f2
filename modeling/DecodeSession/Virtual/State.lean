import DecodeSession.Device.Driver

/-! The in-memory device.

It keeps a table of every handle it gave out and has not got back, so nothing can leak
or be closed twice unseen, and it remembers the calls that matter for negotiating and
queueing. Requests complete as soon as they are queued, unless completion is held back.
What it is told from outside, failures to inject and settings of the driver, is part
of its state. -/
namespace DecodeSession.Virtual

/-- A buffer as it was queued. -/
structure Record where
  index : UInt32
  frameId : UInt32
  bytesUsed : List UInt32
  request : Option Handle
  deriving DecidableEq, Repr

/-- A batch of controls that was applied, or stored in a request. -/
structure Batch where
  request : Option Handle
  controls : List Control
  deriving DecidableEq, Repr

/-- The failures injected. -/
structure Failures where
  openMedia : Option Errno := none
  openVideo : Option Errno := none
  streamOn : PerQueue (Option Errno) := .both none
  streamOff : Option Errno := none
  enumFormat : Option Errno := none
  setFormat : Option Errno := none
  requestBuffers : Option Errno := none
  /-- The plane that cannot be exported. -/
  exportPlane : Option UInt32 := none
  queueBuffer : Option Errno := none
  /-- The controls that are rejected. -/
  controls : List UInt32 := []
  allocRequest : Option Errno := none
  reinitRequest : Option Errno := none
  wait : Option Errno := none
  deriving DecidableEq, Repr

namespace Failures

def openNode (f : Failures) : Node → Option Errno
  | .media => f.openMedia
  | .video => f.openVideo

end Failures

structure State where
  failures : Failures
  /-- The number of the next handle, from 3 on. Handles are signed 32-bit numbers: the model
  holds while at most 2 ^ 31 - 4 are given out, and the next one overflows the counter. -/
  nextHandle : Nat
  /-- The handles given out and not yet got back. -/
  table : List (Handle × Role)
  /-- The roles of the handles got back. -/
  closed : List Role
  /-- How the video node was opened last. -/
  nonblocking : Bool
  streaming : PerQueue Bool
  streamOnCalls : List Queue
  /-- The formats listed on each queue. -/
  formats : PerQueue (List Fourcc)
  /-- The format selected on each queue. -/
  current : PerQueue PixFormat
  maxInputWidth : UInt32
  maxInputHeight : UInt32
  setFormatCalls : PerQueue (List Fourcc)
  /-- How many buffers can be allocated on each queue, if that is limited. -/
  bufferLimits : PerQueue (Option UInt32)
  bufferCounts : PerQueue UInt32
  queryCalls : List (Queue × UInt32)
  /-- Every buffer queued so far. -/
  queued : PerQueue (List Record)
  /-- The buffers the driver holds, the next one to look at first. -/
  inFlight : PerQueue (List Record)
  /-- Every buffer given back so far. -/
  delivered : PerQueue (List Record)
  /-- Whether the next picture is flagged as damaged. -/
  flagNextOutput : Bool
  /-- The values controls currently have, one entry for each control ever applied. -/
  controls : List Control
  batches : List Batch
  allocatedRequests : Nat
  queuedRequests : Nat
  /-- The requests queued and not made ready again. -/
  executing : List Handle
  reinitCalls : Nat
  /-- Whether requests are kept from completing. -/
  holdCompletion : Bool
  deriving DecidableEq

/-- The size of every coded buffer. -/
def codedBufferSize : UInt32 := 1048576

/-- A coded format: one plane of a fixed size. -/
def codedFormat (code : Fourcc) (width height : UInt32) : PixFormat :=
  ⟨code, width, height, [⟨0, codedBufferSize⟩]⟩

/-- A picture format: luma and half as much chroma, in two planes for the formats that keep
them apart and in one for all others. -/
def pictureFormat (code : Fourcc) (width height : UInt32) : Except Fault PixFormat := do
  let planes ←
    if code = .nv12Split then do
      let luma ← Checked.mul32 width height
      pure [⟨width, luma⟩, ⟨width, luma / 2⟩]
    else if code = .mm21 then do
      let luma ← Checked.mul32 width (← Checked.roundUp32 height 32)
      pure [⟨width, luma⟩, ⟨width, luma / 2⟩]
    else do
      let total ← Checked.mul32 (← Checked.mul32 width height) 3
      pure [⟨width, total / 2⟩]
  return ⟨code, width, height, planes⟩

/-- A device nobody has touched. -/
def State.fresh : State where
  failures := {}
  nextHandle := 3
  table := []
  closed := []
  nonblocking := false
  streaming := .both false
  streamOnCalls := []
  formats := ⟨[.h264Slice, .hevcSlice, .vp9Frame], [.nv12, .nv12Split, .mm21]⟩
  current := ⟨codedFormat .h264Slice 1920 1080, ⟨.nv12, 1920, 1080, [⟨1920, 3110400⟩]⟩⟩
  maxInputWidth := 4096
  maxInputHeight := 2304
  setFormatCalls := .both []
  bufferLimits := .both none
  bufferCounts := .both 0
  queryCalls := []
  queued := .both []
  inFlight := .both []
  delivered := .both []
  flagNextOutput := false
  controls := []
  batches := []
  allocatedRequests := 0
  queuedRequests := 0
  executing := []
  reinitCalls := 0
  holdCompletion := false

/-- The picture format of a fresh device is the one computed for its code and size. -/
theorem State.fresh_current_output :
    pictureFormat .nv12 1920 1080 = .ok State.fresh.current.output := rfl

namespace State

/-- How many handles of a role are open. -/
def openCount (s : State) (role : Role) : Nat := s.table.countP (·.2 = role)

/-- How many handles of a role were got back. -/
def closedCount (s : State) (role : Role) : Nat := s.closed.count role

/-- Whether a request has completed. -/
def isComplete (s : State) (request : Handle) : Bool :=
  !s.holdCompletion && s.executing.contains request

/-- Whether the driver can give a buffer back: one bound to a request once that has completed,
any other at once. -/
def isReady (s : State) (record : Record) : Bool :=
  record.request.all s.isComplete

def currentControl? (s : State) (id : UInt32) : Option Control := s.controls.find? (·.id = id)

end State

end DecodeSession.Virtual
