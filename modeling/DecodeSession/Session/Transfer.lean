import DecodeSession.Session.Basic

/-! Buffers and controls: what passes between a session and its driver.

Buffers are allocated by the driver and exported plane by plane, all planes or none.
A coded buffer is queued bound to a request; a picture buffer is queued whole and
bound to none. -/
namespace DecodeSession

/-- One memory plane of an exported buffer. -/
structure ExportedPlane where
  handle : Handle
  size : UInt64
  offset : UInt64
  deriving DecidableEq, Repr

/-- A buffer of the driver whose planes have been exported. -/
structure ExportedBuffer where
  queue : Queue
  index : UInt32
  planes : List ExportedPlane
  deriving DecidableEq, Repr

namespace ExportedBuffer

def handles (b : ExportedBuffer) : List Handle := b.planes.map (·.handle)

/-- The bytes of each plane, all in use. -/
def fullPlanes (b : ExportedBuffer) : List UInt32 := b.planes.map (·.size.toUInt32)

/-- Fails unless the buffer belongs to the queue. -/
def expectQueue {σ : Type} (b : ExportedBuffer) (expected : Queue) : Operation σ Unit :=
  if b.queue = expected then return ()
  else throw (.wrongQueue b.index expected b.queue)

end ExportedBuffer

namespace Session
variable {σ : Type} (d : Driver σ) (s : Session)

/-! ### Allocation and export -/

/-- Asks the driver for buffers. It may allocate fewer, but none only if none are asked for. -/
def requestBuffers (queue : Queue) (count : UInt32) : Operation σ UInt32 := do
  d.log (.buffersRequested count queue)
  let allocated : UInt32 ← d.attempt (.requestBuffers (← s.video) queue count)
  if 0 < count ∧ allocated = 0 then
    d.log (.noBuffersAllocated queue)
    throw (.noBuffersAllocated queue)
  return allocated

/-- Frees the buffers of a queue. Exported planes stay valid until they are given back. -/
def releaseBuffers (queue : Queue) : Operation σ Unit := do
  discard (s.requestBuffers d queue 0)

/-- Exports the planes that are left, after those already exported. A plane that fails takes the
earlier ones with it. -/
def exportPlanes (video : Handle) (queue : Queue) (index : UInt32) :
    List ExportedPlane → List PlaneLayout → Operation σ (List ExportedPlane)
  | done, [] => return done
  | done, layout :: rest => do
    match ← d.call (.exportBuffer video queue index done.length.toUInt32) with
    | .ok handle =>
      exportPlanes video queue index
        (done ++ [⟨handle, layout.length.toUInt64, layout.dataOffset.toUInt64⟩]) rest
    | .error errno =>
      if !done.isEmpty then d.log (.exportAbandoned done.length queue index)
      d.log (.callFailed Method.exportBuffer.label errno)
      d.releaseAll (done.map (·.handle))
      throw (.callFailed Method.exportBuffer.label errno)

/-- Exports every plane of a buffer. -/
def exportBuffer (queue : Queue) (index : UInt32) : Operation σ ExportedBuffer := do
  let video ← s.video
  let layouts ← d.attempt (.queryBuffer video queue index)
  return ⟨queue, index, ← exportPlanes d video queue index [] layouts⟩

/-! ### Queueing and dequeueing -/

/-- Queues a coded buffer bound to a request. -/
def enqueueInput (request : Handle) (buffer : ExportedBuffer) (frameId bytesUsed : UInt32) :
    Operation σ Unit := do
  buffer.expectQueue .input
  d.attempt (.queueBuffer (← s.video) ⟨.input, buffer.index, frameId, [bytesUsed], some request⟩)

/-- Queues a picture buffer to be decoded into, every plane whole. -/
def enqueueOutput (buffer : ExportedBuffer) (frameId : UInt32) : Operation σ Unit := do
  buffer.expectQueue .output
  d.attempt (.queueBuffer (← s.video) ⟨.output, buffer.index, frameId, buffer.fullPlanes, none⟩)

/-- The next completed buffer of a queue. -/
def dequeue (queue : Queue) : Operation σ DequeuedBuffer := do
  match ← d.call (.dequeueBuffer (← s.video) queue) with
  | .ok buffer =>
    d.log (.bufferDequeued queue buffer.index buffer.frameId)
    return buffer
  | .error .eagain =>
    d.log (.nothingCompleted queue)
    throw (.notReady queue)
  | .error errno =>
    d.log (.callFailed Method.dequeueBuffer.label errno)
    throw (.callFailed Method.dequeueBuffer.label errno)

/-! ### Controls -/

/-- Applies controls as one batch, at once or when a request executes. -/
def setControls (request : Option Handle) (controls : List Control) : Operation σ Unit := do
  d.attempt (.setControls (← s.video) request controls)

end Session

end DecodeSession
