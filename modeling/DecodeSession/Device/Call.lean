import DecodeSession.Errno
import DecodeSession.Fourcc
import DecodeSession.Handle

/-! The calls a session makes on its device.

A call is a value, and so is its answer: the method of a call says what type a
successful answer has, and a failed call answers with an error code. A device is then
anything that answers calls, and what a session did is the list of its calls. -/
namespace DecodeSession

/-- The two queues of a decoder: coded data goes in, pictures come out. -/
inductive Queue where
  | input
  | output
  deriving DecidableEq, Repr

namespace Queue

def name : Queue → String
  | input => "input"
  | output => "output"

end Queue

/-- One value for each queue. -/
structure PerQueue (α : Type) where
  input : α
  output : α
  deriving DecidableEq, Repr

namespace PerQueue
variable {α : Type}

/-- The same value for both queues. -/
def both (a : α) : PerQueue α := ⟨a, a⟩

def get (v : PerQueue α) : Queue → α
  | .input => v.input
  | .output => v.output

def set (v : PerQueue α) : Queue → α → PerQueue α
  | .input, a => {v with input := a}
  | .output, a => {v with output := a}

def modify (v : PerQueue α) (queue : Queue) (f : α → α) : PerQueue α :=
  v.set queue (f (v.get queue))

end PerQueue

/-! ### What is passed -/

/-- One memory plane of a pixel format. -/
structure PlaneFormat where
  bytesPerLine : UInt32
  imageSize : UInt32
  deriving DecidableEq, Repr, Inhabited

/-- A multi-planar pixel format, as far as a session negotiates it. -/
structure PixFormat where
  pixelFormat : Fourcc
  width : UInt32
  height : UInt32
  planes : List PlaneFormat
  deriving DecidableEq, Repr, Inhabited

/-- A format a driver lists. -/
structure FormatDescription where
  pixelFormat : Fourcc
  description : String
  deriving DecidableEq, Repr

/-- Where one memory plane of an allocated buffer lies. -/
structure PlaneLayout where
  length : UInt32
  dataOffset : UInt32
  deriving DecidableEq, Repr

/-- A buffer as it is handed to the driver. -/
structure Submission where
  queue : Queue
  index : UInt32
  /-- Carried with the buffer and given back unchanged. -/
  frameId : UInt32
  /-- The bytes in use, one number for each memory plane. -/
  bytesUsed : List UInt32
  /-- The request the buffer is bound to, if any. -/
  request : Option Handle
  deriving DecidableEq, Repr

/-- A buffer as the driver gives it back. -/
structure DequeuedBuffer where
  index : UInt32
  frameId : UInt32
  bytesUsed : List UInt32
  flags : UInt32
  deriving DecidableEq, Repr

namespace DequeuedBuffer

/-- The flag of a buffer whose content is damaged. -/
def errorFlag : UInt32 := 0x40

def isError (b : DequeuedBuffer) : Bool := b.flags &&& errorFlag != 0

end DequeuedBuffer

/-- What a control is set to. -/
inductive ControlValue where
  | int32 (value : Int32)
  | int64 (value : Int64)
  /-- The raw bytes of a compound control. -/
  | compound (bytes : List UInt8)
  deriving DecidableEq, Repr

structure Control where
  id : UInt32
  value : ControlValue
  deriving DecidableEq, Repr

/-! ### Calls and their answers -/

inductive Method where
  | openNode | streamOn | streamOff | enumFormat | getFormat | setFormat | requestBuffers
  | queryBuffer | exportBuffer | queueBuffer | dequeueBuffer | setControls | allocRequest
  | queueRequest | reinitRequest | watchRequest | wait
  deriving DecidableEq, Repr

/-- What a successful call of a method answers. -/
abbrev Method.Reply : Method → Type
  | .openNode | .exportBuffer | .allocRequest => Handle
  | .watchRequest => Waiter
  | .enumFormat => FormatDescription
  | .getFormat | .setFormat => PixFormat
  | .requestBuffers => UInt32
  | .queryBuffer => List PlaneLayout
  | .dequeueBuffer => DequeuedBuffer
  | .wait => Bool
  | .streamOn | .streamOff | .queueBuffer | .setControls | .queueRequest | .reinitRequest => Unit

/-- What a method is named in errors and log lines. -/
def Method.label : Method → String
  | .openNode => "open"
  | .streamOn => "VIDIOC_STREAMON"
  | .streamOff => "VIDIOC_STREAMOFF"
  | .enumFormat => "VIDIOC_ENUM_FMT"
  | .getFormat => "VIDIOC_G_FMT"
  | .setFormat => "VIDIOC_S_FMT"
  | .requestBuffers => "VIDIOC_REQBUFS"
  | .queryBuffer => "VIDIOC_QUERYBUF"
  | .exportBuffer => "VIDIOC_EXPBUF"
  | .queueBuffer => "VIDIOC_QBUF"
  | .dequeueBuffer => "VIDIOC_DQBUF"
  | .setControls => "VIDIOC_S_EXT_CTRLS"
  | .allocRequest => "MEDIA_IOC_REQUEST_ALLOC"
  | .queueRequest => "MEDIA_REQUEST_IOC_QUEUE"
  | .reinitRequest => "MEDIA_REQUEST_IOC_REINIT"
  | .watchRequest => "request wait handle creation"
  | .wait => "request poll"

inductive Call where
  | openNode (path : String) (node : Node) (nonblocking : Bool)
  | streamOn (video : Handle) (queue : Queue)
  | streamOff (video : Handle) (queue : Queue)
  /-- The format at a place in the driver's list; `einval` past its end. -/
  | enumFormat (video : Handle) (queue : Queue) (index : UInt32)
  | getFormat (video : Handle) (queue : Queue)
  /-- Answers the format the driver applied, which may be another one. -/
  | setFormat (video : Handle) (queue : Queue) (format : PixFormat)
  /-- Answers how many buffers the driver allocated. -/
  | requestBuffers (video : Handle) (queue : Queue) (count : UInt32)
  | queryBuffer (video : Handle) (queue : Queue) (index : UInt32)
  | exportBuffer (video : Handle) (queue : Queue) (index : UInt32) (plane : UInt32)
  | queueBuffer (video : Handle) (submission : Submission)
  /-- The next completed buffer; `eagain` if there is none and the node does not block. -/
  | dequeueBuffer (video : Handle) (queue : Queue)
  /-- Applies the whole batch or nothing, at once or when the request executes. -/
  | setControls (video : Handle) (request : Option Handle) (controls : List Control)
  | allocRequest (media : Handle)
  | queueRequest (request : Handle)
  | reinitRequest (request : Handle)
  | watchRequest (request : Handle)
  /-- Whether the watched request completed before the timeout, in milliseconds. Without a
  timeout the wait is for ever. -/
  | wait (waiter : Waiter) (timeout : Option Nat)
  deriving DecidableEq, Repr

namespace Call

def method : Call → Method
  | openNode .. => .openNode
  | streamOn .. => .streamOn
  | streamOff .. => .streamOff
  | enumFormat .. => .enumFormat
  | getFormat .. => .getFormat
  | setFormat .. => .setFormat
  | requestBuffers .. => .requestBuffers
  | queryBuffer .. => .queryBuffer
  | exportBuffer .. => .exportBuffer
  | queueBuffer .. => .queueBuffer
  | dequeueBuffer .. => .dequeueBuffer
  | setControls .. => .setControls
  | allocRequest .. => .allocRequest
  | queueRequest .. => .queueRequest
  | reinitRequest .. => .reinitRequest
  | watchRequest .. => .watchRequest
  | wait .. => .wait

abbrev Reply (c : Call) : Type := c.method.Reply

def label (c : Call) : String := c.method.label

end Call

end DecodeSession
