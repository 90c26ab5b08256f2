import DecodeSession.Kernel.Raw

/-! System calls, and kernels that answer them.

A kernel is to a kernel-backed driver what a driver is to a session: anything that
answers calls over a state of its own. A wait can be interrupted and is then made
again, so a kernel also bounds how often that can still happen. -/
namespace DecodeSession.Kernel

inductive Method where
  | openNode | streamOn | streamOff | enumFormat | getFormat | setFormat | requestBuffers
  | queryBuffer | exportBuffer | queueBuffer | dequeueBuffer | setControls | allocRequest
  | queueRequest | reinitRequest | epollCreate | epollControl | epollWait
  deriving DecidableEq, Repr

namespace Method

def name : Method → String
  | openNode => "open"
  | streamOn => "VIDIOC_STREAMON"
  | streamOff => "VIDIOC_STREAMOFF"
  | enumFormat => "VIDIOC_ENUM_FMT"
  | getFormat => "VIDIOC_G_FMT"
  | setFormat => "VIDIOC_S_FMT"
  | requestBuffers => "VIDIOC_REQBUFS"
  | queryBuffer => "VIDIOC_QUERYBUF"
  | exportBuffer => "VIDIOC_EXPBUF"
  | queueBuffer => "VIDIOC_QBUF"
  | dequeueBuffer => "VIDIOC_DQBUF"
  | setControls => "VIDIOC_S_EXT_CTRLS"
  | allocRequest => "MEDIA_IOC_REQUEST_ALLOC"
  | queueRequest => "MEDIA_REQUEST_IOC_QUEUE"
  | reinitRequest => "MEDIA_REQUEST_IOC_REINIT"
  | epollCreate => "epoll_create1"
  | epollControl => "epoll_ctl"
  | epollWait => "epoll_wait"

def all : List Method :=
  [openNode, streamOn, streamOff, enumFormat, getFormat, setFormat, requestBuffers, queryBuffer,
    exportBuffer, queueBuffer, dequeueBuffer, setControls, allocRequest, queueRequest,
    reinitRequest, epollCreate, epollControl, epollWait]

/-- What a successful call answers: a new handle, nothing, the structure passed as the kernel
left it, or how many events are ready. -/
abbrev Reply : Method → Type
  | openNode | exportBuffer | allocRequest | epollCreate => Handle
  | streamOn | streamOff | setControls | queueRequest | reinitRequest | epollControl => Unit
  | enumFormat => RawDescription
  | getFormat | setFormat => RawFormat
  | requestBuffers => RawAllocation
  | queryBuffer | queueBuffer | dequeueBuffer => RawBuffer
  | epollWait => Nat

end Method

inductive SystemCall where
  | openNode (path : String) (flags : UInt32)
  | streamOn (fd : Handle) (bufferType : UInt32)
  | streamOff (fd : Handle) (bufferType : UInt32)
  | enumFormat (fd : Handle) (description : RawDescription)
  | getFormat (fd : Handle) (format : RawFormat)
  | setFormat (fd : Handle) (format : RawFormat)
  | requestBuffers (fd : Handle) (allocation : RawAllocation)
  | queryBuffer (fd : Handle) (buffer : RawBuffer)
  | exportBuffer (fd : Handle) (plane : RawExport)
  | queueBuffer (fd : Handle) (buffer : RawBuffer)
  | dequeueBuffer (fd : Handle) (buffer : RawBuffer)
  | setControls (fd : Handle) (controls : RawControls)
  | allocRequest (fd : Handle)
  | queueRequest (fd : Handle)
  | reinitRequest (fd : Handle)
  | epollCreate (flags : UInt32)
  | epollControl (epoll : Handle) (operation : UInt32) (watched : Handle) (events : UInt32)
  /-- Waits for at most so many events and milliseconds; a negative timeout waits forever. -/
  | epollWait (epoll : Handle) (events : Nat) (timeout : Int)
  deriving DecidableEq

namespace SystemCall

def method : SystemCall → Method
  | openNode .. => .openNode
  | streamOn .. => .streamOn
  | streamOff .. => .streamOff
  | enumFormat .. => .enumFormat
  | getFormat .. => .getFormat
  | setFormat .. => .setFormat
  | requestBuffers .. => .requestBuffers
  | queryBuffer .. => .queryBuffer
  | exportBuffer .. => .exportBuffer
  | queueBuffer .. => .queueBuffer
  | dequeueBuffer .. => .dequeueBuffer
  | setControls .. => .setControls
  | allocRequest .. => .allocRequest
  | queueRequest .. => .queueRequest
  | reinitRequest .. => .reinitRequest
  | epollCreate .. => .epollCreate
  | epollControl .. => .epollControl
  | epollWait .. => .epollWait

abbrev Reply (c : SystemCall) : Type := c.method.Reply

end SystemCall

/-! ### The numbers passed -/

def readWrite : UInt32 := 2
def nonblocking : UInt32 := 2048
def closeOnExec : UInt32 := 524288
def epollAdd : UInt32 := 1
/-- A request signals completion as an exceptional condition. -/
def epollPriority : UInt32 := 2

end DecodeSession.Kernel

namespace DecodeSession

/-- What answers system calls. -/
structure Kernel (κ : Type) where
  serve : (c : Kernel.SystemCall) → κ → Except Errno c.Reply × κ
  close : Handle → κ → κ
  /-- How often waiting can still be interrupted. -/
  interrupts : κ → Nat
  interrupts_lt (epoll : Handle) (events : Nat) (timeout : Int) (s : κ) :
    (serve (.epollWait epoll events timeout) s).1 = .error .eintr →
      interrupts (serve (.epollWait epoll events timeout) s).2 < interrupts s

end DecodeSession
