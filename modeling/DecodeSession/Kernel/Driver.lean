import DecodeSession.Device.Driver
import DecodeSession.Kernel.SystemCall
import DecodeSession.Text.Utf8

/-! The driver that a kernel makes.

Each device call is one system call, but for three. Watching a request creates an
object to wait with and adds the request to it, and the object is given back when that
fails. Waiting is made again whenever it is interrupted. And a path that holds a zero
character names no file, so opening it fails before the kernel is asked. -/
namespace DecodeSession.Kernel
variable {κ α : Type} (k : Kernel κ)

/-- Makes a system call and reads its reply. -/
def ask (c : SystemCall) (s : κ) (read : c.Reply → α) : Except Errno α × κ :=
  ((k.serve c s).1.map read, (k.serve c s).2)

def openFlags (nonblock : Bool) : UInt32 :=
  readWrite ||| closeOnExec ||| (if nonblock then nonblocking else 0)

def openNode (path : String) (nonblock : Bool) (s : κ) : Except Errno Handle × κ :=
  if path.toList.contains '\x00' then (.error .einval, s)
  else k.serve (.openNode path (openFlags nonblock)) s

/-- A listed format, its description read up to the first zero byte. -/
def readDescription (raw : RawDescription) : FormatDescription :=
  ⟨⟨raw.pixelFormat⟩, Text.Utf8.read (raw.description.takeWhile (· ≠ 0))⟩

def dequeueBuffer (video : Handle) (queue : Queue) (s : κ) :
    Except Fault (Except Errno DequeuedBuffer × κ) :=
  match k.serve (.dequeueBuffer video (.room queue 0)) s with
  | (.error errno, s) => .ok (.error errno, s)
  | (.ok raw, s) =>
    match raw.toDequeued with
    | .error fault => .error fault
    | .ok buffer => .ok (.ok buffer, s)

def watchRequest (request : Handle) (s : κ) : Except Errno Waiter × κ :=
  match k.serve (.epollCreate closeOnExec) s with
  | (.error errno, s) => (.error errno, s)
  | (.ok epoll, s) =>
    match k.serve (.epollControl epoll epollAdd request epollPriority) s with
    | (.error errno, s) => (.error errno, k.close epoll s)
    | (.ok _, s) => (.ok ⟨epoll⟩, s)

/-- The longest timeout that can be passed, in milliseconds. -/
def longestTimeout : Nat := 0x7FFFFFFF

/-- A timeout as it is passed. One that is too long is none. -/
def timeoutArgument : Option Nat → Int
  | some millis => if millis ≤ longestTimeout then millis else -1
  | none => -1

/-- Waits until something is ready or the time is over. -/
def wait (epoll : Handle) (timeout : Int) (s : κ) : Except Errno Bool × κ :=
  match k.serve (.epollWait epoll 1 timeout) s, k.interrupts_lt epoll 1 timeout s with
  | (.ok ready, s), _ =>
    let ready : Nat := ready
    (.ok (decide (0 < ready)), s)
  | (.error errno, next), fewer =>
    if h : errno = .eintr then
      have : k.interrupts next < k.interrupts s := fewer (by rw [h])
      wait epoll timeout next
    else (.error errno, next)
termination_by k.interrupts s

/-- Serves a device call. -/
def serveCall : (c : Call) → κ → Except Fault (Except Errno c.Reply × κ)
  | .openNode path _ nonblock, s => .ok (k.openNode path nonblock s)
  | .streamOn video queue, s => .ok (k.serve (.streamOn video (bufferType queue)) s)
  | .streamOff video queue, s => .ok (k.serve (.streamOff video (bufferType queue)) s)
  | .enumFormat video queue index, s =>
    .ok (k.ask (.enumFormat video ⟨index, bufferType queue, 0, []⟩) s readDescription)
  | .getFormat video queue, s =>
    .ok (k.ask (.getFormat video (.blank queue)) s RawFormat.toPixFormat)
  | .setFormat video queue format, s =>
    .ok (k.ask (.setFormat video (.ofPixFormat queue format)) s RawFormat.toPixFormat)
  | .requestBuffers video queue count, s =>
    let allocation : RawAllocation := ⟨count, bufferType queue, mappedMemory⟩
    .ok (k.ask (.requestBuffers video allocation) s RawAllocation.count)
  | .queryBuffer video queue index, s =>
    .ok (k.ask (.queryBuffer video (.room queue index)) s
      fun raw => raw.filledPlanes.map fun plane => ⟨plane.length, plane.dataOffset⟩)
  | .exportBuffer video queue index plane, s =>
    let request : RawExport := ⟨bufferType queue, index, plane, closeOnExec ||| readWrite⟩
    .ok (k.serve (.exportBuffer video request) s)
  | .queueBuffer video b, s => .ok (k.ask (.queueBuffer video (.ofSubmission b)) s fun _ => ())
  | .dequeueBuffer video queue, s => k.dequeueBuffer video queue s
  | .setControls video request controls, s =>
    .ok (k.serve (.setControls video (.ofControls request controls)) s)
  | .allocRequest media, s => .ok (k.serve (.allocRequest media) s)
  | .queueRequest request, s => .ok (k.serve (.queueRequest request) s)
  | .reinitRequest request, s => .ok (k.serve (.reinitRequest request) s)
  | .watchRequest request, s => .ok (k.watchRequest request s)
  | .wait waiter timeout, s => .ok (k.wait waiter.handle (timeoutArgument timeout) s)

/-- The driver that a kernel makes. It logs which node it opens. -/
def driver : Driver κ where
  serve := k.serveCall
  close handle s := .ok (k.close handle s)
  closeWaiter waiter s := .ok (k.close waiter.handle s)
  announcesOpening := true

end DecodeSession.Kernel
