import DecodeSession.DecodedFormat
import DecodeSession.Error

/-! What a session logs.

A notice is a cause, like an error; its level and its wording are functions of it. -/
namespace DecodeSession

inductive Level where
  | error
  | warn
  | info
  | debug
  deriving DecidableEq, Repr

def Level.name : Level → String
  | error => "ERROR"
  | warn => "WARN"
  | info => "INFO"
  | debug => "DEBUG"

inductive Notice where
  | alreadyOpened
  | openingNode (node : Node) (path : String)
  | openFailed (path : String) (errno : Errno)
  | nodesOpened (media video : String)
  | nodesClosing (media video : String)
  | callFailed (call : String) (errno : Errno)
  | pooledDestroyed (id : RequestId)
  | poolDestroyed (count : Nat)
  | formatFound (fourcc : Fourcc) (description : String)
  | inputFormatRefused (fourcc : Fourcc) (width height : UInt32)
      (got : Fourcc) (gotWidth gotHeight : UInt32)
  | currentFormatUnknown (fourcc : Fourcc)
  | formatTried (format : DecodedFormat)
  | formatUnsupported (fourcc : Fourcc)
  | formatSelected (format : DecodedFormat) (width height : UInt32)
  | buffersRequested (count : UInt32) (queue : Queue)
  | noBuffersAllocated (queue : Queue)
  | exportAbandoned (planes : Nat) (queue : Queue) (index : UInt32)
  | bufferDequeued (queue : Queue) (index : UInt32) (frameId : UInt32)
  | nothingCompleted (queue : Queue)
  | requestReused (id : RequestId)
  | requestAllocated (id : RequestId)
  | bitstreamReplaced (id : RequestId) (index : UInt32)
  | queueRefused (id : RequestId)
  | requestQueued (id : RequestId)
  | pendingFreed (id : RequestId)
  | orphanDestroyed (id : RequestId)
  | reinitFailed (id : RequestId) (errno : Errno)
  | requestRecycled (id : RequestId)
  deriving DecidableEq, Repr

namespace Notice

def level : Notice → Level
  | openFailed .. | callFailed .. | formatUnsupported .. | noBuffersAllocated .. | queueRefused ..
  | reinitFailed .. => .error
  | alreadyOpened | inputFormatRefused .. | bitstreamReplaced .. => .warn
  | formatSelected .. => .info
  | _ => .debug

def message : Notice → String
  | alreadyOpened => "Decoder is already opened"
  | openingNode node path => s!"opening {node.name} node {path}"
  | openFailed path errno => s!"Failed to open '{path}': {errno.text}"
  | nodesOpened media video => s!"Opened {media} and {video}"
  | nodesClosing media video => s!"Closing {media} and {video}"
  | callFailed call errno => s!"{call} failed: {errno.text}"
  | pooledDestroyed id => s!"Destroying pooled request {id.text}"
  | poolDestroyed count => s!"Destroying {count} pooled requests"
  | formatFound fourcc description => s!"Found format {fourcc.text} ({description})"
  | inputFormatRefused fourcc width height got gotWidth gotHeight =>
    s!"Failed to set input format to {fourcc.text} {width}x{height}, driver selected " ++
      s!"{got.text} {gotWidth}x{gotHeight}"
  | currentFormatUnknown fourcc => s!"Current output format {fourcc.text} is not mappable"
  | formatTried format => s!"Trying to use peer format: {format.name}"
  | formatUnsupported fourcc => s!"Unsupported V4L2 pixelformat {fourcc.text}"
  | formatSelected format width height => s!"Selected format {format.name} {width}x{height}"
  | buffersRequested count queue => s!"Requesting {count} buffers on the {queue.name} queue"
  | noBuffersAllocated queue => s!"Driver allocated no buffers on the {queue.name} queue"
  | exportAbandoned planes queue index =>
    s!"Closing {planes} planes already exported for {queue.name} buffer {index}"
  | bufferDequeued queue index frameId => s!"Dequeued {queue.name} buffer {index} (frame {frameId})"
  | nothingCompleted queue => s!"No completed buffer on the {queue.name} queue"
  | requestReused id => s!"Reusing request {id.text}"
  | requestAllocated id => s!"Allocated request {id.text}"
  | bitstreamReplaced id index =>
    s!"Request {id.text} already carried input buffer {index}, replacing it"
  | queueRefused id => s!"Refusing to queue request {id.text} without a bitstream buffer"
  | requestQueued id => s!"Queuing request {id.text}"
  | pendingFreed id => s!"Freeing pending request {id.text}"
  | orphanDestroyed id => s!"Destroying request {id.text} of a closed decoder"
  | reinitFailed id errno => s!"MEDIA_REQUEST_IOC_REINIT failed on request {id.text}: {errno.text}"
  | requestRecycled id => s!"Recycling request {id.text}"

/-- The level and the message, as a log shows them. -/
def line (n : Notice) : String := s!"{n.level.name} {n.message}"

end Notice

end DecodeSession
