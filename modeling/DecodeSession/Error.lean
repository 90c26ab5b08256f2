import DecodeSession.Device.Call

/-! Why an operation of a session fails.

An error is a cause. Its wording, the system error code behind it and whether the
session can go on are functions of the cause. -/
namespace DecodeSession

/-- The number of a request, the same however often the request is lent out. It has 64 bits,
enough for the first 2 ^ 64 requests of a session, and the model goes no further. -/
structure RequestId where
  number : Nat
  deriving DecidableEq, Repr

def RequestId.text (id : RequestId) : String := s!"#{id.number}"

inductive DecoderError where
  | notOpened
  | openFailed (path : String) (errno : Errno)
  /-- A device call failed. -/
  | callFailed (call : String) (errno : Errno)
  /-- The driver applied another format than the one asked for. -/
  | formatMismatch (queue : Queue) (requested : Fourcc) (width height : UInt32)
      (got : Fourcc) (gotWidth gotHeight : UInt32)
  | unsupportedPixelFormat (fourcc : Fourcc)
  | noCandidates
  | noBuffersAllocated (queue : Queue)
  | notReady (queue : Queue)
  | wrongQueue (index : UInt32) (expected actual : Queue)
  | noBitstream (request : RequestId)
  | foreignRequest (request : RequestId)
  deriving DecidableEq, Repr

namespace DecoderError

def message : DecoderError → String
  | notOpened => "decoder is not opened"
  | openFailed path errno => s!"failed to open '{path}': {errno.text}"
  | callFailed call errno => s!"{call} failed: {errno.text}"
  | formatMismatch queue requested width height got gotWidth gotHeight =>
    s!"failed to set {queue.name} format to {requested.text} {width}x{height}, driver selected " ++
      s!"{got.text} {gotWidth}x{gotHeight}"
  | unsupportedPixelFormat fourcc => s!"unsupported V4L2 pixel format {fourcc.text}"
  | noCandidates => "no candidate output format"
  | noBuffersAllocated queue => s!"driver allocated no buffers on the {queue.name} queue"
  | notReady queue => s!"no completed buffer available on the {queue.name} queue"
  | wrongQueue index expected actual =>
    s!"buffer {index} belongs to the {actual.name} queue, expected the {expected.name} queue"
  | noBitstream request => s!"request {request.text} has no bitstream buffer attached"
  | foreignRequest request => s!"request {request.text} was allocated by another decoder"

/-- The system error code behind a failure. A format applied with other parameters counts
as `einval`, and an empty queue as `eagain`. -/
def errno : DecoderError → Option Errno
  | openFailed _ errno | callFailed _ errno => some errno
  | formatMismatch .. => some .einval
  | notReady _ => some .eagain
  | _ => none

/-- Whether the session cannot go on. Any other error only costs the frame being decoded. -/
def isFatal : DecoderError → Bool
  | notOpened | openFailed .. | formatMismatch .. => true
  | callFailed call _ => call == Method.setFormat.label
  | _ => false

end DecoderError

end DecodeSession
