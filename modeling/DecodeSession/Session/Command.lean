import DecodeSession.Session.Negotiation
import DecodeSession.Session.Transfer
import DecodeSession.Session.Pool

/-! Commands: the operations that leave a session as it is.

They only talk to the driver, so performing one answers a value or an error and
nothing else about the session changes. -/
namespace DecodeSession

/-- A request on loan as its holder sees it. -/
structure LoanView where
  id : RequestId
  handle : Handle
  /-- The index of the attached buffer. -/
  bitstream : Option UInt32
  pending : Bool
  deriving DecidableEq, Repr

/-- What a step can answer. -/
inductive Value where
  | nothing
  | config (config : Config)
  | fourcc (fourcc : Option Fourcc)
  | fourccs (fourccs : List Fourcc)
  | caps (caps : OutputCaps)
  | video (info : VideoInfo)
  | count (count : UInt32)
  | buffer (buffer : ExportedBuffer)
  | dequeued (buffer : DequeuedBuffer)
  | loan (view : LoanView)
  | poll (status : PollStatus)
  deriving DecidableEq, Repr

inductive Command where
  | streamOn (queue : Queue)
  | streamOff (queue : Queue)
  | flush
  | inputFormatAt (index : UInt32)
  | inputFormats
  | setInputFormat (pixelFormat : Fourcc) (width height : UInt32)
  | outputFormats
  | selectOutputFormat (candidates : List DecodedFormat)
  | requestBuffers (queue : Queue) (count : UInt32)
  | releaseBuffers (queue : Queue)
  | dequeue (queue : Queue)
  deriving DecidableEq, Repr

def Session.perform {σ : Type} (d : Driver σ) (s : Session) : Command → Operation σ Value
  | .streamOn queue => do s.streamOn d queue; return .nothing
  | .streamOff queue => do s.streamOff d queue; return .nothing
  | .flush => do s.flush d; return .nothing
  | .inputFormatAt index => return .fourcc (← s.inputFormatAt d index)
  | .inputFormats => return .fourccs (← s.inputFormats d)
  | .setInputFormat pixelFormat width height => do
    s.setInputFormat d pixelFormat width height
    return .nothing
  | .outputFormats => return .caps (← s.outputFormats d)
  | .selectOutputFormat candidates => return .video (← s.selectOutputFormat d candidates)
  | .requestBuffers queue count => return .count (← s.requestBuffers d queue count)
  | .releaseBuffers queue => do s.releaseBuffers d queue; return .nothing
  | .dequeue queue => return .dequeued (← s.dequeue d queue)

end DecodeSession
