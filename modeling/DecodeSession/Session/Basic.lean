import DecodeSession.Config
import DecodeSession.Device.Driver

/-! Sessions: a media node, a video node and a pool of idle requests.

Opening takes the media node first. When the video node then fails to open, the media
node stays, and is given back by the next successful opening, by closing, or when the
session ends. Closing destroys the pooled requests and gives back whatever nodes are
open; a request on loan is not touched by it. -/
namespace DecodeSession

/-- The nodes a session holds. -/
inductive Nodes where
  | closed
  /-- The media node is open and the video node failed to open. -/
  | mediaOnly (media : Handle)
  | opened (media video : Handle)
  deriving DecidableEq, Repr

namespace Nodes

def handles : Nodes → List Handle
  | closed => []
  | mediaOnly media => [media]
  | opened media video => [media, video]

def isOpened : Nodes → Bool
  | opened .. => true
  | _ => false

end Nodes

/-- A request of the kernel with what waits for it. -/
structure Slot where
  id : RequestId
  handle : Handle
  waiter : Waiter
  deriving DecidableEq, Repr

structure Session where
  config : Config
  nodes : Nodes
  /-- The idle requests, the one that has been idle longest first. -/
  pool : List Slot
  /-- The number of the next request to be allocated. Request numbers have 64 bits and begin again
  at zero: the model holds for sessions that allocate at most 2 ^ 64 requests. -/
  nextId : Nat
  deriving DecidableEq, Repr

/-- Gives back a request and what waits for it. -/
def Driver.destroy {σ : Type} (d : Driver σ) (slot : Slot) : Exchange σ Unit := do
  d.release slot.handle
  d.releaseWaiter slot.waiter

/-- Destroys requests, in order. -/
def Driver.destroyAll {σ : Type} (d : Driver σ) : List Slot → Exchange σ Unit
  | [] => pure ()
  | slot :: rest => do
    d.destroy slot
    d.destroyAll rest

namespace Session
variable {σ : Type} (d : Driver σ)

/-- A session that has opened nothing yet. -/
def ofConfig (config : Config) : Session := ⟨config, .closed, [], 0⟩

def isOpened (s : Session) : Bool := s.nodes.isOpened

/-- How many requests can be lent out without a kernel allocation. -/
def idle (s : Session) : Nat := s.pool.length

/-- The media node, if the session is opened. -/
def media (s : Session) : Operation σ Handle :=
  match s.nodes with
  | .opened media _ => return media
  | _ => throw .notOpened

/-- The video node, if the session is opened. -/
def video (s : Session) : Operation σ Handle :=
  match s.nodes with
  | .opened _ video => return video
  | _ => throw .notOpened

/-- Opens the media node, then the video node. -/
def openNodes (s : Session) : Exchange σ (Except DecoderError Unit × Session) := do
  if s.isOpened then
    d.log .alreadyOpened
    return (.ok (), s)
  else
    match ← d.call (.openNode s.config.media .media false) with
    | .error errno =>
      d.log (.openFailed s.config.media errno)
      return (.error (.openFailed s.config.media errno), s)
    | .ok media =>
      d.releaseAll s.nodes.handles
      match ← d.call (.openNode s.config.video .video s.config.nonblocking) with
      | .error errno =>
        d.log (.openFailed s.config.video errno)
        return (.error (.openFailed s.config.video errno), {s with nodes := .mediaOnly media})
      | .ok video =>
        d.log (.nodesOpened s.config.media s.config.video)
        return (.ok (), {s with nodes := .opened media video})

/-- Destroys pooled requests one by one, saying so of each. -/
def drain : List Slot → Exchange σ Unit
  | [] => pure ()
  | slot :: rest => do
    d.log (.pooledDestroyed slot.id)
    d.destroy slot
    drain rest

/-- Destroys the pooled requests and gives the nodes back. -/
def close (s : Session) : Exchange σ Session := do
  drain d s.pool
  d.releaseAll s.nodes.handles
  return {s with nodes := .closed, pool := []}

/-- What happens when nobody refers to the session any more. -/
def tearDown (s : Session) : Exchange σ Session := do
  if !s.pool.isEmpty then d.log (.poolDestroyed s.pool.length)
  d.destroyAll s.pool
  if s.isOpened then d.log (.nodesClosing s.config.media s.config.video)
  d.releaseAll s.nodes.handles
  return {s with nodes := .closed, pool := []}

/-! ### Streaming -/

def streamOn (s : Session) (queue : Queue) : Operation σ Unit := do
  d.attempt (.streamOn (← s.video) queue)

def streamOff (s : Session) (queue : Queue) : Operation σ Unit := do
  d.attempt (.streamOff (← s.video) queue)

/-- Stops and restarts both queues. A queue that fails to stop is started all the same. -/
def flush (s : Session) : Operation σ Unit := do
  let _ ← ExceptT.lift (s.streamOff d .input).run
  let _ ← ExceptT.lift (s.streamOff d .output).run
  s.streamOn d .input
  s.streamOn d .output

end Session

end DecodeSession
