/-! Handles: what a device gives out and must be given back.

A handle is a number that names one open kernel object: a device node, a media
request, or a memory plane shared as a DMA-BUF. Its role says which. Nothing here
says who owns a handle; that is told by where it is stored. -/
namespace DecodeSession

/-- The two nodes a stateless decoder is reached through. -/
inductive Node where
  /-- The media controller node, which allocates requests. -/
  | media
  /-- The video node, for formats, buffers, streaming and controls. -/
  | video
  deriving DecidableEq, Repr

namespace Node

/-- A node's name in log lines. -/
def name : Node → String
  | media => "Media"
  | video => "Video"

end Node

/-- An open kernel object. -/
structure Handle where
  number : Nat
  deriving DecidableEq, Repr, Inhabited

/-- What an open kernel object is. -/
inductive Role where
  | node (node : Node)
  | request
  | dmaBuf
  deriving DecidableEq, Repr

namespace Role

/-- A role's name in descriptions of handles. -/
def name : Role → String
  | node n => s!"Node({n.name})"
  | request => "Request"
  | dmaBuf => "DmaBuf"

end Role

/-- What waits for one request to complete. The handle is the wait object's own where
the kernel makes one, and the watched request's where none is needed. -/
structure Waiter where
  handle : Handle
  deriving DecidableEq, Repr

end DecodeSession
