/-! What a session is made from: the paths of its two nodes, and how to open them. -/
namespace DecodeSession

structure Config where
  media : String
  video : String
  /-- Whether dequeueing answers at once when nothing has completed. -/
  nonblocking : Bool
  deriving DecidableEq, Repr

namespace Config

/-- The nodes at two paths, with dequeueing that does not block. -/
def ofPaths (media video : String) : Config := ⟨media, video, true⟩

/-- The same nodes, with dequeueing that waits for a completed buffer. -/
def blocking (c : Config) : Config := {c with nonblocking := false}

end Config

/-- A media controller entity found on the system. -/
structure Entity where
  name : String
  /-- What the entity does, a media function number. -/
  function : UInt32
  media : String
  video : String
  deriving DecidableEq, Repr

namespace Entity

/-- The media function number of a video decoder. -/
def decoderFunction : UInt32 := 0x4005

/-- The entity does something else than decode. -/
structure NotADecoder where
  name : String
  function : UInt32
  deriving DecidableEq, Repr

def NotADecoder.message (e : NotADecoder) : String :=
  let digits := String.ofList (Nat.toDigits 16 e.function.toNat)
  s!"entity {e.name} has function 0x{digits}, not a stateless video decoder"

/-- A decoder entity's nodes as the nodes of a session. -/
def config (e : Entity) : Except NotADecoder Config :=
  if e.function = decoderFunction then .ok (.ofPaths e.media e.video)
  else .error ⟨e.name, e.function⟩

end Entity

end DecodeSession
