import DecodeSession.Fourcc

/-! The picture formats a decoder hands out.

Several four-character codes can mean one format: a driver may carry the colour
planes in one memory plane or in one each, under different codes. Reading a code is
therefore many to one, and asking for a format always names the code of its first
reading. -/
namespace DecodeSession

/-- The layout of a decoded picture. -/
inductive DecodedFormat where
  | nv12
  | i420
  | yuyv
  | p010
  /-- Luma and chroma in tiles of 16 by 32. -/
  | mm21
  /-- Luma and chroma in tiles of 4 by 4. -/
  | nv12Tiled4
  /-- Luma and chroma in tiles of 32 by 32. -/
  | nv12Tiled32
  deriving DecidableEq, Repr

namespace DecodedFormat

/-- The format a driver's code means, if it is one we can describe. -/
def ofFourcc? (code : Fourcc) : Option DecodedFormat :=
  if code = .nv12 ∨ code = .nv12Split then some nv12
  else if code = .yuv420 ∨ code = .yuv420Split then some i420
  else if code = .yuyv then some yuyv
  else if code = .p010 then some p010
  else if code = .mm21 then some mm21
  else if code = .nv12Tiled4 then some nv12Tiled4
  else if code = .nv12Tiled32 then some nv12Tiled32
  else none

/-- The code that asks a driver for the format. -/
def fourcc : DecodedFormat → Fourcc
  | nv12 => .nv12
  | i420 => .yuv420
  | yuyv => .yuyv
  | p010 => .p010
  | mm21 => .mm21
  | nv12Tiled4 => .nv12Tiled4
  | nv12Tiled32 => .nv12Tiled32

/-- How many colour planes the format has, however many memory planes carry them. -/
def planeCount : DecodedFormat → Nat
  | yuyv => 1
  | i420 => 3
  | _ => 2

/-- The luma height is rounded up to a whole number of tiles of this height. -/
def heightUnit : DecodedFormat → UInt32
  | mm21 | nv12Tiled32 => 32
  | nv12Tiled4 => 4
  | _ => 1

def name : DecodedFormat → String
  | nv12 => "NV12"
  | i420 => "I420"
  | yuyv => "YUYV"
  | p010 => "P010"
  | mm21 => "MM21"
  | nv12Tiled4 => "NV12_4L4"
  | nv12Tiled32 => "NV12_32L32"

/-- Every format, in the order they are listed above. -/
def all : List DecodedFormat := [nv12, i420, yuyv, p010, mm21, nv12Tiled4, nv12Tiled32]

/-- The format whose name is written, in ASCII letters of either case. -/
def ofName? (s : String) : Option DecodedFormat :=
  all.find? fun format => s.toList.map Char.toLower = format.name.toList.map Char.toLower

/-- What is said of a text that names no format. -/
def unrecognized (s : String) : String := s!"unrecognized decoded format: {s}"

end DecodedFormat

/-! ### What a decoder can produce -/

/-- The formats a decoder can produce, each once. The first is the one the driver has
selected. -/
structure OutputCaps where
  formats : List DecodedFormat
  deriving DecidableEq, Repr

namespace OutputCaps

def empty : OutputCaps := ⟨[]⟩

def contains (c : OutputCaps) (format : DecodedFormat) : Bool := c.formats.contains format

/-- Appends a format unless it is already there. -/
def push (c : OutputCaps) (format : DecodedFormat) : OutputCaps :=
  if c.contains format then c else ⟨c.formats ++ [format]⟩

/-- The first occurrence of each format, in order. -/
def ofList (formats : List DecodedFormat) : OutputCaps := formats.foldl push empty

/-- The driver's selected format, if it could be described. -/
def preferred? (c : OutputCaps) : Option DecodedFormat := c.formats.head?

def size (c : OutputCaps) : Nat := c.formats.length

def isEmpty (c : OutputCaps) : Bool := c.formats.isEmpty

end OutputCaps

end DecodeSession
