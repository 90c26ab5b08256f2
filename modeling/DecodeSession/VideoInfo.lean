import DecodeSession.DecodedFormat
import DecodeSession.Device.Call
import DecodeSession.Fault

/-! The geometry of a picture: where its colour planes lie.

A driver carries the colour planes either in one memory plane each, or all packed in
a single one. In the first case a plane is as long as its memory plane; in the second
its length is its stride times its height. Either way the planes lie back to back in
the order of the format, so one function places them (`layOut`), and the two cases
differ only in the lengths they give it. -/
namespace DecodeSession

/-- Where a colour plane lies. -/
structure PlaneInfo where
  /-- Bytes per line. -/
  stride : UInt32
  /-- Bytes from the start of the picture's first memory plane, all memory planes counted back
  to back. -/
  offset : UInt64
  deriving DecidableEq, Repr

structure VideoInfo where
  format : DecodedFormat
  fourcc : Fourcc
  width : UInt32
  height : UInt32
  memoryPlanes : Nat
  planes : List PlaneInfo
  size : UInt64
  deriving DecidableEq, Repr

namespace DecodedFormat

/-- The stride of a colour plane packed with the luma plane. -/
def planeStride (format : DecodedFormat) (plane : Nat) (luma : UInt32) : UInt32 :=
  if format = i420 ∧ plane ≠ 0 then halfUp luma else luma

/-- The height of a colour plane: chroma has half the lines of luma. -/
def planeHeight (plane : Nat) (luma : UInt32) : UInt32 :=
  if plane = 0 then luma else halfUp luma

end DecodedFormat

namespace VideoInfo

/-- Places planes back to back from an offset, each given by its stride and its length.
Answers where they lie and where the last one ends. -/
def layOut : UInt64 → List (UInt32 × UInt64) → Except Fault (List PlaneInfo × UInt64)
  | offset, [] => .ok ([], offset)
  | offset, (stride, length) :: rest => do
    let next ← Checked.add64 offset length
    let (planes, stop) ← layOut next rest
    return (⟨stride, offset⟩ :: planes, stop)

/-- The strides and lengths of colour planes packed in one memory plane. -/
def packedPlanes (format : DecodedFormat) (stride height : UInt32) :
    Except Fault (List (UInt32 × UInt64)) :=
  (List.range format.planeCount).mapM fun plane => do
    let planeStride := format.planeStride plane stride
    let planeHeight := DecodedFormat.planeHeight plane height
    let length ← Checked.mul64 planeStride.toUInt64 planeHeight.toUInt64
    return (planeStride, length)

/-- Where the planes of a format lie and how large the picture is, if the memory planes fit
the format. -/
def geometry (format : DecodedFormat) (pix : PixFormat) :
    Except Fault (Option (List PlaneInfo × UInt64)) :=
  if pix.planes.length = format.planeCount then do
    return some (← layOut 0 (pix.planes.map fun p => (p.bytesPerLine, p.imageSize.toUInt64)))
  else match pix.planes with
    | [plane] => do
      let height ← Checked.roundUp32 pix.height format.heightUnit
      let (planes, stop) ← layOut 0 (← packedPlanes format plane.bytesPerLine height)
      return some (planes, max stop plane.imageSize.toUInt64)
    | _ => return none

/-- The geometry of a negotiated format. There is none if its code means no format we can
describe, or if its memory planes are neither one for each colour plane nor a single one. -/
def ofPixFormat? (pix : PixFormat) : Except Fault (Option VideoInfo) :=
  match DecodedFormat.ofFourcc? pix.pixelFormat with
  | none => .ok none
  | some format => do
    let some (planes, size) ← geometry format pix | return none
    return some
      { format := format
        fourcc := pix.pixelFormat
        width := pix.width
        height := pix.height
        memoryPlanes := pix.planes.length
        planes := planes
        size := size }

end VideoInfo

end DecodeSession
