import DecodeSession.Session.Basic
import DecodeSession.VideoInfo

/-! Agreeing on formats with the driver.

A driver lists its formats by index and ends the list with `einval`. The coded format
is set exactly or not at all: a driver that applies another one has refused. The
picture format is the driver's current one whenever the caller accepts it, and
otherwise the caller's first choice, as far as the driver grants it. -/
namespace DecodeSession.Session
variable {σ : Type} (d : Driver σ) (s : Session)

/-- How many indices a list can be walked through. Stepping past the last 32-bit index leaves
its range. -/
def listLimit : Nat := UInt32.size - 1

/-! ### Coded formats -/

/-- The coded format at an index of the driver's list, or none past its end. -/
def inputFormatAt (index : UInt32) : Operation σ (Option Fourcc) := do
  match ← d.call (.enumFormat (← s.video) .input index) with
  | .ok found =>
    d.log (.formatFound found.pixelFormat found.description)
    return some found.pixelFormat
  | .error .einval => return none
  | .error errno =>
    d.log (.callFailed Method.enumFormat.label errno)
    throw (.callFailed Method.enumFormat.label errno)

/-- The coded formats from an index on, while indices are left. -/
def inputFormatsFrom : Nat → UInt32 → Operation σ (List Fourcc)
  | 0, _ => Traced.ofExcept (.error (.overflow .add))
  | left + 1, index => do
    match ← s.inputFormatAt d index with
    | none => return []
    | some fourcc => return fourcc :: (← inputFormatsFrom left (index + 1))

/-- Every coded format the driver lists, in its order. -/
def inputFormats : Operation σ (List Fourcc) := s.inputFormatsFrom d listLimit 0

/-- Sets the coded format. The driver must apply the very code and size asked for. -/
def setInputFormat (pixelFormat : Fourcc) (width height : UInt32) : Operation σ Unit := do
  let applied : PixFormat ←
    d.attempt (.setFormat (← s.video) .input ⟨pixelFormat, width, height, []⟩)
  if applied.pixelFormat ≠ pixelFormat ∨ applied.width ≠ width ∨ applied.height ≠ height then
    d.log (.inputFormatRefused pixelFormat width height
      applied.pixelFormat applied.width applied.height)
    throw (.formatMismatch .input pixelFormat width height
      applied.pixelFormat applied.width applied.height)

/-! ### Picture formats -/

/-- Adds the picture formats from an index on that can be described, while indices are left.
A list that fails ends there. -/
def outputFormatsFrom (video : Handle) : Nat → UInt32 → OutputCaps → Exchange σ OutputCaps
  | 0, _, _ => Traced.ofExcept (.error (.overflow .add))
  | left + 1, index, caps => do
    match ← d.call (.enumFormat video .output index) with
    | .ok found =>
      let caps := match DecodedFormat.ofFourcc? found.pixelFormat with
        | some format => caps.push format
        | none => caps
      outputFormatsFrom video left (index + 1) caps
    | .error .einval => return caps
    | .error errno =>
      d.log (.callFailed Method.enumFormat.label errno)
      return caps

/-- The picture formats the driver can produce, the selected one first. -/
def outputFormats : Operation σ OutputCaps := do
  let video ← s.video
  let current : PixFormat ← d.attempt (.getFormat video .output)
  match DecodedFormat.ofFourcc? current.pixelFormat with
  | some format => outputFormatsFrom d video listLimit 0 (OutputCaps.empty.push format)
  | none =>
    d.log (.currentFormatUnknown current.pixelFormat)
    outputFormatsFrom d video listLimit 0 .empty

/-- Whether a format's code means one of the candidates. -/
def accepts (candidates : List DecodedFormat) (pix : PixFormat) : Bool :=
  match DecodedFormat.ofFourcc? pix.pixelFormat with
  | some format => candidates.contains format
  | none => false

/-- The geometry of the format a selection ended with. -/
def describeSelection (pix : PixFormat) : Operation σ VideoInfo := do
  match ← (Traced.ofExcept (VideoInfo.ofPixFormat? pix) : Exchange σ _) with
  | none =>
    d.log (.formatUnsupported pix.pixelFormat)
    throw (.unsupportedPixelFormat pix.pixelFormat)
  | some info =>
    d.log (.formatSelected info.format info.width info.height)
    return info

/-- Keeps the driver's current picture format if it is a candidate, and asks for the first candidate
otherwise. Answers the geometry of the format that results. -/
def selectOutputFormat (candidates : List DecodedFormat) : Operation σ VideoInfo := do
  match candidates with
  | [] => throw .noCandidates
  | preferred :: _ =>
    let video ← s.video
    let current : PixFormat ← d.attempt (.getFormat video .output)
    if accepts candidates current then
      describeSelection d current
    else
      d.log (.formatTried preferred)
      let applied : PixFormat ←
        d.attempt (.setFormat video .output {current with pixelFormat := preferred.fourcc})
      describeSelection d applied

end DecodeSession.Session
