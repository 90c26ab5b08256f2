import DecodeSession.Text.Json
import DecodeSession.VideoInfo

/-! What a probe reports.

The report is JSON with its keys in alphabetical order. Codes and formats are written
by their text forms. -/
namespace DecodeSession.Probe
open Text

structure Report where
  media : String
  video : String
  /-- The coded formats the driver lists. -/
  inputFormats : List Fourcc
  /-- The coded format that was set. -/
  inputFormat : Fourcc
  /-- The picture formats the driver can produce. -/
  outputFormats : List DecodedFormat
  selected : VideoInfo
  deriving DecidableEq, Repr

namespace Report

def planeJson (p : PlaneInfo) : Json :=
  .object [("offset", .number p.offset.toNat), ("stride", .number p.stride.toNat)]

def selectedJson (v : VideoInfo) : Json :=
  .object
    [("format", .string v.format.name),
     ("height", .number v.height.toNat),
     ("planes", .array (v.planes.map planeJson)),
     ("size", .number v.size.toNat),
     ("width", .number v.width.toNat)]

def json (r : Report) : Json :=
  .object
    [("input_format", .string r.inputFormat.text),
     ("input_formats", .array (r.inputFormats.map fun fourcc => .string fourcc.text)),
     ("media", .string r.media),
     ("output_formats", .array (r.outputFormats.map fun format => .string format.name)),
     ("selected", selectedJson r.selected),
     ("video", .string r.video)]

/-- The report as it is printed. -/
def text (r : Report) : String := r.json.render 0 ++ "\n"

end Report

end DecodeSession.Probe
