import DecodeSession.DecodedFormat
import DecodeSession.Text.Quoted
import DecodeSession.Text.Word

/-! What a probe is asked for.

Every argument is a flag with its value, the next argument whatever it looks like. A
flag is given once, but for the picture formats to try, which are tried in the order
given. Asking for help is the exception: it takes no value, and no flag may follow it.
After `--` there are no flags any more, and as nothing else is taken, no arguments.

The first thing wrong is what is reported. -/
namespace DecodeSession.Probe

inductive Flag where
  | media | video | inputFormat | width | height | outputFormat
  deriving DecidableEq, Repr

namespace Flag

def name : Flag → String
  | media => "media"
  | video => "video"
  | inputFormat => "input-format"
  | width => "width"
  | height => "height"
  | outputFormat => "output-format"

/-- The flag as it is given. -/
def text (f : Flag) : String := "--" ++ f.name

def all : List Flag := [media, video, inputFormat, width, height, outputFormat]

def ofText? (s : String) : Option Flag := all.find? (·.text = s)

end Flag

/-- What has been given. -/
structure Given where
  media : Option String := none
  video : Option String := none
  inputFormat : Option Fourcc := none
  width : Option UInt32 := none
  height : Option UInt32 := none
  outputFormats : List DecodedFormat := []
  deriving DecidableEq, Repr

/-- What to probe, and for what. -/
structure Options where
  media : String
  video : String
  /-- The coded format to ask for, or the first one the driver lists. -/
  inputFormat : Option Fourcc
  width : UInt32
  height : UInt32
  /-- The picture formats to choose from, or whatever the driver can produce if there are none. -/
  outputFormats : List DecodedFormat
  deriving DecidableEq, Repr

/-- What is done about flags that are not given. -/
def Given.options (g : Given) : Options where
  media := g.media.getD "/dev/media0"
  video := g.video.getD "/dev/video0"
  inputFormat := g.inputFormat
  width := g.width.getD 1920
  height := g.height.getD 1080
  outputFormats := g.outputFormats

/-! ### Values -/

/-- What is wrong with a flag's value. -/
inductive BadValue where
  /-- The flag has been given before, whatever its value is now. -/
  | duplicate
  | notFourcc (text : String)
  | notFormat (text : String)
  | notWord (why : Text.Word.Malformed)
  deriving DecidableEq, Repr

def BadValue.message : BadValue → String
  | duplicate => "duplicate values provided"
  | notFourcc text => Text.Quoted.encode text ++ " is not a four character code"
  | notFormat text => DecodedFormat.unrecognized text
  | notWord why => why.message

def readFourcc (s : String) : Except BadValue Fourcc :=
  match Fourcc.ofText? s with
  | some fourcc => .ok fourcc
  | none => .error (.notFourcc s)

def readFormat (s : String) : Except BadValue DecodedFormat :=
  match DecodedFormat.ofName? s with
  | some format => .ok format
  | none => .error (.notFormat s)

def readWord (s : String) : Except BadValue UInt32 := (Text.Word.read s).mapError .notWord

/-- A value that can be given once. -/
def once {α : Type} (given : Option α) (value : Except BadValue α) : Except BadValue (Option α) :=
  if given.isSome then .error .duplicate else value.map some

/-- Takes a flag with its value. -/
def Given.take (g : Given) (value : String) : Flag → Except BadValue Given
  | .media => return {g with media := ← once g.media (.ok value)}
  | .video => return {g with video := ← once g.video (.ok value)}
  | .inputFormat => return {g with inputFormat := ← once g.inputFormat (readFourcc value)}
  | .width => return {g with width := ← once g.width (readWord value)}
  | .height => return {g with height := ← once g.height (readWord value)}
  | .outputFormat => return {g with outputFormats := g.outputFormats ++ [← readFormat value]}

/-! ### Arguments -/

/-- Why arguments are not taken. -/
inductive Refusal where
  | unrecognized (argument : String)
  | noValue (flag : Flag)
  | badValue (flag : Flag) (value : String) (why : BadValue)
  /-- A flag follows the asking for help. -/
  | flagAfterHelp
  deriving DecidableEq, Repr

def Refusal.message : Refusal → String
  | unrecognized argument => s!"Unrecognized argument: {argument}\n"
  | noValue flag => s!"No value provided for option '{flag.text}'.\n"
  | badValue flag value why =>
    s!"Error parsing option '{flag.text}' with value '{value}': {why.message}\n"
  | flagAfterHelp => "Trailing arguments are not allowed after `help`."

inductive Wish where
  | help
  | probe (options : Options)
  deriving DecidableEq, Repr

/-- What is wished for when no arguments are left. -/
def wish (help : Bool) (g : Given) : Wish := if help then .help else .probe g.options

/-- Reads on, after help has or has not been asked for and flags have been given. -/
def readFrom (help : Bool) (g : Given) : List String → Except Refusal Wish
  | [] => .ok (wish help g)
  | argument :: rest =>
    if argument = "--help" ∨ argument = "help" then readFrom true g rest
    else if argument = "--" then
      match rest with
      | [] => .ok (wish help g)
      | next :: _ => .error (.unrecognized next)
    else if help ∧ argument.startsWith "-" then .error .flagAfterHelp
    else match Flag.ofText? argument with
      | none => .error (.unrecognized argument)
      | some flag =>
        match rest with
        | [] => .error (.noValue flag)
        | value :: rest =>
          match g.take value flag with
          | .error why => .error (.badValue flag value why)
          | .ok g => readFrom help g rest

def read (arguments : List String) : Except Refusal Wish := readFrom false {} arguments

/-- The answer to asking for help. -/
def help : String :=
  "Usage: v4l2probe [--media <media>] [--video <video>] [--input-format <input-format>] " ++
    "[--width <width>] [--height <height>] [--output-format <output-format...>]\n\n" ++
  "Probe a V4L2 stateless decoder.\n\n" ++
  "Options:\n" ++
  "  --media           media controller node\n" ++
  "  --video           video node\n" ++
  "  --input-format    coded format to negotiate, e.g. S264. Defaults to the first\n" ++
  "                    one the driver reports.\n" ++
  "  --width           coded width\n" ++
  "  --height          coded height\n" ++
  "  --output-format   decoded formats to try, in order of preference\n" ++
  "  --help            display usage information\n"

end DecodeSession.Probe
