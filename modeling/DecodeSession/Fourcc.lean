/-! Four-character codes.

A code is a 32-bit word whose bytes, least significant first, are read as
characters. The text form shows every byte as the character with that code point, so
a byte from 128 up becomes a character that takes two bytes in UTF-8; reading a text
takes the bytes of its UTF-8 form. The two agree exactly on codes made of ASCII. -/
namespace DecodeSession

structure Fourcc where
  code : UInt32
  deriving DecidableEq, Repr, Inhabited

namespace Fourcc

def ofBytes (a b c d : UInt8) : Fourcc :=
  ⟨a.toUInt32 ||| b.toUInt32 <<< 8 ||| c.toUInt32 <<< 16 ||| d.toUInt32 <<< 24⟩

/-- The four bytes, least significant first. -/
def bytes (f : Fourcc) : List UInt8 :=
  [f.code.toUInt8, (f.code >>> 8).toUInt8, (f.code >>> 16).toUInt8, (f.code >>> 24).toUInt8]

/-- Each byte as the character with that code point. -/
def text (f : Fourcc) : String :=
  String.ofList (f.bytes.map fun byte => Char.ofNat byte.toNat)

/-- Eight hexadecimal digits and the text. -/
def description (f : Fourcc) : String :=
  let digits := Nat.toDigits 16 f.code.toNat
  let padded := List.replicate (8 - digits.length) '0' ++ digits
  s!"0x{String.ofList padded} ({f.text})"

/-- The code spelled by a text of four bytes. -/
def ofText? (s : String) : Option Fourcc :=
  match s.toUTF8.data.toList with
  | [a, b, c, d] => some (ofBytes a b c d)
  | _ => none

/-- The code of four ASCII characters. -/
def ofChars (a b c d : Char) : Fourcc :=
  ofBytes a.toUInt8 b.toUInt8 c.toUInt8 d.toUInt8

/-! ### The codes of picture formats -/

def nv12 : Fourcc := ofChars 'N' 'V' '1' '2'
def nv12Split : Fourcc := ofChars 'N' 'M' '1' '2'
def yuv420 : Fourcc := ofChars 'Y' 'U' '1' '2'
def yuv420Split : Fourcc := ofChars 'Y' 'M' '1' '2'
def yuyv : Fourcc := ofChars 'Y' 'U' 'Y' 'V'
def p010 : Fourcc := ofChars 'P' '0' '1' '0'
def mm21 : Fourcc := ofChars 'M' 'M' '2' '1'
def nv12Tiled4 : Fourcc := ofChars 'V' 'T' '1' '2'
def nv12Tiled32 : Fourcc := ofChars 'S' 'T' '1' '2'

/-! ### The codes of coded formats -/

def h264Slice : Fourcc := ofChars 'S' '2' '6' '4'
def hevcSlice : Fourcc := ofChars 'S' '2' '6' '5'
def vp9Frame : Fourcc := ofChars 'V' 'P' '9' 'F'

end Fourcc

end DecodeSession
