/-! Reading bytes as UTF-8, whatever they are.

Bytes that are no UTF-8 are shown as replacement characters, one for each longest
stretch that begins a character and cannot be completed. The reader takes one byte at
a time; between bytes it knows which character has begun and which bytes can go on
with it. -/
namespace DecodeSession.Text.Utf8

/-- Stands for bytes that are no character. -/
def replacement : Char := '\ufffd'

/-- What the reader is in the middle of. -/
inductive Pending where
  | nothing
  /-- A character has begun: the bits so far, how many bytes are missing, and what the next
  one may be. -/
  | inside (bits missing : Nat) (low high : UInt8)

/-- Takes a byte that begins a character. -/
def start (byte : UInt8) : List Char × Pending :=
  if byte < 0x80 then ([Char.ofNat byte.toNat], .nothing)
  else if byte < 0xC2 then ([replacement], .nothing)
  else if byte < 0xE0 then ([], .inside (byte.toNat - 0xC0) 1 0x80 0xBF)
  else if byte < 0xF0 then
    let low := if byte = 0xE0 then 0xA0 else 0x80
    let high := if byte = 0xED then 0x9F else 0xBF
    ([], .inside (byte.toNat - 0xE0) 2 low high)
  else if byte < 0xF5 then
    let low := if byte = 0xF0 then 0x90 else 0x80
    let high := if byte = 0xF4 then 0x8F else 0xBF
    ([], .inside (byte.toNat - 0xF0) 3 low high)
  else ([replacement], .nothing)

/-- Takes the next byte. One that cannot go on with the character begun ends that and begins
anew. -/
def advance (pending : Pending) (byte : UInt8) : List Char × Pending :=
  match pending with
  | .nothing => start byte
  | .inside bits missing low high =>
    if low ≤ byte ∧ byte ≤ high then
      let bits := bits * 64 + (byte.toNat - 0x80)
      if missing = 1 then ([Char.ofNat bits], .nothing)
      else ([], .inside bits (missing - 1) 0x80 0xBF)
    else
      let (read, pending) := start byte
      (replacement :: read, pending)

/-- The characters of the bytes that follow. -/
def readFrom : Pending → List UInt8 → List Char
  | .nothing, [] => []
  | .inside .., [] => [replacement]
  | pending, byte :: rest =>
    let (read, pending) := advance pending byte
    read ++ readFrom pending rest

/-- The text of some bytes. -/
def read (bytes : List UInt8) : String := String.ofList (readFrom .nothing bytes)

end DecodeSession.Text.Utf8
