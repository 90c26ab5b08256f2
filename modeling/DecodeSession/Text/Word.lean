/-! Reading a 32-bit word written in decimal. -/
namespace DecodeSession.Text.Word

/-- Why a text is no word. -/
inductive Malformed where
  | empty
  | badDigit
  | tooLarge
  deriving DecidableEq, Repr

def Malformed.message : Malformed → String
  | empty => "cannot parse integer from empty string"
  | badDigit => "invalid digit found in string"
  | tooLarge => "number too large to fit in target type"

/-- Reads on after a value. The first thing wrong is what is reported. -/
def readFrom (value : Nat) : List Char → Except Malformed Nat
  | [] => .ok value
  | c :: rest =>
    if !c.isDigit then .error .badDigit
    else
      let value := value * 10 + (c.toNat - '0'.toNat)
      if UInt32.size ≤ value then .error .tooLarge else readFrom value rest

/-- Reads a word: decimal digits, with a plus sign before them or without. -/
def read (s : String) : Except Malformed UInt32 :=
  match s.toList with
  | [] => .error .empty
  | ['+'] => .error .badDigit
  | '+' :: digits => do return (← readFrom 0 digits).toUInt32
  | digits => do return (← readFrom 0 digits).toUInt32

end DecodeSession.Text.Word
