import DecodeSession.Handle

/-! Faults: what stops a whole run.

An error is an answer; a fault is not. Arithmetic on machine words that leaves its
range is a fault, and so is closing a handle that is not open. After a fault nothing
is answered any more, so a computation that can meet one is an `Except Fault`. -/
namespace DecodeSession

/-- The operations that can leave a word's range. -/
inductive Arithmetic where
  | add
  | multiply
  deriving DecidableEq, Repr

/-- Why a run stops. -/
inductive Fault where
  | overflow (operation : Arithmetic)
  | closedTwice (handle : Handle)
  deriving DecidableEq, Repr

namespace Fault

def message : Fault → String
  | overflow .add => "attempt to add with overflow"
  | overflow .multiply => "attempt to multiply with overflow"
  | closedTwice handle => s!"fd {handle.number} closed twice"

end Fault

/-! ### Checked arithmetic

Each operation gives the exact result or stops. -/
namespace Checked

def add32 (a b : UInt32) : Except Fault UInt32 :=
  if a.toNat + b.toNat < UInt32.size then .ok (a + b) else .error (.overflow .add)

def mul32 (a b : UInt32) : Except Fault UInt32 :=
  if a.toNat * b.toNat < UInt32.size then .ok (a * b) else .error (.overflow .multiply)

def add64 (a b : UInt64) : Except Fault UInt64 :=
  if a.toNat + b.toNat < UInt64.size then .ok (a + b) else .error (.overflow .add)

def mul64 (a b : UInt64) : Except Fault UInt64 :=
  if a.toNat * b.toNat < UInt64.size then .ok (a * b) else .error (.overflow .multiply)

/-- The least multiple of `unit` that is not below `a`. -/
def roundUp32 (a unit : UInt32) : Except Fault UInt32 :=
  if a % unit = 0 then .ok a else add32 a (unit - a % unit)

end Checked

/-- Half of a word, rounded up. -/
def halfUp (a : UInt32) : UInt32 := a / 2 + a % 2

end DecodeSession
