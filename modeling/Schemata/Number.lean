import Schemata.Fault
import Schemata.Value

/-!
Numbers: integers of any size beside doubles. They are ordered by exact mathematical value,
never through a rounded conversion; sums and products of mixed operands are doubles.
-/
namespace Schemata

inductive Number where
  | int (i : Int)
  | float (x : Binary64)
  deriving DecidableEq, Repr

namespace Number

def toValue : Number → Value
  | int i => .int i
  | float x => .float x

/-- The same number as a double whose mantissa may have any length. -/
def exact : Number → Binary64
  | int i => Binary64.exactInt i
  | float x => x

def order (a b : Number) : Option Ordering := a.exact.order b.exact

def less (a b : Number) : Bool := a.order b == some .lt

def atMost (a b : Number) : Bool := a.less b || a.order b == some .eq

/-- Integers beyond the range of doubles cannot be rounded to one. -/
def rounded : Number → Except Fault Binary64
  | float x => .ok x
  | int i => match Binary64.ofInt i with
    | .infinite _ => .error (.error .overflow "int too large to convert to float")
    | x => .ok x

def add : Number → Number → Except Fault Number
  | int a,int b => .ok (int (a + b))
  | a,b => do return float ((← a.rounded).add (← b.rounded))

def mul : Number → Number → Except Fault Number
  | int a,int b => .ok (int (a * b))
  | a,b => do return float ((← a.rounded).mul (← b.rounded))

def isWhole : Number → Bool
  | int _ => true
  | float x => x.isWhole

def isEven : Number → Bool
  | int i => i % 2 == 0
  | float x => match x.toInt? with
    | some i => i % 2 == 0
    | none => false

end Number

/-- Truth values do not count as numbers here. -/
def Value.number? : Value → Option Number
  | .int i => some (.int i)
  | .float x => some (.float x)
  | _ => none

end Schemata
