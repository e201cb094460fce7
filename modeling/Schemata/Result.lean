import Schemata.Run
import Schemata.Value

/-!
Results: a success or a failure that holds a value, which may be another result. Mapping
the side that is not there hands back the result itself.
-/
namespace Schemata

inductive Result where
  | ok (held : Value)
  | err (held : Value)
  deriving DecidableEq

/-- What a method hands back: the result it was called on, or some value. -/
inductive Returned where
  | itself
  | other (v : Value)

namespace Result

def toValue : Result → Value
  | ok held => .ok held
  | err held => .err held

/-- The result that a value is, if it is one. -/
def ofValue? : Value → Option Result
  | .ok held => some (ok held)
  | .err held => some (err held)
  | _ => none

def isOk : Result → Bool
  | ok _ => true
  | err _ => false

def success : Result → Value
  | ok held => held
  | err _ => .null

def failure : Result → Value
  | ok _ => .null
  | err held => held

def unwrap : Result → Except Fault Value
  | ok held => .ok held
  | err _ => .error (.error .unwrap "Attempt to unwrap the value of an Err result")

def unwrapErr : Result → Except Fault Value
  | ok _ => .error (.error .unwrap "Attempt to unwrap the error of an Ok result")
  | err held => .ok held

def unwrapOr (default : Value) : Result → Value
  | ok held => held
  | err _ => default

def map (function : Value → Run Value) : Result → Run Returned
  | ok held => do return .other (.ok (← function held))
  | err _ => return .itself

def mapErr (function : Value → Run Value) : Result → Run Returned
  | ok _ => return .itself
  | err held => do return .other (.err (← function held))

def andThen (function : Value → Run Value) : Result → Run Returned
  | ok held => do return .other (← function held)
  | err _ => return .itself

end Result
end Schemata
