import Schemata.Message
import Schemata.Value.Written

/-!
Stages: the functions of its user that a schema calls. `consult` calls one and settles what
it gives back: a success or the failure with an issue passes through, any other failure or
an error becomes an issue of the stage, and any other value is the new value or, where a
verdict is asked, a yes or no about the value handed in.
-/
namespace Schemata

/-- A function gets a serial that is fresh for its value, under which it may make
containers. -/
inductive Stage where
  | function (label : Option String) (act : Nat → Value → Context → Run Value)
  | inert (object : Value)

/-- The fault of calling a value that is no function. -/
def Fault.notCallable (object : Value) : Fault :=
  .error .type ("'" ++ object.typeName ++ "' object is not callable")

namespace Stage

def call : Stage → Nat → Value → Context → Run Value
  | function label act,serial,value,context => do
    Run.record (.call label value context)
    act (value.freshFrom serial) value context
  | inert object,_,_,_ => Run.fail (.notCallable object)

/-- Whether a reply passes. Only a plain value that is asked for a verdict can fail, and
asking it can fault. -/
def passes (asked : Bool) : Value → Run Bool
  | .ok _ | .err _ => return true
  | v => if asked then Run.lift v.truth else return true

def judged (asked : Bool) (reply : Value) : Run (Value × Bool) := do
  return (reply,← passes asked reply)

/-- The outcome of a stage on `value`. With `verdict` the reply is a verdict on the value,
and a failed one becomes an issue with that message. -/
def consult (stage : Stage) (serial : Nat) (value : Value) (context : Context)
    (verdict : Option Value) : Run (Except Issue Value) := do
  match ← Run.attempt (stage.call serial value context >>= judged verdict.isSome) with
  | .error fault =>
    Run.record (.note (.raised context.stage context.source fault.name))
    return .error (context.issue fault.reason)
  | .ok (.err (.issue issue),_) => return .error issue
  | .ok (.err reason,_) => return .error (context.issue reason.written)
  | .ok (.ok v,_) => return .ok v
  | .ok (v,passed) =>
    match verdict with
    | none => return .ok v
    | some message =>
      if passed then return .ok value
      else return .error (context.issue (← Message.text message))

end Stage
end Schemata
