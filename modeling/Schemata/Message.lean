import Schemata.Run
import Schemata.Value.Comparison

/-!
Configured messages. A message is given as any value; one that counts as false means the
default. Only a value that spells a text can be put into an issue, which shows when the
issue is made.
-/
namespace Schemata.Message

/-- The configured message, or the default where it counts as false. -/
def chosen (message : Value) (default : String) : Run Value := do
  if ← Run.lift message.truth then return message else return .str default

def text (message : Value) : Run String :=
  match message.text? with
  | some s => return s
  | none => Run.fail Fault.invalidIssue

def settled (message : Value) (default : String) : Run String := do
  text (← chosen message default)

end Schemata.Message
