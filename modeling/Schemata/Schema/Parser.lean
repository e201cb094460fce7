import Schemata.Schema

/-!
Parsers: what a schema does with a value. Reading a value gives an output or an issue;
demanding one raises the issue instead. Containers that a reading makes get serials from
the given one on, and are fresh for what they are made of.
-/
namespace Schemata

structure Parser where
  kind : Kind
  read : Nat → Value → Run (Except Issue Value)

namespace Parser

def demand (parser : Parser) (serial : Nat) (value : Value) : Run Value := do
  match ← parser.read serial value with
  | .ok output => return output
  | .error issue =>
    Run.record (.note (.refused parser.kind issue.kind))
    Run.fail (.rejected issue)

def accepts (parser : Parser) (serial : Nat) (value : Value) : Run Bool := do
  match ← parser.read serial value with
  | .ok _ => return true
  | .error _ => return false

end Parser

/-- A leaf issue with the configured message or the default one. -/
def complain (complaint : Complaint) (message : Value) (default : String) :
    Run (Except Issue Value) := do
  return .error (.leaf complaint (← Message.settled message default) none)

/-- The answer to an absent value. -/
def Config.absent {σ : Type} (config : Config σ) : Run (Except Issue Value) :=
  complain .required config.required "Value is required"

end Schemata
