import Schemata.Schema.Parser
import Schemata.Value.Comparison

/-!
How choices are looked at: a literal takes one of its values, a union the first of its
alternatives that takes the value. Absence is only asked about when nothing matched.
-/
namespace Schemata

/-- Loose equality, except that a truth value matches nothing but itself; a comparison that
fails is no match. -/
def Value.matchesLiteral (value allowed : Value) : Bool :=
  match value,allowed with
  | .bool a,.bool b => a == b
  | .bool _,_ | _,.bool _ => false
  | value,allowed =>
    match value.equals allowed >>= Value.truth with
    | .ok verdict => verdict
    | .error _ => false

namespace Choice

def literal {σ : Type} (config : Config σ) (values : List Value) (value : Value) :
    Run (Except Issue Value) :=
  if values.any value.matchesLiteral then return .ok value
  else if value.isAbsent then config.absent
  else complain .literal config.message
    ("Value must be one of: " ++ " | ".intercalate (values.map Value.display))

def firstMatch (serial : Nat) (value : Value) : List Parser → Run (Option Value)
  | [] => return none
  | option :: rest => do
    match ← option.read serial value with
    | .ok output => return some output
    | .error _ => firstMatch serial value rest

def union {σ : Type} (config : Config σ) (options : List Parser) (serial : Nat)
    (value : Value) : Run (Except Issue Value) := do
  match ← firstMatch serial value options with
  | some output => return .ok output
  | none =>
    Run.record (.note (.unmatched options.length))
    if value.isAbsent then config.absent
    else complain .union config.message "Value failed union constraints"

end Choice
end Schemata
