import Schemata.Schema.Parser

/-!
How scalars are looked at. Nothing is converted: a value of the right type that violates no
bound is its own output, and of several violated bounds the first in a fixed order is
reported.
-/
namespace Schemata

/-- Complains about a violated bound, or goes on. -/
def Limit.guard {β : Type} (limit : Option (Limit β)) (violated : β → Bool)
    (complaint : Complaint) (default : String) (next : Run (Except Issue Value)) :
    Run (Except Issue Value) :=
  match limit with
  | some limit => if violated limit.bound then complain complaint limit.message default else next
  | none => next

namespace Scalar

def smaller : String := "Value is smaller than defined min"

def bigger : String := "Value is bigger than defined max"

def string {σ : Type} (config : Config σ) (limits : Limits Nat) :
    Value → Run (Except Issue Value)
  | .null | .missing => config.absent
  | .str s =>
    Limit.guard limits.least (s.length < ·) .string "String is shorter than defined min" <|
    Limit.guard limits.greatest (· < s.length) .string "String is longer than defined max" <|
    return .ok (.str s)
  | _ => complain .string config.message "Value is not a string"

def number {σ : Type} (config : Config σ) (whole : Option Value) (limits : Limits Number)
    (value : Value) : Run (Except Issue Value) :=
  if value.isAbsent then config.absent
  else match value.number? with
    | none => complain .number config.message "Value is not a number"
    | some n =>
      Limit.guard (whole.map (Limit.mk ())) (fun _ => !n.isWhole) .number
        "Value is not an integer" <|
      Limit.guard limits.least n.less .number smaller <|
      Limit.guard limits.greatest (·.less n) .number bigger <|
      return .ok value

def bigint {σ : Type} (config : Config σ) (limits : Limits Int) :
    Value → Run (Except Issue Value)
  | .null | .missing => config.absent
  | .int i =>
    Limit.guard limits.least (i < ·) .bigint smaller <|
    Limit.guard limits.greatest (· < i) .bigint bigger <|
    return .ok (.int i)
  | _ => complain .bigint config.message "Value is not a bigint"

def boolean {σ : Type} (config : Config σ) : Value → Run (Except Issue Value)
  | .null | .missing => config.absent
  | .bool b => return .ok (.bool b)
  | _ => complain .boolean config.message "Value is not a boolean"

end Scalar
end Schemata
