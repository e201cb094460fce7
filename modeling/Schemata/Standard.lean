import Schemata.Schema.Parser

/-!
Standard descriptors: a schema offered under the name and version of a shared protocol,
whose validation answers a value or a list of issues.
-/
namespace Schemata

structure Standard (α : Type) where
  schema : α
  version : Nat
  vendor : String

namespace Standard

def describe {α : Type} (schema : α) : Standard α := ⟨schema,1,"warden"⟩

/-- Either the output or the issues, of which there is one. -/
def validate (parser : Parser) (value : Value) : Run (Except (List Issue) Value) := do
  match ← parser.read 0 value with
  | .ok output => return .ok output
  | .error issue => return .error [issue]

end Standard
end Schemata
