import Schemata.Node.Error
import Schemata.Schema
import Schemata.Value.Entries

/-!
Building nodes. A constructor checks the parts it is given and answers a node or the error
of the first wrong part; containers start with the flags in force where they are built.
Nothing here depends on what children and stages are, so trees and stores build alike.
-/
namespace Schemata

/-- What is given where a schema is expected. -/
inductive Part (α : Type) where
  | schema (child : α)
  | other (value : Value)

def Part.check {α : Type} (place : Place) : Part α → Except BuildError α
  | schema child => .ok child
  | other value => .error (.notSchema place value.typeName)

/-- What is given where a mapping of names to schemas is expected. -/
inductive Fields (α : Type) where
  | mapping (entries : Table (Part α))
  | other (value : Value)

namespace Fields

def ofList {α : Type} (pairs : List (Value × Part α)) : Fields α := mapping (Table.ofList pairs)

def ofValue {α : Type} (value : Value) : Fields α :=
  match value.entries? with
  | some entries => mapping (entries.map fun entry => (entry.1,.other entry.2))
  | none => other value

end Fields

/-- The alternatives that iterating over a value gives; none of them is a schema. -/
def Part.ofValue {α : Type} (value : Value) : Except BuildError (List (Part α)) :=
  match value.iterate? with
  | some items => .ok (items.map .other)
  | none => .error (.notIterable value.typeName)

namespace Node

variable {σ α : Type}

def string (message : Value) : Node σ α := ⟨.withMessage message,.string .none⟩

def number (message : Value) : Node σ α := ⟨.withMessage message,.number none .none⟩

def bigint (message : Value) : Node σ α := ⟨.withMessage message,.bigint .none⟩

def boolean (message : Value) : Node σ α := ⟨.withMessage message,.boolean⟩

def unknown : Node σ α := ⟨.empty,.unknown⟩

def any : Node σ α := ⟨.empty,.any⟩

def array (ambient : Flags) (element : Part α) (message : Value) :
    Except BuildError (Node σ α) := do
  return ⟨.withMessage message,.array (← element.check .element) .none ambient.immediate⟩

/-- Names and schemas are checked entry by entry, the name first. -/
def checkFields : Table (Part α) → Except BuildError (List (String × α))
  | [] => return []
  | (.str name,part) :: rest => do
    let child ← part.check (.field name)
    return (name,child) :: (← checkFields rest)
  | (key,_) :: _ => .error (.fieldName key)

def object (ambient : Flags) (fields : Fields α) (message : Value) :
    Except BuildError (Node σ α) := do
  match fields with
  | .other value => .error (.fieldsNotMapping value.typeName)
  | .mapping entries =>
    return ⟨.withMessage message,.object (← checkFields entries) ambient⟩

def literal (values message : Value) : Except BuildError (Node σ α) :=
  match values with
  | .str _ | .bytes _ => .error .literalText
  | values => match values.iterate? with
    | none => .error (.notIterable values.typeName)
    | some [] => .error .noLiteralValues
    | some items => .ok ⟨.withMessage message,.literal items⟩

def checkOptions : List (Part α) → Except BuildError (List α)
  | [] => return []
  | part :: rest => do
    let child ← part.check .alternative
    return child :: (← checkOptions rest)

def union (options : List (Part α)) (message : Value) : Except BuildError (Node σ α) := do
  if options.isEmpty then .error .noAlternatives
  else return ⟨.withMessage message,.union (← checkOptions options)⟩

def optional (inner : Part α) : Except BuildError (Node σ α) := do
  return ⟨.empty,.optional (← inner.check .wrapped)⟩

def nullable (inner : Part α) : Except BuildError (Node σ α) := do
  return ⟨.empty,.nullable (← inner.check .wrapped)⟩

def transform (callable : σ → Bool) (inner : Part α) (function : σ) :
    Except BuildError (Node σ α) := do
  let child ← inner.check .wrapped
  if callable function then return ⟨.empty,.transform child function⟩ else .error .notCallable

/-- The node with the owner's flags, message for absence and stages. -/
def inheriting (fresh owner : Node σ α) : Node σ α where
  config := { owner.config with message := fresh.config.message }
  form := match fresh.form,owner.form with
    | .object fields _,.object _ flags => .object fields flags
    | form,_ => form

/-- A new object with further fields laid over the owner's. It is built like any other,
under the flags in force, and then inherits from the owner. -/
def extend (ambient : Flags) (owner : Node σ α) (fields : Fields α) :
    Except BuildError (Node σ α) :=
  match owner.form,fields with
  | .object _ _,.other value => .error (.extensionNotMapping value.typeName)
  | .object owned _,.mapping entries => do
    let merged := Table.overlay (owned.map fun field => (.str field.1,.schema field.2)) entries
    let fresh ← object ambient (.mapping merged) owner.config.message
    return fresh.inheriting owner
  | form,_ => .error (.unavailable form.kind.className "extend")

end Node
end Schemata
