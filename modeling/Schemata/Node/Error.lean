import Schemata.Fault
import Schemata.Value.Identity
import Schemata.Value.Written

/-!
What can be wrong with the parts a schema is built from.
-/
namespace Schemata

inductive Side where
  | min | max
  deriving DecidableEq, Repr

def Side.name : Side → String
  | .min => "min"
  | .max => "max"

/-- Where a schema is expected. -/
inductive Place where
  | element
  | field (name : String)
  | wrapped
  | alternative
  deriving DecidableEq, Repr

inductive BuildError where
  | lengthBound (given : Value)
  | itemBound (side : Side) (given : Value)
  | numberBound (side : Side) (typeName : String)
  | integerBound (side : Side) (typeName : String)
  | notSchema (place : Place) (typeName : String)
  | fieldsNotMapping (typeName : String)
  | extensionNotMapping (typeName : String)
  | fieldName (given : Value)
  | notIterable (typeName : String)
  | literalText
  | noLiteralValues
  | noAlternatives
  | notCallable
  | unavailable (typeName method : String)
  deriving DecidableEq

namespace BuildError

def kind : BuildError → ErrorKind
  | lengthBound _ | itemBound .. | noLiteralValues | noAlternatives => .value
  | unavailable .. => .attribute
  | _ => .type

private def expected (place : Place) : String :=
  match place with
  | .element => "Array element must be a Schema"
  | .field name => "Field " ++ Text.quoted name ++ " must be a Schema"
  | .wrapped => "Wrapped value must be a Schema"
  | .alternative => "Union alternatives must be Schemas"

def message : BuildError → String
  | lengthBound given => "Length bound must be a non-negative int, got " ++ given.display
  | itemBound side given =>
    "Array " ++ side.name ++ " must be a non-negative int, got " ++ given.display
  | numberBound side typeName => side.name ++ " must be a number, got " ++ typeName
  | integerBound side typeName => side.name ++ " must be an int, got " ++ typeName
  | notSchema place typeName => expected place ++ ", got " ++ typeName
  | fieldsNotMapping typeName => "Object fields must be a mapping, got " ++ typeName
  | extensionNotMapping typeName => "'" ++ typeName ++ "' object is not a mapping"
  | fieldName given => "Object field names must be str, got " ++ given.display
  | notIterable typeName => "'" ++ typeName ++ "' object is not iterable"
  | literalText => "Literal values must be a collection, not a single string"
  | noLiteralValues => "Literal requires at least one allowed value"
  | noAlternatives => "Union requires at least one alternative"
  | notCallable => "Transform function must be callable"
  | unavailable typeName method => (Fault.noAttribute typeName method).text

end BuildError
end Schemata
