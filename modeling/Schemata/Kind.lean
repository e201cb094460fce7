/-!
The kinds of schemas.
-/
namespace Schemata

inductive Kind where
  | string | number | bigint | boolean | unknown | any | array | object | literal | union
  | optional | nullable | transform
  deriving DecidableEq, Repr

namespace Kind

def name : Kind → String
  | string => "string"
  | number => "number"
  | bigint => "bigint"
  | boolean => "boolean"
  | unknown => "unknown"
  | any => "any"
  | array => "array"
  | object => "object"
  | literal => "literal"
  | union => "union"
  | optional => "optional"
  | nullable => "nullable"
  | transform => "transform"

/-- The kind as it is written in the name of its schemas' class. -/
def title : Kind → String
  | string => "String"
  | number => "Number"
  | bigint => "BigInt"
  | boolean => "Boolean"
  | unknown => "Unknown"
  | any => "Any"
  | array => "Array"
  | object => "Object"
  | literal => "Literal"
  | union => "Union"
  | optional => "Optional"
  | nullable => "Nullable"
  | transform => "Transform"

/-- The name of the class of the kind's schemas. -/
def className (kind : Kind) : String := kind.title ++ "Schema"

def display (kind : Kind) : String := kind.className ++ "(kind='" ++ kind.name ++ "')"

end Kind
end Schemata
