import Schemata.Issue

/-!
Faults: what ends a computation early. An abort lies outside what schemas handle and
passes through them; every other fault is an error that a stage turns into an issue. Reading a
mapping is no stage: what the mapping refuses ends the reading of the schema.
-/
namespace Schemata

inductive ErrorKind where
  | value | type | runtime | zeroDivision | key | overflow | recursion | attribute
  | validation | unwrap
  | other (name : String)
  deriving DecidableEq, Repr

def ErrorKind.name : ErrorKind → String
  | .value => "ValueError"
  | .type => "TypeError"
  | .runtime => "RuntimeError"
  | .zeroDivision => "ZeroDivisionError"
  | .key => "KeyError"
  | .overflow => "OverflowError"
  | .recursion => "RecursionError"
  | .attribute => "AttributeError"
  | .validation => "ValidationError"
  | .unwrap => "UnwrapError"
  | .other name => name

/-- What a mapping is asked for: what it binds a name to, or all of its entries. -/
inductive Reading where
  | item (name : String)
  | whole
  deriving DecidableEq, Repr

/-- The error that a mapping raises instead of being read. -/
structure Refusal where
  kind : ErrorKind
  text : String
  deriving DecidableEq, Repr

inductive Fault where
  | abort (text : String)
  | rejected (issue : Issue)
  | error (kind : ErrorKind) (text : String)
  | refused (reading : Reading) (refusal : Refusal)
  deriving Inhabited

namespace Fault

def name : Fault → String
  | abort _ => "Abort"
  | rejected _ => "ParseError"
  | error kind _ => kind.name
  | refused _ refusal => refusal.kind.name

def text : Fault → String
  | abort text => text
  | rejected issue => issue.message
  | error _ text => text
  | refused _ refusal => refusal.text

/-- The text of a fault, or its name where the text is empty. -/
def reason (fault : Fault) : String := if fault.text = "" then fault.name else fault.text

/-- The fault of asking an object for something that its type does not have. -/
def noAttribute (typeName feature : String) : Fault :=
  .error .attribute ("'" ++ typeName ++ "' object has no attribute '" ++ feature ++ "'")

/-- A message that is no text cannot be part of an issue. -/
def invalidIssue : Fault := .error .validation "issue fields have the wrong type"

end Fault
end Schemata
