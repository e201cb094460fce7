import Schemata.Binary64
import Schemata.Fault
import Schemata.Issue.Equality
import Schemata.Issue.Written

/-!
Dynamic values. Containers and foreign objects carry an identity, so that equality of terms
is identity of objects: two values are the same object when they have the same identity
and the same content. Scalars have no identity beyond their type and content, and neither
have issues and the outcomes of validations: a scalar that is equal to another in type and
content counts as the very same object, be it another object in memory, and every NaN as the
same NaN.

A dictionary can always be read. Any other mapping may raise an error when it is asked for a
name or for all of its entries; where it raises none it answers by its entries. Which readings
it refuses belongs to the object, and so to its identity.
-/
namespace Schemata

/-- Which readings a mapping refuses: those of some names, of every other name, and of all of its
entries at once. -/
structure Access where
  names : List (String × Option Refusal)
  others : Option Refusal
  whole : Option Refusal
  deriving DecidableEq, Repr

namespace Access

/-- Nothing is refused. -/
def free : Access := ⟨[],none,none⟩

def refusal? (access : Access) : Reading → Option Refusal
  | .item name => (access.names.lookup name).getD access.others
  | .whole => access.whole

/-- The fault of a reading that is refused. -/
def fault? (access : Access) (reading : Reading) : Option Fault :=
  (access.refusal? reading).map (Fault.refused reading)

/-- Goes on where the reading is not refused. -/
def grant (access : Access) (reading : Reading) : Except Fault Unit :=
  match access.fault? reading with
  | some fault => .error fault
  | none => .ok ()

end Access

/-- Which object a container is: one that was given, which may be a mapping that refuses some
readings, or one made on the way, known by a serial number. -/
inductive Identity where
  | given (n : Nat)
  | guarded (n : Nat) (access : Access)
  | made (serial : Nat)
  deriving DecidableEq, Repr

def Identity.access : Identity → Access
  | guarded _ access => access
  | _ => .free

/-- What a foreign object answers when it is compared. -/
inductive Comparing where
  | byIdentity | refusing | undecided | always
  deriving DecidableEq, Repr

/-- An object of a type that no operation here knows. -/
structure Foreign where
  typeName : String
  display : String
  comparing : Comparing
  deriving DecidableEq, Repr

/-- A success or a failure is a value like any other, and so is an issue. -/
inductive Value where
  | null
  | missing
  | bool (b : Bool)
  | int (i : Int)
  | float (x : Binary64)
  | str (s : String)
  | bytes (content : List UInt8)
  | list (identity : Identity) (items : List Value)
  | tuple (identity : Identity) (items : List Value)
  | dict (identity : Identity) (entries : List (Value × Value))
  | mapping (identity : Identity) (entries : List (Value × Value))
  | foreign (identity : Identity) (object : Foreign)
  | ok (held : Value)
  | err (held : Value)
  | issue (content : Issue)
  deriving Inhabited

namespace Value

/-- The two values that stand for the absence of a value. -/
def isAbsent : Value → Bool
  | null | missing => true
  | _ => false

def typeName : Value → String
  | null => "NoneType"
  | missing => "_Missing"
  | bool _ => "bool"
  | int _ => "int"
  | float _ => "float"
  | str _ => "str"
  | bytes _ => "bytes"
  | list .. => "list"
  | tuple .. => "tuple"
  | dict .. => "dict"
  | mapping .. => "mappingproxy"
  | foreign _ object => object.typeName
  | ok _ => "Ok"
  | err _ => "Err"
  | issue content => content.className

/-- The text that a value spells: a text itself, or bytes in UTF-8. -/
def text? : Value → Option String
  | str s => some s
  | bytes content => String.fromUTF8? ⟨content.toArray⟩
  | _ => none

/-- The entries of a value that can be read by key. -/
def entries? : Value → Option (List (Value × Value))
  | dict _ entries | mapping _ entries => some entries
  | _ => none

/-- What may be read of a value. Only a mapping that is no dictionary refuses anything. -/
def access : Value → Access
  | mapping identity _ => identity.access
  | _ => .free

/-- The values that iterating over a value gives, if it can be iterated. -/
def iterate? : Value → Option (List Value)
  | list _ items | tuple _ items => some items
  | dict _ entries | mapping _ entries => some (entries.map (·.1))
  | str s => some (s.toList.map fun c => str (String.singleton c))
  | bytes content => some (content.map fun byte => int byte.toNat)
  | _ => none

end Value
end Schemata
