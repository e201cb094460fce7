import Schemata.Proofs.Projection

/-!
What containers put out, place by place. An array puts out the list of the outputs of its items. An
object that does not hand its input back makes a new dictionary: the writes of its outputs, one after
the other, keep the places of the keys that are there, take out the declared names that are missing,
and append the new ones in declared order.
-/
namespace Schemata

namespace Record

variable {entries : Entries} {outputs : List (String × Value)} {name : String}

def names (outputs : List (String × Value)) : List Value :=
  outputs.map fun output => .str output.1

/-- The declared names with an output; `dropped` are the others. -/
def present (outputs : List (String × Value)) : List Value :=
  names (outputs.filter fun output => output.2 != .missing)

def dropped (outputs : List (String × Value)) : List Value :=
  names (outputs.filter fun output => output.2 == .missing)

/-- The keys that are left of a mapping, in its order, and then the declared names that are new. -/
def merged (keys : List Value) (outputs : List (String × Value)) : List Value :=
  (keys.filter fun key => key ∉ dropped outputs) ++
    (present outputs).filter fun key => key ∉ keys

end Record

namespace Form

variable {serial : Nat} {value : Value}

end Form

namespace Node

end Node
end Schemata
