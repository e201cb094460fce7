import Schemata.Schema.Scalar
import Schemata.Schema.Visit
import Schemata.Value.Entries

/-!
How containers are looked at. An array or an object whose parts all come back as they were
is its own output where the schema leaves it as it is; otherwise the outputs of the parts
are put together in a new container, whose serial is fresh for the old one. A mapping is asked
for its declared fields one after the other, and for all of its entries where it is copied;
what it raises is not handled.
-/
namespace Schemata

namespace Sequence

def tasks (element : Parser) (items : List Value) : List (Task Int) :=
  items.zipIdx.map fun entry => ⟨entry.2,entry.1,none,element⟩

/-- Reads the items and puts the list together; `given` is the input, `serial` is fresh for
it, and `isList` tells a list from a tuple. -/
def read {σ : Type} (config : Config σ) (element : Parser) (limits : Limits Nat)
    (immediate isList : Bool) (serial : Nat) (given : Value) (items : List Value) :
    Run (Except Issue Value) :=
  Limit.guard limits.greatest (· < items.length) .arrayType "Array is bigger than defined max" <|
  Limit.guard limits.least (items.length < ·) .arrayType "Array is smaller than defined min" do
    let tasks := tasks element items
    let visited ← visit immediate serial tasks
    if visited.failures.isEmpty then
      if isList && visited.unchanged tasks then return .ok given
      else return .ok (.list (.made serial) (visited.outputs.map (·.2)))
    else
      let message ← Message.settled config.message "Array elements failed validation"
      return .error (.array message none visited.failures)

def step {σ : Type} (config : Config σ) (element : Parser) (limits : Limits Nat)
    (immediate : Bool) (serial : Nat) (value : Value) : Run (Except Issue Value) :=
  let serial := value.freshFrom serial
  match value with
  | .null | .missing => config.absent
  | .list _ items => read config element limits immediate true serial value items
  | .tuple _ items => read config element limits immediate false serial value items
  | _ => complain .arrayType config.message "Value is not an array"

end Sequence

namespace Record

/-- A declared field that is not there is read as the missing value. -/
def tasks (fields : List (String × Parser)) (access : Access) (entries : Entries) :
    List (Task String) :=
  fields.map fun field => ⟨field.1,(entries.find? (.str field.1)).getD .missing,
    access.fault? (.item field.1),field.2⟩

/-- The declared fields alone, in declared order, without the missing ones. -/
def declared (outputs : List (String × Value)) : Entries :=
  (outputs.filter fun output => output.2 != .missing).map fun output => (.str output.1,output.2)

/-- Writes one field: a missing output takes the key away. -/
def write (entries : Entries) (output : String × Value) : Entries :=
  if output.2 = .missing then entries.erase (.str output.1)
  else entries.insert (.str output.1) output.2

def overlaid (entries : Entries) (outputs : List (String × Value)) : Entries :=
  outputs.foldl write entries

/-- The output for a mapping whose fields all validate; `isDict` tells a plain dictionary,
which is its own output when nothing changed, from any other mapping. -/
def projected (strict isDict unchanged : Bool) (serial : Nat) (given : Value)
    (entries : Entries) (outputs : List (String × Value)) : Value :=
  if strict then .dict (.made serial) (declared outputs)
  else if isDict && unchanged then given
  else .dict (.made serial) (overlaid entries outputs)

/-- Makes the output. Only where the mapping is copied is it asked for all of its entries. -/
def project (strict isDict unchanged : Bool) (serial : Nat) (given : Value) (access : Access)
    (entries : Entries) (outputs : List (String × Value)) : Except Fault Value := do
  unless strict || isDict && unchanged do access.grant .whole
  return projected strict isDict unchanged serial given entries outputs

def read {σ : Type} (config : Config σ) (fields : List (String × Parser)) (flags : Flags)
    (isDict : Bool) (serial : Nat) (given : Value) (access : Access) (entries : Entries) :
    Run (Except Issue Value) := do
  let tasks := tasks fields access entries
  let visited ← visit flags.immediate serial tasks
  if visited.failures.isEmpty then
    return .ok (← Run.lift (project flags.strict isDict (visited.unchanged tasks) serial given
      access entries visited.outputs))
  else
    let message ← Message.settled config.message "Object fields failed validation"
    let issue := Issue.object message none visited.failures
    return .error (if flags.pathed then issue.tagPaths [] else issue)

def step {σ : Type} (config : Config σ) (fields : List (String × Parser)) (flags : Flags)
    (serial : Nat) (value : Value) : Run (Except Issue Value) :=
  let serial := value.freshFrom serial
  match value with
  | .null | .missing => config.absent
  | .dict _ entries => read config fields flags true serial value value.access entries
  | .mapping _ entries => read config fields flags false serial value value.access entries
  | _ => complain .objectType config.message "Value is not an object"

end Record
end Schemata
