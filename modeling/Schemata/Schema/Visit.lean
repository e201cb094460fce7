import Schemata.Schema.Parser

/-!
Visiting the parts of a container in order. Retained visits read every part and keep every
failure; immediate ones stop at the first failure. All parts are read from the serial of
the container on. A part that the container refuses to give ends the visit.
-/
namespace Schemata

/-- One part to read: where it is, what it is, how asking for it fails if it does, and with what
it is read. -/
structure Task (κ : Type) where
  key : κ
  item : Value
  refusal : Option Fault
  parser : Parser

/-- Asks for the part and reads it. -/
def Task.read {κ : Type} (serial : Nat) (task : Task κ) : Run (Except Issue Value) :=
  match task.refusal with
  | some fault => Run.fail fault
  | none => task.parser.read serial task.item

structure Visit (κ : Type) where
  outputs : List (κ × Value)
  failures : List (κ × Issue)

def visit {κ : Type} (immediate : Bool) (serial : Nat) : List (Task κ) → Run (Visit κ)
  | [] => return ⟨[],[]⟩
  | task :: rest => do
    match ← task.read serial with
    | .ok output =>
      (fun visited => { visited with outputs := (task.key,output) :: visited.outputs }) <$>
        visit immediate serial rest
    | .error issue =>
      if immediate then return ⟨[],[(task.key,issue)]⟩
      else
        (fun visited => { visited with failures := (task.key,issue) :: visited.failures }) <$>
          visit immediate serial rest

/-- Whether every part came back as the object it was. A scalar has no identity of its own, so that
one of the same type and content is the object it was. -/
def Visit.unchanged {κ : Type} (visited : Visit κ) (tasks : List (Task κ)) : Bool :=
  visited.outputs.map (·.2) == tasks.map (·.item)

end Schemata
