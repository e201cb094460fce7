import Schemata.Node.Error
import Schemata.Schema

/-!
Settings: what can be changed about a node once it is built. Each setting writes one slot
of the node, or appends a stage; a setting with a wrong argument changes nothing.
-/
namespace Schemata

inductive Setting (σ : Type) where
  | least (bound message : Value)
  | greatest (bound message : Value)
  | whole (message : Value)
  | required (message : Value)
  | refine (stage : σ)
  | check (stage : σ) (message : Value)
  | immediate (enabled : Bool)
  | strict (enabled : Bool)
  | pathed (enabled : Bool)

namespace Setting

def name {σ : Type} : Setting σ → String
  | least .. => "min"
  | greatest .. => "max"
  | whole _ => "int"
  | required _ => "required"
  | refine _ => "refine"
  | check .. => "check"
  | immediate enabled => if enabled then "immediate" else "retained"
  | strict _ => "strict"
  | pathed _ => "pathed"

end Setting

def Value.size? : Value → Option Nat
  | .int (.ofNat n) => some n
  | _ => none

/-- Writes the lower or the upper bound. -/
def Limits.set {β : Type} (limits : Limits β) (limit : Limit β) : Side → Limits β
  | .min => { limits with least := some limit }
  | .max => { limits with greatest := some limit }

namespace Form

variable {σ α : Type}

def bounded (form : Form σ α) (side : Side) (bound message : Value) :
    Except BuildError (Form σ α) :=
  match form with
  | string limits => match bound.size? with
    | some n => .ok (string (limits.set ⟨n,message⟩ side))
    | none => .error (.lengthBound bound)
  | array element limits immediate => match bound.size? with
    | some n => .ok (array element (limits.set ⟨n,message⟩ side) immediate)
    | none => .error (.itemBound side bound)
  | number whole limits => match bound.number? with
    | some n => .ok (number whole (limits.set ⟨n,message⟩ side))
    | none => .error (.numberBound side bound.typeName)
  | bigint limits => match bound with
    | .int i => .ok (bigint (limits.set ⟨i,message⟩ side))
    | bound => .error (.integerBound side bound.typeName)
  | form => .error (.unavailable form.kind.className side.name)

end Form

namespace Node

variable {σ α : Type}

def configure (node : Node σ α) (setting : Setting σ) : Except BuildError (Node σ α) :=
  match setting,node.form with
  | .least bound message,form => do return { node with form := ← form.bounded .min bound message }
  | .greatest bound message,form => do
    return { node with form := ← form.bounded .max bound message }
  | .whole message,.number _ limits => .ok { node with form := .number (some message) limits }
  | .refine stage,_ => .ok { node with config.refines := node.config.refines ++ [stage] }
  | .check stage message,_ =>
    .ok { node with config.checks := node.config.checks ++ [(stage,message)] }
  | .immediate enabled,.array element limits _ =>
    .ok { node with form := .array element limits enabled }
  | .immediate enabled,.object fields flags =>
    .ok { node with form := .object fields { flags with immediate := enabled } }
  | .strict enabled,.object fields flags =>
    .ok { node with form := .object fields { flags with strict := enabled } }
  | .pathed enabled,.object fields flags =>
    .ok { node with form := .object fields { flags with pathed := enabled } }
  | .required message,form =>
    if form.requirable then .ok { node with config.required := message }
    else .error (.unavailable form.kind.className setting.name)
  | setting,form => .error (.unavailable form.kind.className setting.name)

end Node
end Schemata
