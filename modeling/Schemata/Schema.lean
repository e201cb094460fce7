import Schemata.Number
import Schemata.Stage

/-!
Schemas as data. A node has the configuration that every schema shares and a form of its
own; the form is open in what it holds for children and for stage functions, so that trees,
parsers and stored nodes are the same nodes over different children.
-/
namespace Schemata

/-- A configured bound and the message used when it is violated. -/
structure Limit (β : Type) where
  bound : β
  message : Value

structure Limits (β : Type) where
  least : Option (Limit β)
  greatest : Option (Limit β)

def Limits.none {β : Type} : Limits β := ⟨.none,.none⟩

/-- The switches of containers: stop at the first failure, keep only declared fields, and
write paths into issues. -/
structure Flags where
  immediate : Bool
  strict : Bool
  pathed : Bool
  deriving DecidableEq, Repr

def Flags.off : Flags := ⟨false,false,false⟩

inductive Form (σ α : Type) where
  | string (limits : Limits Nat)
  | number (whole : Option Value) (limits : Limits Number)
  | bigint (limits : Limits Int)
  | boolean
  | unknown
  | any
  | array (element : α) (limits : Limits Nat) (immediate : Bool)
  | object (fields : List (String × α)) (flags : Flags)
  | literal (values : List Value)
  | union (options : List α)
  | optional (inner : α)
  | nullable (inner : α)
  | transform (inner : α) (function : σ)

/-- What every schema can be given: messages for a wrong value and for an absent one, and
its stages, each check with the message of a failed verdict. -/
structure Config (σ : Type) where
  message : Value
  required : Value
  refines : List σ
  checks : List (σ × Value)

structure Node (σ α : Type) where
  config : Config σ
  form : Form σ α

inductive Schema where
  | node (content : Node Stage Schema)

namespace Form

def kind {σ α : Type} : Form σ α → Kind
  | string _ => .string
  | number .. => .number
  | bigint _ => .bigint
  | boolean => .boolean
  | unknown => .unknown
  | any => .any
  | array .. => .array
  | object .. => .object
  | literal _ => .literal
  | union _ => .union
  | optional _ => .optional
  | nullable _ => .nullable
  | transform .. => .transform

/-- The value that passes a wrapper untouched. -/
def sentinel? {σ α : Type} : Form σ α → Option Value
  | optional _ => some .missing
  | nullable _ => some .null
  | _ => Option.none

/-- Whether the absence of a value has a message of its own. -/
def requirable {σ α : Type} : Form σ α → Bool
  | unknown | any | optional _ | nullable _ | transform .. => false
  | _ => true

def map {σ τ α β : Type} (stage : σ → τ) (child : α → β) : Form σ α → Form τ β
  | string limits => string limits
  | number whole limits => number whole limits
  | bigint limits => bigint limits
  | boolean => boolean
  | unknown => unknown
  | any => any
  | array element limits immediate => array (child element) limits immediate
  | object fields flags => object (fields.map fun field => (field.1,child field.2)) flags
  | literal values => literal values
  | union options => union (options.map child)
  | optional inner => optional (child inner)
  | nullable inner => nullable (child inner)
  | transform inner function => transform (child inner) (stage function)

end Form

namespace Config

def empty {σ : Type} : Config σ := ⟨.null,.null,[],[]⟩

def withMessage {σ : Type} (message : Value) : Config σ := { empty with message }

def map {σ τ : Type} (stage : σ → τ) (config : Config σ) : Config τ :=
  ⟨config.message,config.required,config.refines.map stage,
    config.checks.map fun check => (stage check.1,check.2)⟩

end Config

namespace Node

def kind {σ α : Type} (node : Node σ α) : Kind := node.form.kind

def map {σ τ α β : Type} (stage : σ → τ) (child : α → β) (node : Node σ α) : Node τ β :=
  ⟨node.config.map stage,node.form.map stage child⟩

end Node

namespace Schema

def content : Schema → Node Stage Schema
  | node content => content

def kind (schema : Schema) : Kind := schema.content.kind

end Schema
end Schemata
