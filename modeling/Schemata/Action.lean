import Schemata.Node.Building
import Schemata.Schema.Parser
import Schemata.Value.Comparison

/-!
Actions: stage functions written as data. An action may name schemas, which are looked up
when it acts, so that a later change to such a schema shows in what the action does. An
action that needs a value of some type asks for it first and faults on any other.
-/
namespace Schemata

/-- A type that an action can be restricted to. -/
inductive TypeTag where
  | null | missing | bool | int | float | str | list | tuple | dict
  deriving DecidableEq, Repr

def Value.isOf : TypeTag → Value → Bool
  | .null,.null | .missing,.missing | .bool,.bool _ | .int,.int _ | .float,.float _
  | .str,.str _ | .list,.list .. | .tuple,.tuple .. | .dict,.dict .. => true
  | _,_ => false

inductive Action (α : Type) where
  | same
  | constant (result : Value)
  | accept (result : Value)
  | acceptInput
  | refuse (reason : Value)
  | reject (issue : Issue)
  | complain (message : String)
  | raise (fault : Fault)
  | outcomeOf (schema : α)
  | outputOf (schema : α)
  | onlyFor (tag : TypeTag) (action : Action α)
  | orIfFalse (default : Value)
  | orIfAbsent (default : Value)
  | add (n : Number)
  | multiply (n : Number)
  | greaterThan (n : Number)
  | lessThan (n : Number)
  | even
  | equals (other : Value)
  | append (ending : String)
  | upperCase
  | readInteger
  | size
  | text
  | truth
  | wrap
  | copy
  | get (key : Value)
  | put (key bound : Value)
  | ordered (first second : Value)

/-- The text of an error raised with arguments: of one argument its text, or how it is
shown where it is a missing key; of several the tuple of them. -/
def Fault.argumentText (kind : Option ErrorKind) : List Value → String
  | [] => ""
  | [argument] => if kind = some .key then argument.display else argument.written
  | arguments => Text.tupled (arguments.map Value.display)

/-- The fault of a kind, or an abort, raised with arguments. -/
def Fault.raisedWith (kind : Option ErrorKind) (arguments : List Value) : Fault :=
  let text := argumentText kind arguments
  match kind with
  | some kind => .error kind text
  | none => .abort text

namespace Value

def wrongType {α : Type} (complaint : String) : Except Fault α := .error (.error .type complaint)

def needNumber (value : Value) : Except Fault Number :=
  match value.number? with
  | some n => .ok n
  | none => wrongType "not a number"

def needText : Value → Except Fault String
  | str s => .ok s
  | _ => wrongType "not a string"

def needDict : Value → Except Fault Entries
  | dict _ entries => .ok entries
  | _ => wrongType "not a dict"

def needKey (key : Value) : Except Fault Unit :=
  match key.unhashable? with
  | some type => wrongType ("unhashable type: '" ++ type ++ "'")
  | none => .ok ()

def lookUp (value key : Value) : Except Fault Value := do
  let entries ← value.needDict
  key.needKey
  match entries.find? key with
  | some bound => return bound
  | none => .error (.error .key key.display)

def size : Value → Except Fault Nat
  | str s => .ok s.length
  | list _ items | tuple _ items => .ok items.length
  | dict _ entries => .ok entries.length
  | _ => wrongType "no length"

/-- The integer written in decimal digits, with a minus sign before a negative one. -/
def readInteger (text : String) : Except Fault Int :=
  let read := match text.toList with
    | '-' :: digits => (Decimal.natural? digits).map fun n => -(n : Int)
    | digits => (Decimal.natural? digits).map Int.ofNat
  match read with
  | some i => .ok i
  | none => .error (.error .value ("not an integer: " ++ text))

def wrapped (serial : Nat) : Value → Value
  | list identity items => list identity items
  | value => list (.made serial) [value]

def copied (serial : Nat) : Value → Value
  | list _ items => list (.made serial) items
  | dict _ entries => dict (.made serial) entries
  | value => value

end Value

namespace Action

/-- The value of an action that computes one from the value alone. -/
def compute {α : Type} (serial : Nat) : Action α → Value → Except Fault Value
  | orIfFalse default,v => do return if ← v.truth then v else default
  | orIfAbsent default,v => .ok (if v.isAbsent then default else v)
  | add n,v => do return (← (← v.needNumber).add n).toValue
  | multiply n,v => do return (← (← v.needNumber).mul n).toValue
  | greaterThan n,v => do return .bool (n.less (← v.needNumber))
  | lessThan n,v => do return .bool ((← v.needNumber).less n)
  | even,v => do return .bool (← v.needNumber).isEven
  | equals other,v => v.equals other
  | append ending,v => do return .str ((← v.needText) ++ ending)
  | upperCase,v => do return .str ((← v.needText).map Char.toUpper)
  | readInteger,v => do return .int (← Value.readInteger (← v.needText))
  | size,v => do return .int (← v.size)
  | text,v => .ok (.str v.written)
  | truth,v => do return .bool (← v.truth)
  | wrap,v => .ok (v.wrapped serial)
  | copy,v => .ok (v.copied serial)
  | get key,v => v.lookUp key
  | put key bound,v => do
    let entries ← v.needDict
    key.needKey
    return .dict (.made serial) (entries.insert key bound)
  | ordered first second,v => do
    let low ← (← v.lookUp first).needNumber
    let high ← (← v.lookUp second).needNumber
    return .bool (low.atMost high)
  | constant result,_ => .ok result
  | accept result,_ => .ok (.ok result)
  | acceptInput,v => .ok (.ok v)
  | refuse reason,_ => .ok (.err reason)
  | reject issue,_ => .ok (.err (.issue issue))
  | _,v => .ok v

/-- An action that calls a method of what stands for a schema. -/
def ofPart {α : Type} (method : String) (calling : α → Action α) : Part α → Action α
  | .schema child => calling child
  | .other value => raise (.noAttribute value.typeName method)

/-- What an action gives back. Without a context there is no stage to complain in. -/
def act {α : Type} (schemas : α → Parser) (context : Option Context) (serial : Nat) :
    Action α → Value → Run Value
  | complain message,_ => match context with
    | some context => return .err (.issue (context.issue message))
    | none => Run.fail (.noAttribute Value.null.typeName "fail")
  | raise fault,_ => Run.fail fault
  | outcomeOf schema,v => do
    match ← (schemas schema).read serial v with
    | .ok output => return .ok output
    | .error issue => return .err (.issue issue)
  | outputOf schema,v => (schemas schema).demand serial v
  | onlyFor tag action,v => if v.isOf tag then action.act schemas context serial v else return v
  | action,v => Run.lift (action.compute serial v)

end Action

/-- What is given where a stage function is expected. -/
inductive Callback (α : Type) where
  | routine (label : Option String) (action : Action α)
  | inert (object : Value)

namespace Callback

def callable {α : Type} : Callback α → Bool
  | routine .. => true
  | inert _ => false

def stage {α : Type} (schemas : α → Parser) : Callback α → Stage
  | routine label action => .function label fun serial value context =>
    action.act schemas (some context) serial value
  | inert object => .inert object

/-- Calls a callback outside of any stage. -/
def apply {α : Type} (schemas : α → Parser) : Callback α → Value → Run Value
  | routine _ action,value => action.act schemas none (value.freshFrom 0) value
  | inert object,_ => Run.fail (.notCallable object)

end Callback
end Schemata
