import Schemata.Schema.Choice
import Schemata.Schema.Container

/-!
Reading a value with a schema. The refinements replace the input one after the other, the
form looks at the result, and the checks are asked about the output; the first issue ends
the run. A tree is read by folding `Node.parser` over it.
-/
namespace Schemata

/-- The structural step of a form whose children are parsers. -/
def Form.step (config : Config Stage) :
    Form Stage Parser → Nat → Value → Run (Except Issue Value)
  | string limits,_ => Scalar.string config limits
  | number whole limits,_ => Scalar.number config whole limits
  | bigint limits,_ => Scalar.bigint config limits
  | boolean,_ => Scalar.boolean config
  | unknown,_ | any,_ => fun value => return .ok value
  | array element limits immediate,serial => Sequence.step config element limits immediate serial
  | object fields flags,serial => Record.step config fields flags serial
  | literal values,_ => Choice.literal config values
  | union options,serial => Choice.union config options serial
  | optional inner,serial | nullable inner,serial => inner.read serial
  | transform inner function,serial => fun value =>
    (inner.read serial value).andThen fun output =>
      function.consult serial output (.transform output inner.kind) none

namespace Node

/-- Every refinement gets the result of the one before, and the input of the first for context. -/
def refined (source : Kind) (serial : Nat) (input : Value) :
    List Stage → Value → Run (Except Issue Value)
  | [],current => return .ok current
  | stage :: rest,current =>
    (stage.consult serial current (.refine input source) none).andThen
      (refined source serial input rest)

/-- Every check is asked about the same output, which stays as it is. -/
def checked (source : Kind) (serial : Nat) (input output : Value) :
    List (Stage × Value) → Run (Except Issue Value)
  | [] => return .ok output
  | check :: rest => do
    let verdict ← Message.chosen check.2 "Check failed"
    (check.1.consult serial output (.check input output source) (some verdict)).andThen fun _ =>
      checked source serial input output rest

def validated (node : Node Stage Parser) (serial : Nat) (value : Value) :
    Run (Except Issue Value) :=
  if node.form.sentinel? = some value then return .ok value
  else (node.form.step node.config serial value).andThen fun output =>
    checked node.kind serial value output node.config.checks

def read (node : Node Stage Parser) (serial : Nat) (value : Value) : Run (Except Issue Value) :=
  (refined node.kind serial value node.config.refines value).andThen (node.validated serial)

def parser (node : Node Stage Parser) : Parser := ⟨node.kind,node.read⟩

end Node

namespace Schema

mutual
def parser : Schema → Parser
  | node content => (contentParser content).parser
def contentParser : Node Stage Schema → Node Stage Parser
  | ⟨config,form⟩ => ⟨config,formParser form⟩
def formParser : Form Stage Schema → Form Stage Parser
  | .string limits => .string limits
  | .number whole limits => .number whole limits
  | .bigint limits => .bigint limits
  | .boolean => .boolean
  | .unknown => .unknown
  | .any => .any
  | .array element limits immediate => .array element.parser limits immediate
  | .object fields flags => .object (fieldParsers fields) flags
  | .literal values => .literal values
  | .union options => .union (optionParsers options)
  | .optional inner => .optional inner.parser
  | .nullable inner => .nullable inner.parser
  | .transform inner function => .transform inner.parser function
def fieldParsers : List (String × Schema) → List (String × Parser)
  | [] => []
  | field :: rest => fieldParser field :: fieldParsers rest
def fieldParser : String × Schema → String × Parser
  | (name,schema) => (name,schema.parser)
def optionParsers : List Schema → List Parser
  | [] => []
  | option :: rest => option.parser :: optionParsers rest
end

theorem fieldParsers_eq (fields : List (String × Schema)) :
    fieldParsers fields = fields.map fun field => (field.1,field.2.parser) := by
  induction fields with
  | nil => rfl
  | cons field rest ih => rw [fieldParsers,fieldParser,ih,List.map_cons]

theorem optionParsers_eq (options : List Schema) :
    optionParsers options = options.map parser := by
  induction options with
  | nil => rfl
  | cons option rest ih => rw [optionParsers,ih,List.map_cons]

theorem formParser_eq (form : Form Stage Schema) : formParser form = form.map id parser := by
  cases form <;> simp [formParser,Form.map,fieldParsers_eq,optionParsers_eq]

/-- A schema is read by its node over the parsers of its children. -/
theorem parser_eq (schema : Schema) : schema.parser =
    Node.parser ⟨schema.content.config,schema.content.form.map id parser⟩ := by
  rcases schema with ⟨config,form⟩
  rw [parser,contentParser,formParser_eq,content]

theorem parser_kind (schema : Schema) : schema.parser.kind = schema.kind := by
  rcases schema with ⟨config,form⟩
  rw [parser_eq]
  cases form <;> rfl

/-- The outcome of validating a value, as a run. -/
def safeParse (schema : Schema) (value : Value) : Run (Except Issue Value) :=
  schema.parser.read 0 value

def parse (schema : Schema) (value : Value) : Run Value := schema.parser.demand 0 value

def isValid (schema : Schema) (value : Value) : Run Bool := schema.parser.accepts 0 value

end Schema
end Schemata
