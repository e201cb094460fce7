import Mathlib.Data.List.Forall2
import Schemata.Proofs.Tree

/-!
Trees of one shape. Two trees vary when they agree node by node in everything but what a
variation leaves open: the configurations, the switches of arrays and of objects, and the
functions of transforms.
-/
namespace Schemata

/-- How the nodes of two trees may differ. -/
structure Variation where
  configs : Config Stage → Config Stage → Prop
  switches : Bool → Bool → Prop
  flags : Flags → Flags → Prop
  functions : Stage → Stage → Prop

def Variation.none : Variation := ⟨Eq,Eq,Eq,Eq⟩

inductive FieldsVaried {α : Type} (child : α → α → Prop) :
    List (String × α) → List (String × α) → Prop
  | nil : FieldsVaried child [] []
  | cons {name : String} {first second : α} {firsts seconds : List (String × α)}
      (head : child first second) (tail : FieldsVaried child firsts seconds) :
      FieldsVaried child ((name,first) :: firsts) ((name,second) :: seconds)

inductive Form.Varied {α : Type} (variation : Variation) (child : α → α → Prop) :
    Form Stage α → Form Stage α → Prop
  | string {limits : Limits Nat} : Varied variation child (.string limits) (.string limits)
  | number {whole : Option Value} {limits : Limits Number} :
      Varied variation child (.number whole limits) (.number whole limits)
  | bigint {limits : Limits Int} : Varied variation child (.bigint limits) (.bigint limits)
  | boolean : Varied variation child .boolean .boolean
  | unknown : Varied variation child .unknown .unknown
  | any : Varied variation child .any .any
  | array {first second : α} {limits : Limits Nat} {before after : Bool}
      (element : child first second) (switched : variation.switches before after) :
      Varied variation child (.array first limits before) (.array second limits after)
  | object {first second : List (String × α)} {before after : Flags}
      (fields : FieldsVaried child first second)
      (switched : variation.flags before after) :
      Varied variation child (.object first before) (.object second after)
  | literal {values : List Value} : Varied variation child (.literal values) (.literal values)
  | union {first second : List α} (options : List.Forall₂ child first second) :
      Varied variation child (.union first) (.union second)
  | optional {first second : α} (inner : child first second) :
      Varied variation child (.optional first) (.optional second)
  | nullable {first second : α} (inner : child first second) :
      Varied variation child (.nullable first) (.nullable second)
  | transform {first second : α} {before after : Stage} (inner : child first second)
      (function : variation.functions before after) :
      Varied variation child (.transform first before) (.transform second after)

/-- Trees that differ as the variation allows at any of their nodes. -/
inductive Schema.Varied (variation : Variation) : Schema → Schema → Prop
  | node {before after : Config Stage} {first second : Form Stage Schema}
      (config : variation.configs before after)
      (form : Form.Varied variation (Schema.Varied variation) first second) :
      Varied variation (.node ⟨before,first⟩) (.node ⟨after,second⟩)

section

variable {α β : Type} {child : α → α → Prop} {related : β → β → Prop} {f : α → β}

theorem FieldsVaried.names {first second : List (String × α)}
    (fields : FieldsVaried child first second) : second.map (·.1) = first.map (·.1) := by
  induction fields with
  | nil => rfl
  | cons _ _ ih => simp only [List.map_cons,ih]

theorem FieldsVaried.eq {first second : List (String × α)} (fields : FieldsVaried Eq first second) :
    first = second := by
  induction fields with
  | nil => rfl
  | cons head _ ih => rw [head,ih]

theorem FieldsVaried.map {first second : List (String × α)} (fields : FieldsVaried child first second)
    (lift : ∀ a ∈ first.map (·.2), ∀ b, child a b → related (f a) (f b)) :
    FieldsVaried related (first.map fun field => (field.1,f field.2))
      (second.map fun field => (field.1,f field.2)) := by
  induction fields with
  | nil => exact .nil
  | cons head _ ih =>
    obtain ⟨here,others⟩ := List.forall_mem_cons.mp lift
    exact .cons (here _ head) (ih others)

theorem optionsVaried_map {first second : List α} (options : List.Forall₂ child first second)
    (lift : ∀ a ∈ first, ∀ b, child a b → related (f a) (f b)) :
    List.Forall₂ related (first.map f) (second.map f) := by
  induction options with
  | nil => exact .nil
  | cons head _ ih =>
    obtain ⟨here,others⟩ := List.forall_mem_cons.mp lift
    exact .cons (here _ head) (ih others)

theorem Form.Varied.map {variation : Variation} {first second : Form Stage α}
    (varied : Form.Varied variation child first second)
    (lift : ∀ a ∈ first.children, ∀ b, child a b → related (f a) (f b)) :
    Form.Varied variation related (first.map id f) (second.map id f) := by
  cases varied with
  | string => exact .string
  | number => exact .number
  | bigint => exact .bigint
  | boolean => exact .boolean
  | unknown => exact .unknown
  | any => exact .any
  | literal => exact .literal
  | array element switched =>
    exact .array (lift _ (List.mem_singleton_self _) _ element) switched
  | object fields switched => exact .object (fields.map lift) switched
  | union options => exact .union (optionsVaried_map options lift)
  | optional inner => exact .optional (lift _ (List.mem_singleton_self _) _ inner)
  | nullable inner => exact .nullable (lift _ (List.mem_singleton_self _) _ inner)
  | transform inner function =>
    exact .transform (lift _ (List.mem_singleton_self _) _ inner) function

theorem Form.map_id {σ : Type} (form : Form σ α) : form.map id id = form := by
  cases form <;> simp [map]

theorem Form.Varied.imp {variation : Variation} {related : α → α → Prop}
    {first second : Form Stage α} (varied : Form.Varied variation child first second)
    (lift : ∀ a ∈ first.children, ∀ b, child a b → related a b) :
    Form.Varied variation related first second := by
  have mapped := varied.map (f := id) lift
  rwa [map_id,map_id] at mapped

end

/-- Tasks that are related through their parsers ask for the same items. -/
theorem Task.items_eq {κ : Type} {related : Task κ → Task κ → Prop}
    (item : ∀ task other, related task other → task.item = other.item) {first second : List (Task κ)}
    (tasks : List.Forall₂ related first second) :
    first.map (·.item) = second.map (·.item) := by
  induction tasks with
  | nil => rfl
  | cons head _ ih => rw [List.map_cons,List.map_cons,item _ _ head,ih]

theorem Sequence.tasks_related {related : Task Int → Task Int → Prop} {first second : Parser}
    (element : ∀ key item, related ⟨key,item,none,first⟩ ⟨key,item,none,second⟩)
    (items : List Value) :
    List.Forall₂ related (tasks first items) (tasks second items) := by
  rw [tasks,tasks,List.forall₂_map_left_iff,List.forall₂_map_right_iff,List.forall₂_same]
  exact fun entry _ => element _ _

theorem Record.tasks_related {child : Parser → Parser → Prop}
    {related : Task String → Task String → Prop} {first second : List (String × Parser)}
    (fields : FieldsVaried child first second)
    (field : ∀ key item refusal parser other, child parser other →
      related ⟨key,item,refusal,parser⟩ ⟨key,item,refusal,other⟩) (access : Access)
    (entries : Entries) :
    List.Forall₂ related (tasks first access entries) (tasks second access entries) := by
  induction fields with
  | nil => exact .nil
  | cons head _ ih => exact .cons (field _ _ _ _ _ head) ih

/-- What relates the readers of varied nodes over related readers relates the readers of varied
trees. -/
theorem Schema.Varied.parser {variation : Variation} {R : Parser → Parser → Prop}
    (node : ∀ {before after : Config Stage} {first second : Form Stage Parser},
      variation.configs before after → Form.Varied variation R first second →
        R (Node.parser ⟨before,first⟩) (Node.parser ⟨after,second⟩))
    {first second : Schema} (varied : Schema.Varied variation first second) :
    R first.parser second.parser := by
  induction first using Schema.induction generalizing second with
  | node content below =>
    cases varied with
    | node config form =>
      rw [parser_eq,parser_eq]
      exact node config (form.map fun child member _ varied => below child member varied)

theorem Form.Varied.kind {α : Type} {variation : Variation} {child : α → α → Prop}
    {first second : Form Stage α} (varied : Form.Varied variation child first second) :
    first.kind = second.kind := by
  cases varied <;> rfl

theorem Form.Varied.sentinel {α : Type} {variation : Variation} {child : α → α → Prop}
    {first second : Form Stage α} (varied : Form.Varied variation child first second) :
    first.sentinel? = second.sentinel? := by
  cases varied <;> rfl

end Schemata
