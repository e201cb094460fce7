import Schemata.Proofs.Outcome
import Schemata.Schema.Parsing

/-!
Schemas as trees. A property of all schemas is proved node by node from the children, and a
property of nodes is carried to every node of a tree. Reading with a node is opened here once:
the refinements are applied, a sentinel passes, and otherwise the structural step is followed
by the checks.
-/
namespace Schemata

namespace Form

variable {σ τ α β : Type}

def children : Form σ α → List α
  | array element _ _ => [element]
  | object fields _ => fields.map (·.2)
  | union options => options
  | optional inner | nullable inner | transform inner _ => [inner]
  | _ => []

theorem kind_map (stage : σ → τ) (child : α → β) (form : Form σ α) :
    (form.map stage child).kind = form.kind := by
  cases form <;> rfl

theorem sentinel_map (stage : σ → τ) (child : α → β) (form : Form σ α) :
    (form.map stage child).sentinel? = form.sentinel? := by
  cases form <;> rfl

end Form

namespace Schema

@[elab_as_elim]
theorem induction {motive : Schema → Prop}
    (node : ∀ content : Node Stage Schema, (∀ child ∈ content.form.children, motive child) →
      motive (.node content)) (schema : Schema) : motive schema := by
  refine Schema.rec (motive_1 := motive)
    (motive_2 := fun content => ∀ child ∈ content.form.children, motive child)
    (motive_3 := fun form => ∀ child ∈ form.children, motive child)
    (motive_4 := fun fields => ∀ field ∈ fields, motive field.2)
    (motive_5 := fun options => ∀ option ∈ options, motive option)
    (motive_6 := fun field => motive field.2)
    node (fun _ _ below => below) ?string ?number ?bigint ?boolean ?unknown ?any ?array ?object
    ?literal ?union ?optional ?nullable ?transform ?noFields ?moreFields ?noOptions ?moreOptions
    (fun _ _ below => below) schema
  case array | optional | nullable | transform =>
    intros
    simp_all [Form.children]
  case object =>
    intro fields flags below child member
    obtain ⟨field,present,rfl⟩ := List.mem_map.mp member
    exact below field present
  case union => exact fun _ below => below
  case moreFields | moreOptions =>
    intro first rest head tail item member
    rcases List.mem_cons.mp member with rfl | later
    · exact head
    · exact tail item later
  all_goals simp [Form.children]

inductive Every (property : Node Stage Schema → Prop) : Schema → Prop
  | node {content : Node Stage Schema} (here : property content)
      (below : ∀ child ∈ content.form.children, Every property child) :
      Every property (.node content)

variable {property : Node Stage Schema → Prop} {content : Node Stage Schema}

theorem Every.here (every : Every property (.node content)) : property content := by
  cases every with
  | node here _ => exact here

theorem Every.child (every : Every property (.node content)) {child : Schema}
    (member : child ∈ content.form.children) : Every property child := by
  cases every with
  | node _ below => exact below child member

theorem Every.leaf (here : property content) (childless : content.form.children = []) :
    Every property (.node content) :=
  .node here (by simp [childless])

theorem Every.parent (here : property content) {child : Schema}
    (single : content.form.children = [child]) (below : Every property child) :
    Every property (.node content) :=
  .node here (by simpa [single] using below)

theorem Every.of_forall (all : ∀ content, property content) (schema : Schema) :
    Every property schema := by
  induction schema using Schema.induction with
  | node content below => exact .node (all content) below

end Schema

namespace Node

def structural (content : Node Stage Schema) (serial : Nat) (value : Value) :
    Run (Except Issue Value) :=
  (content.form.map id Schema.parser).step content.config serial value

/-- The refinements accept the input, and what they make of it goes to the structural step. -/
def Enters (content : Node Stage Schema) (serial : Nat) (input current : Value) : Prop :=
  (refined content.kind serial input content.config.refines input).outcome = .ok (.ok current) ∧
    content.form.sentinel? ≠ some current

theorem Enters.unrefined {content : Node Stage Schema} {serial : Nat} {input current : Value}
    (entered : content.Enters serial input current) (unrefined : content.config.refines = []) :
    current = input := by
  have same := entered.1
  rw [unrefined] at same
  cases same
  rfl

theorem Enters.unique {content : Node Stage Schema} {serial : Nat}
    {input current other : Value} (first : content.Enters serial input current)
    (second : content.Enters serial input other) : current = other := by
  have same := first.1.symm.trans second.1
  simpa using same

def checking (content : Node Stage Schema) (serial : Nat) (current output : Value) :
    Run (Except Issue Value) :=
  checked content.kind serial current output content.config.checks

/-- The check has words for a failed verdict, and accepts the output. -/
def Passes (source : Kind) (serial : Nat) (input output : Value) (check : Stage × Value) : Prop :=
  ∃ verdict, (Message.chosen check.2 "Check failed").outcome = .ok verdict ∧
    ∃ passed, (check.1.consult serial output (.check input output source) (some verdict)).outcome =
      .ok (.ok passed)

/-- Checks accept together exactly when each of them does, and hand the output on as it is. -/
theorem checked_outcome_output {source : Kind} {serial : Nat} {input output answer : Value}
    {checks : List (Stage × Value)} :
    (checked source serial input output checks).outcome = .ok (.ok answer) ↔
      answer = output ∧ ∀ check ∈ checks, Passes source serial input output check := by
  induction checks with
  | nil => simp [checked,Run.pure_outcome,eq_comm]
  | cons check rest ih =>
    have first : (checked source serial input output (check :: rest)).outcome = .ok (.ok answer) ↔
        Passes source serial input output check ∧
          (checked source serial input output rest).outcome = .ok (.ok answer) := by
      simp only [checked,Run.bind_outcome_ok,Run.andThen_outcome_ok,Passes]
      grind
    rw [first,ih,List.forall_mem_cons]
    exact and_left_comm

theorem checking_output {content : Node Stage Schema} {serial : Nat}
    {current output answer : Value}
    (passed : (content.checking serial current output).outcome = .ok (.ok answer)) :
    answer = output := (checked_outcome_output.mp passed).1

end Node

namespace Schema

variable {content : Node Stage Schema} {serial : Nat} {input : Value}

theorem read_node (content : Node Stage Schema) (serial : Nat) (input : Value) :
    (Schema.node content).parser.read serial input =
      (Node.refined content.kind serial input content.config.refines input).andThen fun current =>
        if content.form.sentinel? = some current then pure (.ok current)
        else (content.structural serial current).andThen (content.checking serial current) := by
  rw [parser_eq]
  simp only [Schema.content,Node.parser,Node.read,Node.kind,Form.kind_map]
  congr 1
  funext current
  simp only [Node.validated,Node.kind,Form.sentinel_map,Form.kind_map,Node.structural]
  rfl

/-- Without refinements and checks a node does no more than look at the value, and a wrapper lets
its sentinel pass. -/
theorem read_of_bare (refines : content.config.refines = []) (checks : content.config.checks = [])
    (serial : Nat) (input : Value) :
    (Schema.node content).parser.read serial input =
      if content.form.sentinel? = some input then pure (.ok input)
      else content.structural serial input := by
  have checking : content.checking serial input = fun output => pure (.ok output) := by
    funext output
    rw [Node.checking,checks,Node.checked]
  rw [read_node,refines,Node.refined,Run.andThen,pure_bind]
  simp only [checking,Run.andThen_pure]

theorem read_outcome_fault {fault : Fault} :
    ((Schema.node content).parser.read serial input).outcome = .error fault ↔
      (Node.refined content.kind serial input content.config.refines input).outcome =
          .error fault ∨
        ∃ current, content.Enters serial input current ∧
          ((content.structural serial current).outcome = .error fault ∨ ∃ output,
            (content.structural serial current).outcome = .ok (.ok output) ∧
              (content.checking serial current output).outcome = .error fault) := by
  rw [read_node,Run.andThen_outcome_fault]
  apply or_congr_right
  apply exists_congr
  intro current
  by_cases sentinel : content.form.sentinel? = some current
  · simp [Node.Enters,sentinel,Run.pure_outcome]
  · simp [Node.Enters,sentinel,Run.andThen_outcome_fault]

theorem read_outcome_issue {issue : Issue} :
    ((Schema.node content).parser.read serial input).outcome = .ok (.error issue) ↔
      (Node.refined content.kind serial input content.config.refines input).outcome =
          .ok (.error issue) ∨
        ∃ current, content.Enters serial input current ∧
          ((content.structural serial current).outcome = .ok (.error issue) ∨ ∃ output,
            (content.structural serial current).outcome = .ok (.ok output) ∧
              (content.checking serial current output).outcome = .ok (.error issue)) := by
  rw [read_node,Run.andThen_outcome_issue]
  apply or_congr_right
  apply exists_congr
  intro current
  by_cases sentinel : content.form.sentinel? = some current
  · simp [Node.Enters,sentinel,Run.pure_outcome]
  · simp [Node.Enters,sentinel,Run.andThen_outcome_issue]

theorem read_outcome_output {output : Value} :
    ((Schema.node content).parser.read serial input).outcome = .ok (.ok output) ↔
      (Node.refined content.kind serial input content.config.refines input).outcome =
          .ok (.ok output) ∧ content.form.sentinel? = some output ∨
        ∃ current, content.Enters serial input current ∧
          (content.structural serial current).outcome = .ok (.ok output) ∧
          (content.checking serial current output).outcome = .ok (.ok output) := by
  rw [read_node,Run.andThen_outcome_ok]
  constructor
  · rintro ⟨current,refined,answered⟩
    by_cases sentinel : content.form.sentinel? = some current
    · rw [if_pos sentinel] at answered
      cases answered
      exact .inl ⟨refined,sentinel⟩
    · rw [if_neg sentinel] at answered
      obtain ⟨given,looked,passed⟩ := Run.andThen_outcome_ok.mp answered
      obtain rfl := Node.checking_output passed
      exact .inr ⟨current,⟨refined,sentinel⟩,looked,passed⟩
  · rintro (⟨refined,sentinel⟩ | ⟨current,⟨refined,sentinel⟩,looked,passed⟩)
    · exact ⟨output,refined,by rw [if_pos sentinel,Run.pure_outcome]⟩
    · refine ⟨current,refined,?_⟩
      rw [if_neg sentinel]
      exact Run.andThen_outcome_ok.mpr ⟨output,looked,passed⟩

end Schema
end Schemata
