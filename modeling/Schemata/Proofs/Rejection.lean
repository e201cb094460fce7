import Schemata.Proofs.Complaints
import Schemata.Proofs.Variation

/-!
Ways to reject. A stage that complains in its context, one that gives back a failure with a text
and one that raises an error with that text come to the same issue. How a reading ends depends on
how its parts end and not on what they record, so that stages of a tree that differ only in how
they reject leave every result as it is.
-/
namespace Schemata

namespace Run

/-- The run without its record. -/
def silent {α : Type} (run : Run α) : Run α := ⟨[],run.outcome⟩

end Run

/-- The ways in which a call can reject with a message. -/
inductive Rejection (context : Context) (message : String) : Except Fault Value → Prop
  | complained : Rejection context message (.ok (.err (.issue (context.issue message))))
  | refused : Rejection context message (.ok (.err (.str message)))
  | raised {fault : Fault} (error : ∀ text, fault ≠ .abort text) (said : fault.text = message)
      (worded : message ≠ "") : Rejection context message (.error fault)

namespace Stage

variable {stage first second : Stage} {serial : Nat} {value : Value} {context : Context}

theorem consult_of_rejection {message : String}
    (rejects : Rejection context message (stage.call serial value context).outcome)
    (verdict : Option Value) : (stage.consult serial value context verdict).outcome =
      .ok (.error (context.issue message)) := by
  generalize called : (stage.call serial value context).outcome = outcome at rejects
  cases rejects with
  | complained => exact consult_of_handed called
  | refused =>
    have judging : (stage.call serial value context >>= judged verdict.isSome).outcome =
        .ok (.err (.str message),true) := by
      rw [Run.bind_outcome_of_ok called]
      rfl
    exact Run.bind_outcome_of_ok (Run.attempt_outcome_ok.mpr judging) _
  | @raised fault error said worded =>
    -- The fault is caught and told by its text, which an empty one would leave to its name.
    have judging : (stage.call serial value context >>= judged verdict.isSome).outcome =
        .error fault := Run.bind_outcome_of_error called _
    have caught := Run.attempt_outcome_caught.mpr ⟨error,judging⟩
    have reason : fault.reason = message := by rw [Fault.reason,said,if_neg worded]
    rw [consult,Run.bind_outcome_of_ok caught,← reason]
    rfl

/-- Wherever the functions do not end alike, both reject with the same message. -/
def Rephrases (first second : Stage) : Prop := ∀ serial value context,
  (first.call serial value context).outcome = (second.call serial value context).outcome ∨
    ∃ message, Rejection context message (first.call serial value context).outcome ∧
      Rejection context message (second.call serial value context).outcome

theorem Rephrases.consult (rephrases : first.Rephrases second) (serial : Nat) (value : Value)
    (context : Context) (verdict : Option Value) :
    (first.consult serial value context verdict).outcome =
      (second.consult serial value context verdict).outcome := by
  rcases rephrases serial value context with same | ⟨message,ours,theirs⟩
  · have judging := Run.bind_outcome_congr same fun reply =>
      (rfl : (judged verdict.isSome reply).outcome = _)
    exact Run.bind_outcome_congr (Run.attempt_outcome_congr judging) fun _ => rfl
  · rw [consult_of_rejection ours,consult_of_rejection theirs]

end Stage

/-- The same node but for how its refinements and its checks reject. -/
structure Config.Rephrases (first second : Config Stage) : Prop where
  message : first.message = second.message
  required : first.required = second.required
  refines : List.Forall₂ Stage.Rephrases first.refines second.refines
  checks : List.Forall₂ (fun ours theirs => ours.1.Rephrases theirs.1 ∧ ours.2 = theirs.2)
    first.checks second.checks

/-- Any function of a tree may reject in another way. -/
def Variation.phrasing : Variation :=
  { none with configs := Config.Rephrases, functions := Stage.Rephrases }

def Parser.silent (parser : Parser) : Parser :=
  ⟨parser.kind,fun serial value => (parser.read serial value).silent⟩

def Task.silent {κ : Type} (task : Task κ) : Task κ := { task with parser := task.parser.silent }

section

variable {κ : Type}

theorem Task.read_silent (serial : Nat) (task : Task κ) :
    (task.silent.read serial).outcome = (task.read serial).outcome := by
  rcases task with ⟨key,item,refusal,parser⟩
  cases refusal <;> rfl

theorem visit_silent (immediate : Bool) (serial : Nat) (tasks : List (Task κ)) :
    (visit immediate serial (tasks.map Task.silent)).outcome =
      (visit immediate serial tasks).outcome := by
  induction tasks with
  | nil => rfl
  | cons task rest ih =>
    refine Run.bind_outcome_congr (Task.read_silent serial task) fun answer => ?_
    rcases answer with issue | output
    · cases immediate
      · exact Run.map_outcome_congr ih _
      · rfl
    · exact Run.map_outcome_congr ih _

theorem unchanged_silent (visited : Visit κ) (tasks : List (Task κ)) :
    visited.unchanged (tasks.map Task.silent) = visited.unchanged tasks := by
  rw [Visit.unchanged,Visit.unchanged,List.map_map]
  rfl

end

section

variable {config : Config Stage} {serial : Nat} {value : Value}

theorem Limit.guard_outcome_congr {β : Type} {limit : Option (Limit β)} {violated : β → Bool}
    {complaint : Complaint} {default : String} {next last : Run (Except Issue Value)}
    (same : next.outcome = last.outcome) :
    (guard limit violated complaint default next).outcome =
      (guard limit violated complaint default last).outcome := by
  let related (first second : Run (Except Issue Value)) := first.outcome = second.outcome
  have reflexive (run : Run (Except Issue Value)) : related run run := rfl
  exact guard_related reflexive same

theorem Sequence.step_silent (element : Parser) (limits : Limits Nat) (immediate : Bool) :
    (step config element.silent limits immediate serial value).outcome =
      (step config element limits immediate serial value).outcome := by
  have reads (isList : Bool) (serial : Nat) (items : List Value) :
      (read config element.silent limits immediate isList serial value items).outcome =
        (read config element limits immediate isList serial value items).outcome := by
    have tasks : tasks element.silent items = (tasks element items).map Task.silent := by
      simp [Sequence.tasks,Task.silent]
    refine Limit.guard_outcome_congr (Limit.guard_outcome_congr ?_)
    rw [tasks]
    refine Run.bind_outcome_congr (visit_silent immediate serial _) fun visited => ?_
    rw [unchanged_silent]
  cases value
  case list identity items => exact reads true _ items
  case tuple identity items => exact reads false _ items
  all_goals rfl

theorem Record.step_silent (fields : List (String × Parser)) (flags : Flags) :
    (step config (fields.map fun field => (field.1,field.2.silent)) flags serial value).outcome =
      (step config fields flags serial value).outcome := by
  have reads (isDict : Bool) (serial : Nat) (access : Access) (entries : Entries) :
      (read config (fields.map fun field => (field.1,field.2.silent)) flags isDict serial value
        access entries).outcome =
        (read config fields flags isDict serial value access entries).outcome := by
    have tasks : tasks (fields.map fun field => (field.1,field.2.silent)) access entries =
        (tasks fields access entries).map Task.silent := by
      simp [Record.tasks,Task.silent]
    rw [read,read,tasks]
    refine Run.bind_outcome_congr (visit_silent flags.immediate serial _) fun visited => ?_
    rw [unchanged_silent]
  cases value
  case dict identity entries => exact reads true _ _ entries
  case mapping identity entries => exact reads false _ _ entries
  all_goals rfl

theorem Choice.firstMatch_silent (options : List Parser) :
    (firstMatch serial value (options.map Parser.silent)).outcome =
      (firstMatch serial value options).outcome := by
  induction options with
  | nil => rfl
  | cons option rest ih =>
    refine Run.bind_outcome_congr rfl fun answer => ?_
    rcases answer with issue | output
    · exact ih
    · rfl

theorem Choice.union_silent (options : List Parser) :
    (union config (options.map Parser.silent) serial value).outcome =
      (union config options serial value).outcome := by
  refine Run.bind_outcome_congr (firstMatch_silent options) fun matched => ?_
  rw [List.length_map]

/-- How a structural step ends depends on how the readings of the children end. -/
theorem Form.step_silent (form : Form Stage Parser) :
    ((form.map id Parser.silent).step config serial value).outcome =
      (form.step config serial value).outcome := by
  cases form with
  | array element limits immediate => exact Sequence.step_silent element limits immediate
  | object fields flags => exact Record.step_silent fields flags
  | union options => exact Choice.union_silent options
  | transform inner function => exact Run.andThen_outcome_congr rfl fun output => rfl
  | _ => rfl

end

section

variable {config before after : Config Stage} {first second : Form Stage Parser} {serial : Nat}
  {value : Value}

/-- Two parsers of one kind whose readings end alike. -/
def Parser.EndsLike (first second : Parser) : Prop := first.silent = second.silent

theorem Parser.endsLike_iff {first second : Parser} : first.EndsLike second ↔
    first.kind = second.kind ∧ ∀ serial value,
      (first.read serial value).outcome = (second.read serial value).outcome := by
  simp [EndsLike,silent,Run.silent,funext_iff]

theorem Form.step_config (message : before.message = after.message)
    (required : before.required = after.required) (form : Form Stage Parser) :
    form.step before = form.step after := by
  rcases before with ⟨_,_,refines,checks⟩
  obtain rfl := message
  obtain rfl := required
  cases form <;> rfl

theorem Form.Varied.step_outcome (varied : first.Varied .phrasing Parser.EndsLike second) :
    (first.step config serial value).outcome = (second.step config serial value).outcome := by
  rw [← step_silent first,← step_silent second]
  have silent : (first.map id Parser.silent).Varied .phrasing Eq (second.map id Parser.silent) :=
    varied.map fun parser _ other alike => alike
  -- Over equal children only the function of a transform is left to compare.
  generalize first.map id Parser.silent = ours at silent ⊢
  generalize second.map id Parser.silent = theirs at silent ⊢
  cases silent with
  | @array _ _ limits old new element switched =>
    obtain rfl : old = new := switched
    rw [element]
  | @object _ _ old new fields switched =>
    obtain rfl : old = new := switched
    rw [fields.eq]
  | union options =>
    rw [List.forall₂_eq_eq_eq] at options
    rw [options]
  | optional inner | nullable inner => rw [inner]
  | transform inner function =>
    rw [inner]
    exact Run.andThen_outcome_congr rfl fun output => function.consult _ _ _ _
  | _ => rfl

theorem Node.refined_outcome {source : Kind} {input : Value} {ours theirs : List Stage}
    (refines : List.Forall₂ Stage.Rephrases ours theirs) (current : Value) :
    (refined source serial input ours current).outcome =
      (refined source serial input theirs current).outcome := by
  induction refines generalizing current with
  | nil => rfl
  | cons head _ ih => exact Run.andThen_outcome_congr (head.consult _ _ _ _) ih

theorem Node.checked_outcome {source : Kind} {input output : Value}
    {ours theirs : List (Stage × Value)}
    (checks : List.Forall₂ (fun ours theirs => ours.1.Rephrases theirs.1 ∧ ours.2 = theirs.2)
      ours theirs) :
    (checked source serial input output ours).outcome =
      (checked source serial input output theirs).outcome := by
  induction checks with
  | nil => rfl
  | cons head _ ih =>
    obtain ⟨rephrases,message⟩ := head
    rw [checked,checked,message]
    refine Run.bind_outcome_congr rfl fun verdict => ?_
    exact Run.andThen_outcome_congr (rephrases.consult _ _ _ _) fun _ => ih

theorem Node.parser_endsLike (config : before.Rephrases after)
    (varied : first.Varied .phrasing Parser.EndsLike second) :
    (Node.parser ⟨before,first⟩).EndsLike (Node.parser ⟨after,second⟩) := by
  refine Parser.endsLike_iff.mpr ⟨varied.kind,fun serial value => ?_⟩
  have kinds : Node.kind (⟨before,first⟩ : Node Stage Parser) = Node.kind ⟨after,second⟩ :=
    varied.kind
  simp only [parser,read,kinds]
  refine Run.andThen_outcome_congr (refined_outcome config.refines value) fun current => ?_
  simp only [validated,kinds,varied.sentinel]
  split
  · rfl
  · refine Run.andThen_outcome_congr ?_ fun output => checked_outcome config.checks
    rw [Form.step_config config.message config.required]
    exact varied.step_outcome

end

namespace Schema

/-- Where a refinement, a check or the function of a transform rejects with a message, it does not
matter in which way it does: every value gives the same output or the same issue. -/
theorem safe_parse_rephrased (first second : Schema) (rephrased : first.Varied .phrasing second)
    (value : Value) : (first.safeParse value).outcome = (second.safeParse value).outcome := by
  have alike : first.parser.EndsLike second.parser := rephrased.parser Node.parser_endsLike
  exact (Parser.endsLike_iff.mp alike).2 0 value

/-- Where the fields of one record complain, those of the other raise an error or give back a
failure with the same text. -/
theorem safe_parse_rephrased_fields :
    let odd (reject : Context → Run Value) : Stage := .function none fun _ value context =>
      if value = .int 3 then reject context else return value
    let complain (context : Context) : Run Value := return .err (.issue (context.issue "odd"))
    let refuse (_ : Context) : Run Value := return .err (.str "odd")
    let raise (_ : Context) : Run Value := Run.fail (.error .value "odd")
    let schema (first second third : Context → Run Value) : Schema := .node ⟨.empty,.object
      [("a",.node ⟨{ Config.empty with refines := [odd first] },.number none .none⟩),
        ("b",.node ⟨{ Config.empty with checks := [(odd second,.null)] },.any⟩),
        ("c",.node ⟨.empty,.transform (.node ⟨.empty,.any⟩) (odd third)⟩)] .off⟩
    let input : Value := .dict (.given 0)
      [(.str "a",.int 3),(.str "b",.int 3),(.str "c",.int 3)]
    ((schema complain complain complain).safeParse input).outcome =
        ((schema raise refuse raise).safeParse input).outcome ∧
      ((schema raise refuse raise).safeParse input).outcome =
        .ok (.error (.object "Object fields failed validation" none
          [("a",.staged .refine "odd" "number" none),("b",.staged .check "odd" "any" none),
            ("c",.staged .transform "odd" "any" none)])) := by
  intro odd complain refuse raise schema input
  have rephrases (reject : Context → Run Value)
      (rejects : ∀ context, Rejection context "odd" (reject context).outcome) :
      (odd complain).Rephrases (odd reject) := by
    intro serial value context
    have called (reject : Context → Run Value) :
        ((odd reject).call serial value context).outcome =
          (if value = .int 3 then reject context else return value : Run Value).outcome :=
      Run.bind_outcome_of_ok rfl _
    rw [called,called]
    by_cases three : value = .int 3
    · rw [if_pos three,if_pos three]
      exact .inr ⟨"odd",.complained,rejects context⟩
    · rw [if_neg three,if_neg three]
      exact .inl rfl
  have refuses := rephrases refuse fun context => .refused
  have raises := rephrases raise fun context => .raised (by simp) rfl (by simp)
  have empty : (Config.empty : Config Stage).Rephrases .empty := ⟨rfl,rfl,.nil,.nil⟩
  have fields : (schema complain complain complain).Varied .phrasing (schema raise refuse raise) :=
    .node empty <| .object (.cons (.node ⟨rfl,rfl,.cons raises .nil,.nil⟩ .number)
      (.cons (.node ⟨rfl,rfl,.nil,.cons ⟨refuses,rfl⟩ .nil⟩ .any)
        (.cons (.node empty (.transform (.node empty .any) raises)) .nil))) rfl
  exact ⟨safe_parse_rephrased _ _ fields input,rfl⟩

end Schema
end Schemata
