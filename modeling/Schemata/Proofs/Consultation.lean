import Schemata.Proofs.Structural

/-!
The calls that a reading makes of its user's functions. A refinement and a check are called
when those before them accepted, the function of a transform on the output of the inner
schema, and a function of a child in every reading of the child that the structural step comes
to. An abort in a call is the end of the whole reading, and so is what a mapping refuses; with proper
messages nothing else makes a reading fault. An issue that a refinement or a check hands over is the
answer.
-/
namespace Schemata

/-- One call of a stage: from which serial on, on what, and in which context. -/
structure Consultation where
  stage : Stage
  serial : Nat
  value : Value
  context : Context

namespace Consultation

def reply (consultation : Consultation) : Run Value :=
  consultation.stage.call consultation.serial consultation.value consultation.context

/-- The stage hands the issue over, to be answered as it is. -/
def Hands (consultation : Consultation) (issue : Issue) : Prop :=
  consultation.reply.outcome = .ok (.err (.issue issue))

/-- The issue is one that the stage makes in its own context. -/
def Owns (consultation : Consultation) (issue : Issue) : Prop :=
  ∃ message, issue = consultation.context.issue message

theorem Owns.simple {consultation : Consultation} {issue : Issue}
    (owned : consultation.Owns issue) : issue.isAggregate = false := by
  obtain ⟨message,rfl⟩ := owned
  rfl

end Consultation

namespace Node

def stages (content : Node Stage Schema) : List Stage :=
  content.config.refines ++ content.config.checks.map (·.1) ++
    match content.form with
    | .transform _ function => [function]
    | _ => []

inductive Refining (source : Kind) (serial : Nat) (input : Value) :
    List Stage → Value → Consultation → Prop
  | first {stage : Stage} {rest : List Stage} {current : Value} :
      Refining source serial input (stage :: rest) current
        ⟨stage,serial,current,.refine input source⟩
  | later {stage : Stage} {rest : List Stage} {current next : Value} {consultation : Consultation}
      (accepted : (stage.consult serial current (.refine input source) none).outcome =
        .ok (.ok next))
      (calls : Refining source serial input rest next consultation) :
      Refining source serial input (stage :: rest) current consultation

inductive Checking (source : Kind) (serial : Nat) (input output : Value) :
    List (Stage × Value) → Consultation → Prop
  | first {check : Stage × Value} {rest : List (Stage × Value)} {verdict : Value}
      (worded : (Message.chosen check.2 "Check failed").outcome = .ok verdict) :
      Checking source serial input output (check :: rest)
        ⟨check.1,serial,output,.check input output source⟩
  | later {check : Stage × Value} {rest : List (Stage × Value)} {verdict passed : Value}
      {consultation : Consultation}
      (worded : (Message.chosen check.2 "Check failed").outcome = .ok verdict)
      (accepted : (check.1.consult serial output (.check input output source)
        (some verdict)).outcome = .ok (.ok passed))
      (calls : Checking source serial input output rest consultation) :
      Checking source serial input output (check :: rest) consultation

/-- The calls that a reading makes of the refinements and the checks of its node. -/
inductive Asks (content : Node Stage Schema) (serial : Nat) (value : Value) :
    Consultation → Prop
  | refinement {consultation : Consultation}
      (calls : Refining content.kind serial value content.config.refines value consultation) :
      Asks content serial value consultation
  | check {current output : Value} {consultation : Consultation}
      (entered : content.Enters serial value current)
      (answered : (content.structural serial current).outcome = .ok (.ok output))
      (calls : Checking content.kind serial current output content.config.checks consultation) :
      Asks content serial value consultation

end Node

/-- The calls that a reading with a schema comes to, its own and those of its children. -/
inductive Schema.Consults : Schema → Nat → Value → Consultation → Prop
  | asked {content : Node Stage Schema} {serial : Nat} {input : Value}
      {consultation : Consultation} (asks : content.Asks serial input consultation) :
      Consults (.node content) serial input consultation
  | transformed {content : Node Stage Schema} {serial : Nat} {input current output : Value}
      {inner : Schema} {function : Stage} (entered : content.Enters serial input current)
      (shape : content.form = .transform inner function)
      (answered : (inner.parser.read serial current).outcome = .ok (.ok output)) :
      Consults (.node content) serial input
        ⟨function,serial,output,.transform output inner.kind⟩
  | nested {content : Node Stage Schema} {serial inner : Nat} {input current item : Value}
      {child : Schema} {consultation : Consultation}
      (entered : content.Enters serial input current)
      (reads : content.form.Reads serial current child inner item)
      (calls : Consults child inner item consultation) :
      Consults (.node content) serial input consultation

/-- What mappings refuse a reading with a schema, where it comes to them itself or in a reading of a
child. -/
inductive Schema.Denied : Schema → Nat → Value → Fault → Prop
  | here {content : Node Stage Schema} {serial : Nat} {input current : Value} {fault : Fault}
      (entered : content.Enters serial input current)
      (denies : content.form.Denies serial current fault) :
      Denied (.node content) serial input fault
  | nested {content : Node Stage Schema} {serial inner : Nat} {input current item : Value}
      {child : Schema} {fault : Fault} (entered : content.Enters serial input current)
      (reads : content.form.Reads serial current child inner item)
      (denied : Denied child inner item fault) :
      Denied (.node content) serial input fault

namespace Node

variable {source : Kind} {serial : Nat} {input : Value}

section

variable {stages : List Stage} {current : Value} {consultation : Consultation}

theorem Refining.mem (calls : Refining source serial input stages current consultation) :
    consultation.stage ∈ stages := by
  induction calls with
  | first => exact List.mem_cons_self
  | later _ _ ih => exact List.mem_cons_of_mem _ ih

theorem Refining.endedBy (calls : Refining source serial input stages current consultation)
    {text : String} (aborted : consultation.reply.outcome = .error (.abort text)) :
    (refined source serial input stages current).EndedBy consultation.reply (.abort text) := by
  induction calls with
  | first => exact (Stage.consult_endedBy aborted).andThen _
  | later accepted _ ih => exact .afterOk accepted (ih aborted)

theorem Refining.answers (calls : Refining source serial input stages current consultation)
    {issue : Issue} (handed : consultation.Hands issue) :
    (refined source serial input stages current).outcome = .ok (.error issue) := by
  induction calls with
  | first => exact Run.andThen_outcome_issue.mpr (.inl (Stage.consult_of_handed handed))
  | later accepted _ ih => exact Run.andThen_outcome_issue.mpr (.inr ⟨_,accepted,ih handed⟩)

theorem refined_fault {fault : Fault}
    (faulted : (refined source serial input stages current).outcome = .error fault) :
    ∃ consultation text, Refining source serial input stages current consultation ∧
      fault = .abort text ∧ consultation.reply.outcome = .error fault := by
  induction stages generalizing current with
  | nil => cases faulted
  | cons stage rest ih =>
    rcases Run.andThen_outcome_fault.mp faulted with early | ⟨next,accepted,later⟩
    · obtain ⟨text,same,called⟩ := Stage.consult_fault (by simp) early
      exact ⟨_,text,.first,same,called⟩
    · obtain ⟨consultation,text,calls,ended⟩ := ih later
      exact ⟨consultation,text,.later accepted calls,ended⟩

theorem refined_issue {issue : Issue}
    (complained : (refined source serial input stages current).outcome = .ok (.error issue)) :
    ∃ consultation, Refining source serial input stages current consultation ∧
      (consultation.Hands issue ∨ consultation.Owns issue) := by
  induction stages generalizing current with
  | nil => cases complained
  | cons stage rest ih =>
    rcases Run.andThen_outcome_issue.mp complained with early | ⟨next,accepted,later⟩
    · exact ⟨_,.first,Stage.consult_issue early⟩
    · obtain ⟨consultation,calls,ended⟩ := ih later
      exact ⟨consultation,.later accepted calls,ended⟩

end

section

variable {output : Value} {checks : List (Stage × Value)} {consultation : Consultation}

theorem Checking.mem (calls : Checking source serial input output checks consultation) :
    consultation.stage ∈ checks.map (·.1) := by
  induction calls with
  | first => exact List.mem_cons_self
  | later _ _ _ ih => exact List.mem_cons_of_mem _ ih

theorem Checking.endedBy (calls : Checking source serial input output checks consultation)
    {text : String} (aborted : consultation.reply.outcome = .error (.abort text)) :
    (checked source serial input output checks).EndedBy consultation.reply (.abort text) := by
  induction calls with
  | first worded => exact .after worded ((Stage.consult_endedBy aborted).andThen _)
  | later worded accepted _ ih => exact .after worded (.afterOk accepted (ih aborted))

theorem Checking.answers (calls : Checking source serial input output checks consultation)
    {issue : Issue} (handed : consultation.Hands issue) :
    (checked source serial input output checks).outcome = .ok (.error issue) := by
  induction calls with
  | first worded =>
    refine Run.bind_outcome_ok.mpr ⟨_,worded,?_⟩
    exact Run.andThen_outcome_issue.mpr (.inl (Stage.consult_of_handed handed))
  | later worded accepted _ ih =>
    refine Run.bind_outcome_ok.mpr ⟨_,worded,?_⟩
    exact Run.andThen_outcome_issue.mpr (.inr ⟨_,accepted,ih handed⟩)

theorem checked_fault {fault : Fault} (proper : ∀ check ∈ checks, check.2.IsMessage)
    (faulted : (checked source serial input output checks).outcome = .error fault) :
    ∃ consultation text, Checking source serial input output checks consultation ∧
      fault = .abort text ∧ consultation.reply.outcome = .error fault := by
  induction checks with
  | nil => cases faulted
  | cons check rest ih =>
    obtain ⟨proper,others⟩ := List.forall_mem_cons.mp proper
    obtain ⟨message,picked⟩ := Message.chosen_of_isMessage proper "Check failed"
    have worded : (Message.chosen check.2 "Check failed").outcome = .ok (.str message) := by
      rw [picked,Run.pure_outcome]
    rcases Run.bind_outcome_error.mp faulted with impossible | ⟨verdict,given,faulted⟩
    · rw [worded] at impossible
      cases impossible
    · obtain rfl : .str message = verdict := by simpa [worded] using given
      rcases Run.andThen_outcome_fault.mp faulted with early | ⟨passed,accepted,later⟩
      · obtain ⟨text,same,called⟩ := Stage.consult_fault (by simp) early
        exact ⟨_,text,.first worded,same,called⟩
      · obtain ⟨consultation,text,calls,ended⟩ := ih others later
        exact ⟨consultation,text,.later worded accepted calls,ended⟩

theorem checked_issue {issue : Issue}
    (complained : (checked source serial input output checks).outcome = .ok (.error issue)) :
    ∃ consultation, Checking source serial input output checks consultation ∧
      (consultation.Hands issue ∨ consultation.Owns issue) := by
  induction checks with
  | nil => cases complained
  | cons check rest ih =>
    obtain ⟨verdict,worded,complained⟩ := Run.bind_outcome_ok.mp complained
    rcases Run.andThen_outcome_issue.mp complained with early | ⟨passed,accepted,later⟩
    · exact ⟨_,.first worded,Stage.consult_issue early⟩
    · obtain ⟨consultation,calls,ended⟩ := ih later
      exact ⟨consultation,.later worded accepted calls,ended⟩

end
end Node

namespace Schema

variable {schema : Schema} {serial : Nat} {value : Value} {content : Node Stage Schema}
  {consultation : Consultation}

theorem reads_child {child : Schema} {inner : Nat} {item : Value}
    (reads : content.form.Reads serial value child inner item) :
    child ∈ content.form.children := by
  cases reads with
  | slot admitted reached granted => exact Form.slot_child reached.mem
  | option shape reached =>
    rw [shape]
    exact reached.mem
  | wrapped shape =>
    rcases content with ⟨config,form⟩
    cases form <;> cases shape <;> exact List.mem_singleton_self _

theorem Consults.of_every {P : Stage → Prop} (calls : schema.Consults serial value consultation)
    (every : schema.Every fun content => ∀ stage ∈ content.stages, P stage) :
    P consultation.stage := by
  induction calls with
  | asked asks =>
    refine every.here _ (List.mem_append_left _ ?_)
    cases asks with
    | refinement calls => exact List.mem_append_left _ calls.mem
    | check _ _ calls => exact List.mem_append_right _ calls.mem
  | transformed _ shape _ =>
    refine every.here _ (List.mem_append_right _ ?_)
    simp [shape]
  | nested _ reads _ ih => exact ih (every.child (reads_child reads))

theorem read_endedBy_of_enters {current : Value}
    (entered : content.Enters serial value current) {α : Type} {part : Run α} {fault : Fault}
    (ended : ((content.structural serial current).andThen
      (content.checking serial current)).EndedBy part fault) :
    ((Schema.node content).parser.read serial value).EndedBy part fault := by
  rw [read_node]
  refine .afterOk entered.1 ?_
  rwa [if_neg entered.2]

/-- An abort in a call ends the reading with it. -/
theorem Consults.endedBy (calls : schema.Consults serial value consultation) {text : String}
    (aborted : consultation.reply.outcome = .error (.abort text)) :
    (schema.parser.read serial value).EndedBy consultation.reply (.abort text) := by
  induction calls with
  | asked asks =>
    cases asks with
    | refinement calls =>
      rw [read_node]
      exact (calls.endedBy aborted).andThen _
    | check entered answered calls =>
      exact read_endedBy_of_enters entered (.afterOk answered (calls.endedBy aborted))
  | transformed entered shape answered =>
    refine read_endedBy_of_enters entered (Run.EndedBy.andThen ?_ _)
    rw [Node.structural,shape]
    refine .afterOk answered ?_
    rw [parser_kind]
    exact Stage.consult_endedBy aborted
  | nested entered reads _ ih =>
    exact read_endedBy_of_enters entered
      ((Node.structural_endedBy reads (ih aborted)).andThen _)

/-- What a mapping refuses a reading that comes to it, be it a reading of a child, is what the
reading ends in. -/
theorem Denied.outcome {fault : Fault} (denied : schema.Denied serial value fault) :
    (schema.parser.read serial value).outcome = .error fault := by
  induction denied with
  | here entered denies =>
    have ended := Run.endedBy_self (Node.structural_of_denied denies)
    exact (read_endedBy_of_enters entered (ended.andThen _)).1
  | nested entered reads _ ih =>
    have ended := Node.structural_endedBy reads (Run.endedBy_self ih)
    exact (read_endedBy_of_enters entered (ended.andThen _)).1

def Worded (schema : Schema) : Prop :=
  schema.Every fun content => content.config.Worded ∧ content.form.Worded

/-- With proper messages a reading faults only by an abort in a call, or where a mapping refuses what
it is asked for. -/
theorem read_fault {fault : Fault} (worded : schema.Worded)
    (faulted : (schema.parser.read serial value).outcome = .error fault) :
    (∃ consultation text, schema.Consults serial value consultation ∧
      fault = .abort text ∧ consultation.reply.outcome = .error fault) ∨
    schema.Denied serial value fault := by
  induction schema using Schema.induction generalizing serial value with
  | node content below =>
    obtain ⟨proper,formed⟩ := worded.here
    rcases read_outcome_fault.mp faulted with refining | ⟨current,entered,looking⟩
    · obtain ⟨consultation,text,calls,ended⟩ := Node.refined_fault refining
      exact .inl ⟨consultation,text,.asked (.refinement calls),ended⟩
    rcases looking with looking | ⟨output,answered,checking⟩
    · cases Node.structural_fault proper formed looking with
      | reads reads ended =>
        have member := reads_child reads
        rcases below _ member (worded.child member) ended with
          ⟨consultation,text,calls,ended⟩ | denied
        · exact .inl ⟨consultation,text,.nested entered reads calls,ended⟩
        · exact .inr (.nested entered reads denied)
      | turns shape answered ended =>
        obtain ⟨text,same,called⟩ := Stage.consult_fault (by simp) ended
        exact .inl ⟨_,text,.transformed entered shape answered,same,called⟩
      | denies denied => exact .inr (.here entered denied)
    · obtain ⟨consultation,text,calls,ended⟩ := Node.checked_fault proper.checks checking
      exact .inl ⟨consultation,text,.asked (.check entered answered calls),ended⟩

theorem read_issue {issue : Issue}
    (complained : ((Schema.node content).parser.read serial value).outcome =
      .ok (.error issue)) :
    (∃ consultation, content.Asks serial value consultation ∧
        (consultation.Hands issue ∨ consultation.Owns issue)) ∨
      ∃ current, content.Enters serial value current ∧
        (content.structural serial current).outcome = .ok (.error issue) := by
  rcases read_outcome_issue.mp complained with refining | ⟨current,entered,looking⟩
  · obtain ⟨consultation,calls,ended⟩ := Node.refined_issue refining
    exact .inl ⟨consultation,.refinement calls,ended⟩
  rcases looking with looking | ⟨output,answered,checking⟩
  · exact .inr ⟨current,entered,looking⟩
  · obtain ⟨consultation,calls,ended⟩ := Node.checked_issue checking
    exact .inl ⟨consultation,.check entered answered calls,ended⟩

theorem read_of_handed (asks : content.Asks serial value consultation) {issue : Issue}
    (handed : consultation.Hands issue) :
    ((Schema.node content).parser.read serial value).outcome = .ok (.error issue) := by
  refine read_outcome_issue.mpr ?_
  cases asks with
  | refinement calls => exact .inl (calls.answers handed)
  | check entered answered calls =>
    exact .inr ⟨_,entered,.inr ⟨_,answered,calls.answers handed⟩⟩

def HandsOver (schema : Schema) (serial : Nat) (value : Value)
    (property : Consultation → Issue → Prop) : Prop :=
  ∀ consultation, schema.Consults serial value consultation →
    ∀ issue, consultation.Hands issue → property consultation issue

theorem HandsOver.child {current item : Value} {child : Schema} {inner : Nat}
    {property : Consultation → Issue → Prop}
    (handed : (Schema.node content).HandsOver serial value property)
    (entered : content.Enters serial value current)
    (reads : content.form.Reads serial current child inner item) :
    child.HandsOver inner item property :=
  fun consultation calls => handed consultation (.nested entered reads calls)

end Schema
end Schemata
