import Schemata.Node.Setting
import Schemata.Proofs.Recording

/-!
The order of a reading. The refinements and the checks of a node are consulted in the order in
which they were given to it, whatever else was set in between; the structural step stands between
them, and the first stage that does not accept ends the reading. What a reading records is what
these parts record, one after the other.
-/
namespace Schemata

namespace Setting

variable {σ : Type}

def refinement? : Setting σ → Option σ
  | refine stage => some stage
  | _ => none

def check? : Setting σ → Option (σ × Value)
  | check stage message => some (stage,message)
  | _ => none

def required? : Setting σ → Option Value
  | required message => some message
  | _ => none

end Setting

namespace Node

variable {σ α : Type} {node built : Node σ α}

/-- A bound is written into the form alone. -/
theorem bounded_ok {config : Config σ} {form : Form σ α} {side : Side} {bound message : Value}
    (configured : (do return ⟨config,← form.bounded side bound message⟩) = Except.ok built) :
    built.config = config ∧ form.bounded side bound message = .ok built.form := by
  rcases changed : form.bounded side bound message with error | other
  · rw [changed] at configured
    cases configured
  · rw [changed] at configured
    cases configured
    exact ⟨rfl,rfl⟩

theorem configure_config {setting : Setting σ} (configured : node.configure setting = .ok built) :
    built.config = ⟨node.config.message,setting.required?.getD node.config.required,
      node.config.refines ++ setting.refinement?.toList,
      node.config.checks ++ setting.check?.toList⟩ := by
  rcases node with ⟨config,form⟩
  cases setting with
  | least bound message | greatest bound message =>
    rw [(bounded_ok configured).1]
    simp [Setting.required?,Setting.refinement?,Setting.check?]
  | required message =>
    simp only [configure] at configured
    split at configured
    · cases configured
      simp [Setting.required?,Setting.refinement?,Setting.check?]
    · cases configured
  | whole message | refine stage | check stage message | immediate enabled | strict enabled
  | pathed enabled =>
    cases form <;> cases configured <;>
      simp [Setting.required?,Setting.refinement?,Setting.check?]

theorem configure_stages {setting : Setting σ} (configured : node.configure setting = .ok built) :
    built.config.refines = node.config.refines ++ setting.refinement?.toList ∧
      built.config.checks = node.config.checks ++ setting.check?.toList := by
  rw [configure_config configured]
  exact ⟨rfl,rfl⟩

/-- Refinements and checks are kept in the order of their settings, each among its own kind. -/
theorem configured_stages {settings : List (Setting σ)}
    (configured : settings.foldlM configure node = .ok built) :
    built.config.refines = node.config.refines ++ settings.filterMap Setting.refinement? ∧
      built.config.checks = node.config.checks ++ settings.filterMap Setting.check? := by
  induction settings generalizing node with
  | nil =>
    cases configured
    simp
  | cons setting rest ih =>
    rw [List.foldlM_cons] at configured
    rcases started : node.configure setting with error | next
    · rw [started] at configured
      cases configured
    · rw [started] at configured
      obtain ⟨refines,checks⟩ := ih configured
      obtain ⟨refining,checking⟩ := configure_stages started
      rw [refines,checks,refining,checking]
      simp only [List.filterMap_eq_flatMap_toList,List.flatMap_cons,List.append_assoc,and_self]

end Node

namespace Run

theorem events_prefix_bind {α β : Type} (first : Run α) (next : α → Run β) :
    first.events <+: (first >>= next).events := by
  rcases first with ⟨events,fault | a⟩
  · exact List.prefix_rfl
  · exact ⟨_,rfl⟩

theorem output_or_stopped (run : Run (Except Issue Value)) :
    (∃ output, run.outcome = .ok (.ok output)) ∨ ∀ output, run.outcome ≠ .ok (.ok output) := by
  by_cases accepted : ∃ output, run.outcome = .ok (.ok output)
  · exact .inl accepted
  · exact .inr fun output given => accepted ⟨output,given⟩

theorem andThen_of_output {first : Run (Except Issue Value)} {output : Value}
    {next : Value → Run (Except Issue Value)} (done : first.outcome = .ok (.ok output)) :
    first.andThen next = ⟨first.events ++ (next output).events,(next output).outcome⟩ := by
  rcases first with ⟨events,ended⟩
  obtain rfl : ended = .ok (.ok output) := done
  rfl

theorem andThen_of_stopped {first : Run (Except Issue Value)}
    {next : Value → Run (Except Issue Value)}
    (stopped : ∀ output, first.outcome ≠ .ok (.ok output)) :
    first.andThen next = ⟨first.events,first.outcome⟩ := by
  rcases first with ⟨events,fault | issue | output⟩
  · rfl
  · simp [andThen,bind_ok,pure_eq]
  · exact (stopped output rfl).elim

end Run

/-- A consultation with the words for a failed verdict, where a verdict is asked. -/
structure Question extends Consultation where
  verdict : Option Value

namespace Question

def answer (question : Question) : Run (Except Issue Value) :=
  question.stage.consult question.serial question.value question.context question.verdict

def Accepts (question : Question) (output : Value) : Prop :=
  question.answer.outcome = .ok (.ok output)

def Stops (question : Question) : Prop := ∀ output, ¬ question.Accepts output

/-- The call of a function is the first that its question records, with what it is given. -/
theorem called_first {question : Question} {label : Option String}
    {act : Nat → Value → Context → Run Value} (callable : question.stage = .function label act) :
    [.call label question.value question.context] <+: question.answer.events := by
  have entered : [.call label question.value question.context] <+: question.reply.events := by
    rw [Consultation.reply,callable]
    exact ⟨_,rfl⟩
  let judge := Stage.judged question.verdict.isSome
  have judged := Run.events_prefix_bind question.reply judge
  rw [← Run.events_attempt (question.reply >>= judge)] at judged
  exact (entered.trans judged).trans (Run.events_prefix_bind _ _)

end Question

namespace Node

variable (content : Node Stage Schema) (serial : Nat)

/-- What a refinement is asked: about what has become of the input so far. -/
def refinement (input : Value) (stage : Stage) (current : Value) : Question :=
  ⟨⟨stage,serial,current,.refine input content.kind⟩,none⟩

/-- What a check is asked: about the output, whatever the checks before it gave back. -/
def inquiry (current output : Value) (stage : Stage) (verdict : Value) : Question :=
  ⟨⟨stage,serial,output,.check current output content.kind⟩,some verdict⟩

/-- Refinements in order, each asked about what the one before made of the input, up to the first
that does not accept; with the questions that are put and the end they come to. -/
inductive Refines (input : Value) :
    Value → List Stage → List Question → Except Fault (Except Issue Value) → Prop
  | done {current : Value} : Refines input current [] [] (.ok (.ok current))
  | stopped {current : Value} {stage : Stage} {rest : List Stage}
      (stops : (content.refinement serial input stage current).Stops) :
      Refines input current (stage :: rest) [content.refinement serial input stage current]
        (content.refinement serial input stage current).answer.outcome
  | more {current next : Value} {stage : Stage} {rest : List Stage} {questions : List Question}
      {ending : Except Fault (Except Issue Value)}
      (accepted : (content.refinement serial input stage current).Accepts next)
      (others : Refines input next rest questions ending) :
      Refines input current (stage :: rest)
        (content.refinement serial input stage current :: questions) ending

/-- Checks in order, all asked about the same output, up to the first that does not accept or that
has no words for a failed verdict. -/
inductive Checks (current output : Value) :
    List (Stage × Value) → List Question → Except Fault (Except Issue Value) → Prop
  | done : Checks current output [] [] (.ok (.ok output))
  | stopped {check : Stage × Value} {rest : List (Stage × Value)} {verdict : Value}
      (worded : (Message.chosen check.2 "Check failed").outcome = .ok verdict)
      (stops : (content.inquiry serial current output check.1 verdict).Stops) :
      Checks current output (check :: rest)
        [content.inquiry serial current output check.1 verdict]
        (content.inquiry serial current output check.1 verdict).answer.outcome
  | unworded {check : Stage × Value} {rest : List (Stage × Value)} {fault : Fault}
      (faulted : (Message.chosen check.2 "Check failed").outcome = .error fault) :
      Checks current output (check :: rest) [] (.error fault)
  | more {check : Stage × Value} {rest : List (Stage × Value)} {verdict passed : Value}
      {questions : List Question} {ending : Except Fault (Except Issue Value)}
      (worded : (Message.chosen check.2 "Check failed").outcome = .ok verdict)
      (accepted : (content.inquiry serial current output check.1 verdict).Accepts passed)
      (others : Checks current output rest questions ending) :
      Checks current output (check :: rest)
        (content.inquiry serial current output check.1 verdict :: questions) ending

/-- The ways of a reading through the stages of its node: the refinements that are consulted, the
value that the structural step is run on, if it is, the checks that are consulted, and the end. -/
inductive Course (input : Value) :
    List Question → Option Value → List Question → Except Fault (Except Issue Value) → Prop
  | refused {refinements : List Question} {ending : Except Fault (Except Issue Value)}
      (refined : content.Refines serial input input content.config.refines refinements ending)
      (stopped : ∀ current, ending ≠ .ok (.ok current)) :
      Course input refinements none [] ending
  | spared {refinements : List Question} {current : Value}
      (refined : content.Refines serial input input content.config.refines refinements
        (.ok (.ok current)))
      (sentinel : content.form.sentinel? = some current) :
      Course input refinements none [] (.ok (.ok current))
  | failed {refinements : List Question} {current : Value}
      (refined : content.Refines serial input input content.config.refines refinements
        (.ok (.ok current)))
      (entered : content.form.sentinel? ≠ some current)
      (stopped : ∀ output, (content.structural serial current).outcome ≠ .ok (.ok output)) :
      Course input refinements (some current) [] (content.structural serial current).outcome
  | checked {refinements checks : List Question} {current output : Value}
      {ending : Except Fault (Except Issue Value)}
      (refined : content.Refines serial input input content.config.refines refinements
        (.ok (.ok current)))
      (entered : content.form.sentinel? ≠ some current)
      (answered : (content.structural serial current).outcome = .ok (.ok output))
      (checked : content.Checks serial current output content.config.checks checks ending) :
      Course input refinements (some current) checks ending

/-- What the parts of a course record, one after the other. -/
def recorded (refinements : List Question) (looked : Option Value) (checks : List Question) :
    List Event :=
  refinements.flatMap (·.answer.events) ++
    (looked.elim [] fun current => (content.structural serial current).events) ++
    checks.flatMap (·.answer.events)

section

variable {content serial} {input current output : Value} {stages : List Stage}
  {questions : List Question} {ending : Except Fault (Except Issue Value)}

theorem Refines.within (refines : content.Refines serial input current stages questions ending) :
    questions.map (·.stage) <+: stages := by
  induction refines with
  | done => exact List.prefix_rfl
  | stopped _ => exact ⟨_,rfl⟩
  | more _ _ ih => exact List.cons_prefix_cons.mpr ⟨rfl,ih⟩

theorem Refines.all (refines : content.Refines serial input current stages questions ending)
    (accepted : ending = .ok (.ok output)) : questions.map (·.stage) = stages := by
  induction refines with
  | done => rfl
  | stopped stops => exact (stops _ accepted).elim
  | more _ _ ih =>
    rw [List.map_cons,ih accepted]
    rfl

theorem Checks.within {checks : List (Stage × Value)}
    (asked : content.Checks serial current output checks questions ending) :
    questions.map (·.stage) <+: checks.map (·.1) := by
  induction asked with
  | done => exact List.prefix_rfl
  | stopped _ _ => exact ⟨_,rfl⟩
  | unworded _ => exact List.nil_prefix
  | more _ _ _ ih => exact List.cons_prefix_cons.mpr ⟨rfl,ih⟩

theorem Course.within {refinements checks : List Question} {looked : Option Value}
    (course : content.Course serial input refinements looked checks ending) :
    (refinements ++ checks).map (·.stage) <+:
      content.config.refines ++ content.config.checks.map (·.1) := by
  rw [List.map_append]
  cases course with
  | refused refined _ =>
    rw [List.map_nil,List.append_nil]
    exact refined.within.trans (List.prefix_append _ _)
  | spared refined _ | failed refined _ _ =>
    rw [List.map_nil,List.append_nil]
    exact refined.within.trans (List.prefix_append _ _)
  | checked refined _ _ checked =>
    rw [refined.all rfl]
    exact (List.prefix_append_right_inj _).mpr checked.within

variable (content serial input) in
theorem refined_course (stages : List Stage) (current : Value) :
    ∃ questions, content.Refines serial input current stages questions
        (refined content.kind serial input stages current).outcome ∧
      (refined content.kind serial input stages current).events =
        questions.flatMap (·.answer.events) := by
  induction stages generalizing current with
  | nil => exact ⟨[],.done,rfl⟩
  | cons stage rest ih =>
    let question := content.refinement serial input stage current
    have unfolds : refined content.kind serial input (stage :: rest) current =
      question.answer.andThen (refined content.kind serial input rest) := rfl
    rw [unfolds]
    rcases question.answer.output_or_stopped with ⟨next,accepted⟩ | stops
    · rw [Run.andThen_of_output accepted]
      obtain ⟨questions,refines,recorded⟩ := ih next
      refine ⟨question :: questions,.more accepted refines,?_⟩
      rw [recorded,List.flatMap_cons]
    · rw [Run.andThen_of_stopped stops]
      exact ⟨[question],.stopped stops,by simp⟩

variable (content serial) in
theorem checked_course (checks : List (Stage × Value)) (current output : Value) :
    ∃ questions, content.Checks serial current output checks questions
        (checked content.kind serial current output checks).outcome ∧
      (checked content.kind serial current output checks).events =
        questions.flatMap (·.answer.events) := by
  induction checks with
  | nil => exact ⟨[],.done,rfl⟩
  | cons check rest ih =>
    have silent := Message.events_chosen check.2 "Check failed"
    rcases worded : Message.chosen check.2 "Check failed" with ⟨events,fault | verdict⟩
    · obtain rfl : events = [] := by simpa [worded] using silent
      have unfolds : checked content.kind serial current output (check :: rest) =
          ⟨[],.error fault⟩ := by
        rw [checked,worded]
        rfl
      rw [unfolds]
      exact ⟨[],.unworded (by rw [worded]),rfl⟩
    · obtain rfl : events = [] := by simpa [worded] using silent
      let question := content.inquiry serial current output check.1 verdict
      have unfolds : checked content.kind serial current output (check :: rest) =
          question.answer.andThen fun _ =>
            checked content.kind serial current output rest := by
        rw [checked,worded]
        rfl
      have wording : (Message.chosen check.2 "Check failed").outcome = .ok verdict := by
        rw [worded]
      rw [unfolds]
      rcases question.answer.output_or_stopped with ⟨passed,accepted⟩ | stops
      · rw [Run.andThen_of_output accepted]
        obtain ⟨questions,asked,recorded⟩ := ih
        refine ⟨question :: questions,.more wording accepted asked,?_⟩
        rw [recorded,List.flatMap_cons]
      · rw [Run.andThen_of_stopped stops]
        exact ⟨[question],.stopped wording stops,by simp⟩

/-- Every reading takes a course, and records what its parts do. -/
theorem read_course (content : Node Stage Schema) (serial : Nat) (input : Value) :
    ∃ refinements looked checks,
      content.Course serial input refinements looked checks
        ((Schema.node content).parser.read serial input).outcome ∧
      ((Schema.node content).parser.read serial input).events =
        content.recorded serial refinements looked checks := by
  obtain ⟨refinements,refines,asked⟩ :=
    refined_course content serial input content.config.refines input
  rw [Schema.read_node]
  rcases (refined content.kind serial input content.config.refines input).output_or_stopped with
    ⟨current,accepted⟩ | stopped
  · rw [accepted] at refines
    rw [Run.andThen_of_output accepted]
    by_cases sentinel : content.form.sentinel? = some current
    · refine ⟨refinements,none,[],?_,?_⟩
      · rw [if_pos sentinel]
        exact .spared refines sentinel
      · rw [if_pos sentinel,asked]
        simp [recorded,Run.pure_eq]
    · rw [if_neg sentinel]
      rcases (content.structural serial current).output_or_stopped with
        ⟨output,answered⟩ | stopped
      · obtain ⟨checks,checked,recorded⟩ :=
          checked_course content serial content.config.checks current output
        rw [Run.andThen_of_output answered]
        refine ⟨refinements,some current,checks,.checked refines sentinel answered checked,?_⟩
        rw [Node.recorded,← asked,← recorded,List.append_assoc]
        rfl
      · rw [Run.andThen_of_stopped stopped]
        refine ⟨refinements,some current,[],.failed refines sentinel stopped,?_⟩
        rw [recorded,← asked]
        simp
  · rw [Run.andThen_of_stopped stopped]
    refine ⟨refinements,none,[],.refused refines stopped,?_⟩
    rw [recorded,← asked]
    simp

end

end Node

namespace Schema

/-- A node to which refinements and checks were given in any interleaving, among other settings,
keeps each of the two kinds in order. Validating with it takes a course through a first piece of
its refinements and checks, and records what the parts of the course do. -/
theorem safe_parse_ordered (node content : Node Stage Schema) (settings : List (Setting Stage))
    (configured : settings.foldlM Node.configure node = .ok content) (value : Value) :
    content.config.refines = node.config.refines ++ settings.filterMap Setting.refinement? ∧
    content.config.checks = node.config.checks ++ settings.filterMap Setting.check? ∧
    ∃ refinements looked checks,
      content.Course 0 value refinements looked checks
        ((Schema.node content).safeParse value).outcome ∧
      ((Schema.node content).safeParse value).events =
        content.recorded 0 refinements looked checks ∧
      (refinements ++ checks).map (·.stage) <+:
        content.config.refines ++ content.config.checks.map (·.1) ∧
      ∀ question ∈ refinements ++ checks, ∀ label act, question.stage = .function label act →
        [.call label question.value question.context] <+: question.answer.events := by
  obtain ⟨refines,checking⟩ := Node.configured_stages configured
  obtain ⟨refinements,looked,checks,course,recorded⟩ := content.read_course 0 value
  refine ⟨refines,checking,refinements,looked,checks,course,recorded,course.within,?_⟩
  intro question _ label act callable
  exact Question.called_first callable

theorem safe_parse_ordered_interleaved :
    let successor : Stage := .function none fun _ value _ => match value with
      | .int i => pure (.int (i + 1))
      | other => pure other
    let even : Stage := .function none fun _ value _ => match value with
      | .int i => pure (.bool (i % 2 == 0))
      | other => pure other
    let content : Node Stage Schema :=
      ⟨⟨.null,.null,[successor,successor],[(even,.str "odd"),(even,.null)]⟩,.bigint .none⟩
    [.check even (.str "odd"),.refine successor,.check even .null,.refine successor].foldlM
        Node.configure ⟨.empty,.bigint .none⟩ = .ok content ∧
      ∃ refinements looked checks,
        content.Course 0 (.int 1) refinements looked checks
          (.ok (.error (.staged .check "odd" "bigint" none))) ∧
        content.recorded 0 refinements looked checks =
          [.call none (.int 1) (.refine (.int 1) .bigint),
            .call none (.int 2) (.refine (.int 1) .bigint),
            .call none (.int 3) (.check (.int 3) (.int 3) .bigint)] := by
  intro successor even content
  have configured : [.check even (.str "odd"),.refine successor,.check even .null,
      .refine successor].foldlM Node.configure ⟨.empty,.bigint .none⟩ = .ok content := rfl
  obtain ⟨_,_,refinements,looked,checks,course,recorded,_⟩ :=
    safe_parse_ordered _ content _ configured (.int 1)
  exact ⟨configured,refinements,looked,checks,course,recorded.symm⟩

end Schema
end Schemata
