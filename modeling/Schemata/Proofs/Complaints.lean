import Schemata.Proofs.Outcome
import Schemata.Schema.Choice
import Schemata.Schema.Container

/-!
What a schema's own look at a value objects to. With proper messages no look at a value faults
by itself; an objection is a leaf without a path, which says that the value is required exactly
where it is absent.
-/
namespace Schemata

def Run.Answers (run : Run (Except Issue Value)) : Prop := ∃ answer, run.outcome = .ok answer

theorem Run.Answers.not_fault {run : Run (Except Issue Value)} (answers : run.Answers)
    (fault : Fault) : run.outcome ≠ .error fault := by
  obtain ⟨answer,ended⟩ := answers
  simp [ended]

/-- The issue is what the schema itself objects to in a value. -/
def Issue.Objects (issue : Issue) (value : Value) : Prop :=
  ∃ complaint text, issue = .leaf complaint text none ∧
    (complaint = .required ↔ value.isAbsent = true)

theorem Issue.Objects.not_aggregate {issue : Issue} {value : Value} (objects : issue.Objects value) :
    issue.isAggregate = false := by
  obtain ⟨_,_,rfl,_⟩ := objects
  rfl

def Limits.Worded {β : Type} (limits : Limits β) : Prop :=
  (∀ limit ∈ limits.least, limit.message.IsMessage) ∧
    ∀ limit ∈ limits.greatest, limit.message.IsMessage

structure Config.Worded {σ : Type} (config : Config σ) : Prop where
  message : config.message.IsMessage
  required : config.required.IsMessage
  checks : ∀ check ∈ config.checks, check.2.IsMessage

namespace Form

variable {σ τ α β : Type}

def Worded : Form σ α → Prop
  | string limits | array _ limits _ => limits.Worded
  | number whole limits => (∀ message ∈ whole, message.IsMessage) ∧ limits.Worded
  | bigint limits => limits.Worded
  | _ => True

end Form

variable {σ β : Type} {config : Config σ} {issue : Issue}

theorem complain_pure {message : Value} (proper : message.IsMessage) (complaint : Complaint)
    (default : String) : ∃ issue, complain complaint message default = pure (.error issue) := by
  obtain ⟨text,worded⟩ := Message.settled_of_isMessage proper default
  exact ⟨.leaf complaint text none,by rw [complain,worded,pure_bind]⟩

theorem complain_answers {message : Value} (proper : message.IsMessage) (complaint : Complaint)
    (default : String) : (complain complaint message default).Answers := by
  obtain ⟨issue,said⟩ := complain_pure proper complaint default
  exact ⟨.error issue,by rw [said,Run.pure_outcome]⟩

theorem complain_issue {complaint : Complaint} {message : Value} {default : String}
    (complained : (complain complaint message default).outcome = .ok (.error issue)) :
    ∃ text, issue = .leaf complaint text none := by
  obtain ⟨text,_,given⟩ := Run.bind_outcome_ok.mp complained
  cases given
  exact ⟨text,rfl⟩

theorem complain_objects {complaint : Complaint} {message : Value} {default : String}
    {value : Value} (kept : complaint = .required ↔ value.isAbsent = true)
    (complained : (complain complaint message default).outcome = .ok (.error issue)) :
    issue.Objects value := by
  obtain ⟨text,rfl⟩ := complain_issue complained
  exact ⟨complaint,text,rfl,kept⟩

namespace Limit

variable {limit : Option (Limit β)} {violated : β → Bool} {complaint : Complaint}
  {default : String} {next : Run (Except Issue Value)}

def Kept (limit : Option (Limit β)) (violated : β → Bool) : Prop :=
  ∀ bound ∈ limit, violated bound.bound = false

theorem guard_of_kept (kept : Kept limit violated) :
    guard limit violated complaint default next = next := by
  cases limit with
  | none => rfl
  | some bound => simp [guard,kept bound rfl]

theorem kept_or_guard (limit : Option (Limit β)) (violated : β → Bool) :
    Kept limit violated ∨ ∃ bound ∈ limit, ∀ complaint default next,
      guard limit violated complaint default next = complain complaint bound.message default := by
  cases limit with
  | none => exact .inl (by simp [Kept])
  | some bound =>
    by_cases broken : violated bound.bound = true
    · exact .inr ⟨bound,rfl,fun _ _ _ => by simp [guard,broken]⟩
    · exact .inl (by simpa [Kept] using broken)

/-- What relates every run to itself and two runs behind a guard relates the guarded runs. -/
theorem guard_related {related : Run (Except Issue Value) → Run (Except Issue Value) → Prop}
    (reflexive : ∀ run, related run run) {last : Run (Except Issue Value)}
    (same : related next last) : related (guard limit violated complaint default next)
      (guard limit violated complaint default last) := by
  rcases kept_or_guard limit violated with kept | ⟨bound,_,broken⟩
  · rwa [guard_of_kept kept,guard_of_kept kept]
  · rw [broken,broken]
    exact reflexive _

theorem guard_answers (proper : ∀ bound ∈ limit, bound.message.IsMessage)
    (answers : next.Answers) : (guard limit violated complaint default next).Answers := by
  rcases kept_or_guard limit violated with kept | ⟨bound,member,broken⟩
  · rwa [guard_of_kept kept]
  · rw [broken]
    exact complain_answers (proper bound member) _ _

theorem guard_issue
    (complained : (guard limit violated complaint default next).outcome = .ok (.error issue)) :
    (∃ text, issue = .leaf complaint text none) ∨
      Kept limit violated ∧ next.outcome = .ok (.error issue) := by
  rcases kept_or_guard limit violated with kept | ⟨bound,_,broken⟩
  · exact .inr ⟨kept,by rwa [guard_of_kept kept] at complained⟩
  · rw [broken] at complained
    exact .inl (complain_issue complained)

theorem guard_fault {fault : Fault} (proper : ∀ bound ∈ limit, bound.message.IsMessage)
    (faulted : (guard limit violated complaint default next).outcome = .error fault) :
    Kept limit violated ∧ next.outcome = .error fault := by
  rcases kept_or_guard limit violated with kept | ⟨bound,member,broken⟩
  · exact ⟨kept,by rwa [guard_of_kept kept] at faulted⟩
  · rw [broken] at faulted
    exact ((complain_answers (proper bound member) _ _).not_fault _ faulted).elim

theorem guard_objects {value : Value} (present : value.isAbsent = false)
    (other : complaint ≠ .required)
    (rest : next.outcome = .ok (.error issue) → issue.Objects value)
    (complained : (guard limit violated complaint default next).outcome = .ok (.error issue)) :
    issue.Objects value := by
  rcases guard_issue complained with ⟨text,rfl⟩ | ⟨_,later⟩
  · exact ⟨complaint,text,rfl,by simp [other,present]⟩
  · exact rest later

end Limit

theorem Config.absent_objects {value : Value} (absent : value.isAbsent = true)
    (complained : config.absent.outcome = .ok (.error issue)) : issue.Objects value :=
  complain_objects (by simp [absent]) complained

/-- What is said to a value that is not taken; an absent one is required. -/
def Config.refusal (config : Config σ) (complaint : Complaint) (default : String) (value : Value) :
    Run (Except Issue Value) :=
  if value.isAbsent then config.absent else complain complaint config.message default

theorem Config.refusal_pure (message : config.message.IsMessage)
    (required : config.required.IsMessage) (complaint : Complaint) (default : String)
    (value : Value) : ∃ issue, config.refusal complaint default value = pure (.error issue) := by
  unfold refusal
  split
  · exact complain_pure required _ _
  · exact complain_pure message _ _

theorem Config.refusal_answers (proper : config.Worded) (complaint : Complaint) (default : String)
    (value : Value) : (config.refusal complaint default value).Answers := by
  obtain ⟨issue,said⟩ := refusal_pure proper.message proper.required complaint default value
  exact ⟨.error issue,by rw [said,Run.pure_outcome]⟩

theorem Config.refusal_objects {complaint : Complaint} {default : String} {value : Value}
    (other : complaint ≠ .required)
    (complained : (config.refusal complaint default value).outcome = .ok (.error issue)) :
    issue.Objects value := by
  unfold refusal at complained
  split at complained
  · rename_i absent
    exact Config.absent_objects absent complained
  · rename_i given
    have present : value.isAbsent = false := by simpa using given
    exact complain_objects (by simp [other,present]) complained

namespace Scalar

theorem string_answers {limits : Limits Nat} (proper : config.Worded) (worded : limits.Worded)
    (value : Value) : (string config limits value).Answers := by
  cases value
  case null | missing => exact complain_answers proper.required _ _
  case str s => exact Limit.guard_answers worded.1 (Limit.guard_answers worded.2 ⟨_,rfl⟩)
  all_goals exact complain_answers proper.message _ _

theorem string_objects {limits : Limits Nat} {value : Value}
    (complained : (string config limits value).outcome = .ok (.error issue)) :
    issue.Objects value := by
  cases value
  case null | missing => exact Config.absent_objects rfl complained
  case str s =>
    refine Limit.guard_objects rfl (by simp) (Limit.guard_objects rfl (by simp) ?_) complained
    intro impossible
    cases impossible
  all_goals exact complain_objects (by simp [Value.isAbsent]) complained

theorem number_answers {whole : Option Value} {limits : Limits Number} (proper : config.Worded)
    (integral : ∀ message ∈ whole, message.IsMessage) (worded : limits.Worded) (value : Value) :
    (number config whole limits value).Answers := by
  unfold number
  split
  · exact complain_answers proper.required _ _
  · split
    · exact complain_answers proper.message _ _
    · refine Limit.guard_answers ?_ (Limit.guard_answers worded.1
        (Limit.guard_answers worded.2 ⟨_,rfl⟩))
      intro bound member
      obtain ⟨message,given,rfl⟩ := Option.map_eq_some_iff.mp member
      exact integral message given

theorem number_objects {whole : Option Value} {limits : Limits Number} {value : Value}
    (complained : (number config whole limits value).outcome = .ok (.error issue)) :
    issue.Objects value := by
  unfold number at complained
  split at complained
  · rename_i absent
    exact Config.absent_objects absent complained
  · rename_i given
    have present : value.isAbsent = false := by simpa using given
    split at complained
    · exact complain_objects (by simp [present]) complained
    · refine Limit.guard_objects present (by simp) (Limit.guard_objects present (by simp)
        (Limit.guard_objects present (by simp) ?_)) complained
      intro impossible
      cases impossible

theorem bigint_answers {limits : Limits Int} (proper : config.Worded) (worded : limits.Worded)
    (value : Value) : (bigint config limits value).Answers := by
  cases value
  case null | missing => exact complain_answers proper.required _ _
  case int i => exact Limit.guard_answers worded.1 (Limit.guard_answers worded.2 ⟨_,rfl⟩)
  all_goals exact complain_answers proper.message _ _

theorem bigint_objects {limits : Limits Int} {value : Value}
    (complained : (bigint config limits value).outcome = .ok (.error issue)) :
    issue.Objects value := by
  cases value
  case null | missing => exact Config.absent_objects rfl complained
  case int i =>
    refine Limit.guard_objects rfl (by simp) (Limit.guard_objects rfl (by simp) ?_) complained
    intro impossible
    cases impossible
  all_goals exact complain_objects (by simp [Value.isAbsent]) complained

theorem boolean_answers (proper : config.Worded) (value : Value) :
    (boolean config value).Answers := by
  cases value
  case null | missing => exact complain_answers proper.required _ _
  case bool b => exact ⟨_,rfl⟩
  all_goals exact complain_answers proper.message _ _

theorem boolean_objects {value : Value}
    (complained : (boolean config value).outcome = .ok (.error issue)) : issue.Objects value := by
  cases value
  case null | missing => exact Config.absent_objects rfl complained
  case bool b => cases complained
  all_goals exact complain_objects (by simp [Value.isAbsent]) complained

end Scalar

namespace Choice

theorem literal_answers (proper : config.Worded) (values : List Value) (value : Value) :
    (literal config values value).Answers := by
  unfold literal
  split
  · exact ⟨_,rfl⟩
  · exact Config.refusal_answers proper _ _ value

theorem literal_objects {values : List Value} {value : Value}
    (complained : (literal config values value).outcome = .ok (.error issue)) :
    issue.Objects value := by
  unfold literal at complained
  split at complained
  · cases complained
  · exact Config.refusal_objects (by simp) complained

theorem union_issue {options : List Parser} {serial : Nat} {value : Value}
    (complained : (union config options serial value).outcome = .ok (.error issue)) :
    (firstMatch serial value options).outcome = .ok none ∧ issue.Objects value := by
  obtain ⟨matched,tried,answered⟩ := Run.bind_outcome_ok.mp complained
  rcases matched with _ | output
  · refine ⟨tried,?_⟩
    obtain ⟨_,_,answered⟩ := Run.bind_outcome_ok.mp answered
    exact Config.refusal_objects (by simp) answered
  · cases answered

theorem union_fault {options : List Parser} {serial : Nat} {value : Value} {fault : Fault}
    (proper : config.Worded)
    (faulted : (union config options serial value).outcome = .error fault) :
    (firstMatch serial value options).outcome = .error fault := by
  rcases Run.bind_outcome_error.mp faulted with early | ⟨matched,_,late⟩
  · exact early
  · rcases matched with _ | output
    · rcases Run.bind_outcome_error.mp late with impossible | ⟨_,_,answered⟩
      · cases impossible
      · exact ((Config.refusal_answers proper _ _ value).not_fault _ answered).elim
    · cases late

end Choice
end Schemata
