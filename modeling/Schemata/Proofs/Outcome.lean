import Schemata.Message
import Schemata.Stage

/-!
How runs end. A run of several parts ends as its last part does, or early: in a fault, or in
an issue where the parts are joined by `andThen`. A fault in a part ends the whole run there,
and the record of the whole run ends with the record of that part.
-/
namespace Schemata

namespace Run

variable {α β γ : Type}

theorem bind_outcome_ok {first : Run α} {next : α → Run β} {b : β} :
    (first >>= next).outcome = .ok b ↔ ∃ a, first.outcome = .ok a ∧ (next a).outcome = .ok b := by
  rcases first with ⟨events,fault | a⟩
  · simp [bind_error]
  · simp [bind_ok]

theorem bind_outcome_error {first : Run α} {next : α → Run β} {fault : Fault} :
    (first >>= next).outcome = .error fault ↔ first.outcome = .error fault ∨
      ∃ a, first.outcome = .ok a ∧ (next a).outcome = .error fault := by
  rcases first with ⟨events,early | a⟩
  · simp [bind_error]
  · simp [bind_ok]

theorem bind_outcome_of_ok {first : Run α} {a : α} (done : first.outcome = .ok a)
    (next : α → Run β) : (first >>= next).outcome = (next a).outcome := by
  rcases first with ⟨events,fault | b⟩
  · cases done
  · cases done
    rfl

theorem bind_outcome_of_error {first : Run α} {fault : Fault}
    (faulted : first.outcome = .error fault) (next : α → Run β) :
    (first >>= next).outcome = .error fault :=
  bind_outcome_error.mpr (.inl faulted)

theorem map_outcome_ok {run : Run α} {change : α → β} {b : β} :
    (change <$> run).outcome = .ok b ↔ ∃ a, run.outcome = .ok a ∧ change a = b := by
  rcases run with ⟨events,fault | a⟩
  · simp [map_error]
  · simp [map_ok]

theorem map_outcome_error {run : Run α} {change : α → β} {fault : Fault} :
    (change <$> run).outcome = .error fault ↔ run.outcome = .error fault := by
  rcases run with ⟨events,early | a⟩
  · simp [map_error]
  · simp [map_ok]

theorem pure_outcome (a : α) : (pure a : Run α).outcome = .ok a := rfl

theorem andThen_outcome_ok {first : Run (Except Issue α)} {next : α → Run (Except Issue β)}
    {b : β} : (first.andThen next).outcome = .ok (.ok b) ↔
      ∃ a, first.outcome = .ok (.ok a) ∧ (next a).outcome = .ok (.ok b) := by
  rcases first with ⟨events,fault | issue | a⟩ <;>
    simp [andThen,bind_error,bind_ok,pure_eq]

theorem andThen_outcome_issue {first : Run (Except Issue α)} {next : α → Run (Except Issue β)}
    {issue : Issue} : (first.andThen next).outcome = .ok (.error issue) ↔
      first.outcome = .ok (.error issue) ∨
        ∃ a, first.outcome = .ok (.ok a) ∧ (next a).outcome = .ok (.error issue) := by
  rcases first with ⟨events,fault | early | a⟩ <;>
    simp [andThen,bind_error,bind_ok,pure_eq]

theorem andThen_outcome_fault {first : Run (Except Issue α)} {next : α → Run (Except Issue β)}
    {fault : Fault} : (first.andThen next).outcome = .error fault ↔
      first.outcome = .error fault ∨
        ∃ a, first.outcome = .ok (.ok a) ∧ (next a).outcome = .error fault := by
  rcases first with ⟨events,early | issue | a⟩ <;>
    simp [andThen,bind_error,bind_ok,pure_eq]

theorem bind_outcome_congr {first second : Run α} {next last : α → Run β}
    (same : first.outcome = second.outcome) (continued : ∀ a, (next a).outcome = (last a).outcome) :
    (first >>= next).outcome = (second >>= last).outcome := by
  rcases ended : second.outcome with fault | a
  · rw [bind_outcome_of_error ended,bind_outcome_of_error (same.trans ended)]
  · rw [bind_outcome_of_ok ended,bind_outcome_of_ok (same.trans ended)]
    exact continued a

theorem map_outcome_congr {first second : Run α} (same : first.outcome = second.outcome)
    (change : α → β) : (change <$> first).outcome = (change <$> second).outcome :=
  congrArg (Except.map change) same

theorem andThen_outcome_congr {first second : Run (Except Issue α)}
    {next last : α → Run (Except Issue β)} (same : first.outcome = second.outcome)
    (continued : ∀ a, (next a).outcome = (last a).outcome) :
    (first.andThen next).outcome = (second.andThen last).outcome := by
  refine bind_outcome_congr same fun answer => ?_
  rcases answer with issue | a
  · rfl
  · exact continued a

theorem andThen_pure (run : Run (Except Issue α)) : (run.andThen fun a => pure (.ok a)) = run := by
  rcases run with ⟨events,fault | issue | a⟩ <;> simp [andThen,bind_error,bind_ok,pure_eq]

theorem andThen_assoc (first : Run (Except Issue α)) (next : α → Run (Except Issue β))
    (last : β → Run (Except Issue γ)) :
    (first.andThen next).andThen last = first.andThen fun a => (next a).andThen last := by
  rw [andThen,andThen,andThen,bind_assoc]
  congr 1
  funext answer
  rcases answer with issue | a
  · rfl
  · rfl

/-- The run ends in the fault, and the last thing it recorded is what the given part recorded. -/
def EndedBy (run : Run α) (part : Run β) (fault : Fault) : Prop :=
  run.outcome = .error fault ∧ ∃ before, run.events = before ++ part.events

theorem endedBy_self {run : Run α} {fault : Fault} (ended : run.outcome = .error fault) :
    run.EndedBy run fault :=
  ⟨ended,[],rfl⟩

theorem EndedBy.bind {first : Run α} {part : Run γ} {fault : Fault}
    (ended : first.EndedBy part fault) (next : α → Run β) :
    (first >>= next).EndedBy part fault := by
  obtain ⟨faulted,before,recorded⟩ := ended
  rcases first with ⟨events,early | a⟩
  · refine ⟨bind_outcome_error.mpr (.inl faulted),before,?_⟩
    simpa [bind_error] using recorded
  · simp at faulted

theorem EndedBy.after {first : Run α} {a : α} (done : first.outcome = .ok a)
    {next : α → Run β} {part : Run γ} {fault : Fault} (ended : (next a).EndedBy part fault) :
    (first >>= next).EndedBy part fault := by
  obtain ⟨faulted,before,recorded⟩ := ended
  rcases first with ⟨events,early | b⟩
  · simp at done
  · obtain rfl : b = a := by simpa using done
    refine ⟨by simpa [bind_ok] using faulted,events ++ before,?_⟩
    simp [bind_ok,recorded]

theorem endedBy_map {run : Run α} {change : α → β} {part : Run γ} {fault : Fault} :
    (change <$> run).EndedBy part fault ↔ run.EndedBy part fault :=
  and_congr_left' map_outcome_error

theorem EndedBy.andThen {first : Run (Except Issue α)} {part : Run γ} {fault : Fault}
    (ended : first.EndedBy part fault) (next : α → Run (Except Issue β)) :
    (first.andThen next).EndedBy part fault := ended.bind _

theorem EndedBy.afterOk {first : Run (Except Issue α)} {a : α}
    (done : first.outcome = .ok (.ok a)) {next : α → Run (Except Issue β)} {part : Run γ}
    {fault : Fault} (ended : (next a).EndedBy part fault) :
    (first.andThen next).EndedBy part fault := EndedBy.after done ended

theorem attempt_outcome_error {run : Run α} {fault : Fault} :
    run.attempt.outcome = .error fault ↔ ∃ text, fault = .abort text ∧ run.outcome = .error fault := by
  rcases run with ⟨events,(text | issue | ⟨kind,text⟩ | ⟨reading,refusal⟩) | a⟩ <;>
    simp [attempt,eq_comm]
  · intro same
    subst same
    exact ⟨text,rfl⟩
  all_goals
    intro other same impossible
    subst same
    cases impossible

theorem attempt_outcome_ok {run : Run α} {a : α} :
    run.attempt.outcome = .ok (.ok a) ↔ run.outcome = .ok a := by
  rcases run with ⟨events,(text | issue | ⟨kind,text⟩ | ⟨reading,refusal⟩) | b⟩ <;> simp [attempt]

theorem attempt_outcome_caught {run : Run α} {fault : Fault} :
    run.attempt.outcome = .ok (.error fault) ↔
      (∀ text, fault ≠ .abort text) ∧ run.outcome = .error fault := by
  rcases run with ⟨events,(text | issue | ⟨kind,text⟩ | ⟨reading,refusal⟩) | a⟩ <;> simp [attempt]
  · intro error same
    exact error text same.symm
  all_goals
    rintro rfl
    simp

theorem attempt_outcome_congr {first second : Run α} (same : first.outcome = second.outcome) :
    first.attempt.outcome = second.attempt.outcome := by
  rcases first with ⟨events,outcome⟩
  rcases second with ⟨records,_⟩
  obtain rfl := same
  rcases outcome with (text | issue | ⟨kind,text⟩ | ⟨reading,refusal⟩) | a <;> rfl

theorem EndedBy.attempt {run : Run α} {part : Run γ} {text : String}
    (aborted : run.EndedBy part (.abort text)) : run.attempt.EndedBy part (.abort text) := by
  obtain ⟨ended,before,recorded⟩ := aborted
  refine ⟨attempt_outcome_error.mpr ⟨text,rfl,ended⟩,before,?_⟩
  rcases run with ⟨events,outcome⟩
  obtain rfl : outcome = .error (.abort text) := ended
  exact recorded

end Run

/-- A message that may be configured: a text, or none. -/
def Value.IsMessage : Value → Prop
  | .null | .str _ => True
  | _ => False

namespace Message

theorem chosen_of_isMessage {message : Value} (proper : message.IsMessage) (default : String) :
    ∃ text, chosen message default = pure (.str text) := by
  cases message <;> try exact proper.elim
  case null => exact ⟨default,rfl⟩
  case str s =>
    by_cases empty : s = ""
    · exact ⟨default,by simp [chosen,Value.truth,Run.lift,Run.bind_ok,Run.pure_eq,empty]⟩
    · exact ⟨s,by simp [chosen,Value.truth,Run.lift,Run.bind_ok,Run.pure_eq,empty]⟩

/-- A proper message or its default can always be written into an issue. -/
theorem settled_of_isMessage {message : Value} (proper : message.IsMessage) (default : String) :
    ∃ text, settled message default = pure text := by
  obtain ⟨text,picked⟩ := chosen_of_isMessage proper default
  exact ⟨text,by simp [settled,picked,Message.text,Value.text?]⟩

end Message

theorem Value.truth_ne_abort (value : Value) (text : String) :
    value.truth ≠ .error (.abort text) := by
  cases value <;> simp [Value.truth]
  case foreign identity object => cases object.comparing <;> simp

namespace Stage

theorem passes_ne_abort (asked : Bool) (reply : Value) (text : String) :
    (passes asked reply).outcome ≠ .error (.abort text) := by
  cases asked
  · cases reply <;> simp [passes,Run.pure_eq]
  · cases reply <;> simp [passes,Run.pure_eq,Run.lift,Value.truth_ne_abort]

theorem judged_outcome_ok {asked : Bool} {reply : Value} {judgement : Value × Bool}
    (given : (judged asked reply).outcome = .ok judgement) : judgement.1 = reply := by
  obtain ⟨passed,_,same⟩ := Run.bind_outcome_ok.mp given
  rw [Run.pure_outcome,Except.ok.injEq] at same
  rw [← same]

variable {stage : Stage} {serial : Nat} {value : Value} {context : Context}
  {verdict : Option Value}

/-- Only an abort of the stage itself gets through a consultation. -/
theorem consult_fault {fault : Fault} (worded : ∀ message ∈ verdict, ∃ text, message = .str text)
    (faulted : (stage.consult serial value context verdict).outcome = .error fault) :
    ∃ text, fault = .abort text ∧ (stage.call serial value context).outcome = .error fault := by
  rcases Run.bind_outcome_error.mp faulted with early | ⟨judgement,_,late⟩
  · obtain ⟨text,rfl,ended⟩ := Run.attempt_outcome_error.mp early
    rcases Run.bind_outcome_error.mp ended with called | ⟨reply,_,judging⟩
    · exact ⟨text,rfl,called⟩
    · obtain inside | ⟨_,_,impossible⟩ := Run.bind_outcome_error.mp judging
      · exact (passes_ne_abort _ _ _ inside).elim
      · cases impossible
  · -- Past the call only the wording of a failed verdict could fault, and it is a text.
    split at late
    · rcases Run.bind_outcome_error.mp late with impossible | ⟨_,_,impossible⟩ <;> cases impossible
    · cases late
    · cases late
    · cases late
    · split at late
      · cases late
      · rename_i message _
        obtain ⟨text,rfl⟩ := worded message rfl
        split at late
        · cases late
        · rcases Run.bind_outcome_error.mp late with impossible | ⟨_,_,impossible⟩ <;>
            cases impossible

/-- The issue of a consultation is handed over by the stage or complains in its context. -/
theorem consult_issue {issue : Issue}
    (complained : (stage.consult serial value context verdict).outcome = .ok (.error issue)) :
    (stage.call serial value context).outcome = .ok (.err (.issue issue)) ∨
      ∃ message, issue = context.issue message := by
  obtain ⟨judgement,attempted,given⟩ := Run.bind_outcome_ok.mp complained
  split at given
  · obtain ⟨_,_,given⟩ := Run.bind_outcome_ok.mp given
    rw [Run.pure_outcome,Except.ok.injEq,Except.error.injEq] at given
    exact .inr ⟨_,given.symm⟩
  · rename_i handed _
    rw [Run.pure_outcome,Except.ok.injEq,Except.error.injEq] at given
    subst given
    obtain ⟨reply,called,judging⟩ := Run.bind_outcome_ok.mp (Run.attempt_outcome_ok.mp attempted)
    have same : .err (.issue handed) = reply := judged_outcome_ok judging
    exact .inl (same ▸ called)
  · rw [Run.pure_outcome,Except.ok.injEq,Except.error.injEq] at given
    exact .inr ⟨_,given.symm⟩
  · cases given
  · split at given
    · cases given
    · split at given
      · cases given
      · obtain ⟨text,_,given⟩ := Run.bind_outcome_ok.mp given
        rw [Run.pure_outcome,Except.ok.injEq,Except.error.injEq] at given
        exact .inr ⟨text,given.symm⟩

/-- An issue that the stage hands over is the answer, as it is. -/
theorem consult_of_handed {issue : Issue}
    (handed : (stage.call serial value context).outcome = .ok (.err (.issue issue))) :
    (stage.consult serial value context verdict).outcome = .ok (.error issue) := by
  have judging : (stage.call serial value context >>= judged verdict.isSome).outcome =
      .ok (.err (.issue issue),true) := by
    rw [Run.bind_outcome_of_ok handed]
    rfl
  exact Run.bind_outcome_of_ok (Run.attempt_outcome_ok.mpr judging) _

theorem consult_endedBy {text : String}
    (aborted : (stage.call serial value context).outcome = .error (.abort text)) :
    (stage.consult serial value context verdict).EndedBy (stage.call serial value context)
      (.abort text) := by
  have judging := (Run.endedBy_self aborted).bind (judged verdict.isSome)
  exact judging.attempt.bind _

end Stage
end Schemata
