import Mathlib.Data.List.Forall2
import Schemata.Proofs.Outcome
import Schemata.Schema.Choice
import Schemata.Schema.Visit

/-!
How far a visit gets. A part is read when every part before it lets the visit go on; a visit
faults where such a part faults, and holds the issues of such parts as failures. A retained
visit holds the failures of all parts.
-/
namespace Schemata

/-- An item that is come to in a list, as every item before it lets pass. -/
inductive Reached {α : Type} (passes : α → Prop) : List α → α → Prop
  | here {item : α} {rest : List α} : Reached passes (item :: rest) item
  | there {first : α} {rest : List α} {item : α} (passed : passes first)
      (later : Reached passes rest item) : Reached passes (first :: rest) item

namespace Reached

variable {α β : Type}

theorem mem {passes : α → Prop} {items : List α} {item : α} (reached : Reached passes items item) :
    item ∈ items := by
  induction reached with
  | here => exact List.mem_cons_self
  | there _ _ ih => exact List.mem_cons_of_mem _ ih

theorem of_mem {passes : α → Prop} {items : List α} (all : ∀ item ∈ items, passes item) {item : α}
    (member : item ∈ items) : Reached passes items item := by
  induction items with
  | nil => cases member
  | cons first rest ih =>
    rcases List.mem_cons.mp member with rfl | later
    · exact .here
    · exact .there (all first List.mem_cons_self)
        (ih (fun item inside => all item (List.mem_cons_of_mem _ inside)) later)

theorem map {passes : β → Prop} {f : α → β} {items : List α} {item : α}
    (reached : Reached (fun a => passes (f a)) items item) :
    Reached passes (items.map f) (f item) := by
  induction reached with
  | here => exact .here
  | there passed _ ih => exact .there passed ih

theorem of_map {passes : β → Prop} {f : α → β} {items : List α} {image : β}
    (reached : Reached passes (items.map f) image) :
    ∃ item, Reached (fun a => passes (f a)) items item ∧ f item = image := by
  induction items with
  | nil => cases reached
  | cons first rest ih =>
    cases reached with
    | here => exact ⟨first,.here,rfl⟩
    | there passed later =>
      obtain ⟨item,inside,same⟩ := ih later
      exact ⟨item,.there passed inside,same⟩

end Reached

/-- The reading of a part lets a visit go on: it gave an output, or an issue that is kept. -/
def Run.GoesOn (immediate : Bool) (run : Run (Except Issue Value)) : Prop :=
  (∃ output, run.outcome = .ok (.ok output)) ∨
    immediate = false ∧ ∃ issue, run.outcome = .ok (.error issue)

def Run.Rejects (run : Run (Except Issue Value)) : Prop :=
  ∃ issue, run.outcome = .ok (.error issue)

namespace Task

variable {κ : Type}

theorem read_granted {task : Task κ} (granted : task.refusal = none) (serial : Nat) :
    task.read serial = task.parser.read serial task.item := by
  rw [read,granted]

theorem read_refused {task : Task κ} {fault : Fault} (refused : task.refusal = some fault)
    (serial : Nat) : task.read serial = Run.fail fault := by
  rw [read,refused]

theorem read_ok {task : Task κ} {serial : Nat} {answer : Except Issue Value} :
    (task.read serial).outcome = .ok answer ↔
      task.refusal = none ∧ (task.parser.read serial task.item).outcome = .ok answer := by
  rcases asked : task.refusal with _ | fault
  · simp [read_granted asked]
  · simp [read_refused asked,Run.fail]

theorem granted_of_goesOn {task : Task κ} {immediate : Bool} {serial : Nat}
    (passed : (task.read serial).GoesOn immediate) : task.refusal = none := by
  rcases passed with ⟨output,given⟩ | ⟨_,issue,given⟩
  · exact (read_ok.mp given).1
  · exact (read_ok.mp given).1

theorem read_error {task : Task κ} {serial : Nat} {fault : Fault} :
    (task.read serial).outcome = .error fault ↔ task.refusal = some fault ∨
      task.refusal = none ∧ (task.parser.read serial task.item).outcome = .error fault := by
  rcases asked : task.refusal with _ | raised
  · simp [read_granted asked]
  · simp [read_refused asked,Run.fail]

def failure? (serial : Nat) (task : Task κ) : Option (κ × Issue) :=
  match (task.read serial).outcome with
  | .ok (.error issue) => some (task.key,issue)
  | _ => none

end Task

namespace Visit

variable {κ : Type}

def addOutput (key : κ) (output : Value) (visited : Visit κ) : Visit κ :=
  { visited with outputs := (key,output) :: visited.outputs }

def addFailure (key : κ) (issue : Issue) (visited : Visit κ) : Visit κ :=
  { visited with failures := (key,issue) :: visited.failures }

end Visit

section

variable {κ : Type} {immediate : Bool} {serial : Nat} {task : Task κ} {rest : List (Task κ)}

theorem visit_of_output {output : Value} (given : (task.read serial).outcome = .ok (.ok output)) :
    (visit immediate serial (task :: rest)).outcome =
      (Visit.addOutput task.key output <$> visit immediate serial rest).outcome :=
  Run.bind_outcome_of_ok given _

theorem visit_of_issue {issue : Issue}
    (given : (task.read serial).outcome = .ok (.error issue)) :
    (visit false serial (task :: rest)).outcome =
      (Visit.addFailure task.key issue <$> visit false serial rest).outcome :=
  Run.bind_outcome_of_ok given _

theorem visit_of_issue_immediate {issue : Issue}
    (given : (task.read serial).outcome = .ok (.error issue)) :
    (visit true serial (task :: rest)).outcome = .ok ⟨[],[(task.key,issue)]⟩ :=
  Run.bind_outcome_of_ok given _

theorem visit_of_fault {fault : Fault} (given : (task.read serial).outcome = .error fault) :
    (visit immediate serial (task :: rest)).outcome = .error fault :=
  Run.bind_outcome_of_error given _

end

section

variable {κ : Type} {immediate : Bool} {serial : Nat} {tasks : List (Task κ)}

theorem visit_fault {fault : Fault}
    (faulted : (visit immediate serial tasks).outcome = .error fault) :
    ∃ task, Reached (fun earlier => (earlier.read serial).GoesOn immediate) tasks task ∧
      (task.read serial).outcome = .error fault := by
  induction tasks with
  | nil => cases faulted
  | cons first rest ih =>
    rcases given : (first.read serial).outcome with early | issue | output
    · rw [visit_of_fault given,Except.error.injEq] at faulted
      exact ⟨first,.here,faulted ▸ given⟩
    · cases immediate with
      | true =>
        rw [visit_of_issue_immediate given] at faulted
        cases faulted
      | false =>
        rw [visit_of_issue given] at faulted
        obtain ⟨task,inside,ended⟩ := ih (Run.map_outcome_error.mp faulted)
        exact ⟨task,.there (.inr ⟨rfl,issue,given⟩) inside,ended⟩
    · rw [visit_of_output given] at faulted
      obtain ⟨task,inside,ended⟩ := ih (Run.map_outcome_error.mp faulted)
      exact ⟨task,.there (.inl ⟨output,given⟩) inside,ended⟩

theorem visit_failure {visited : Visit κ}
    (done : (visit immediate serial tasks).outcome = .ok visited) {entry : κ × Issue}
    (member : entry ∈ visited.failures) :
    ∃ task, Reached (fun earlier => (earlier.read serial).GoesOn immediate) tasks task ∧
      task.key = entry.1 ∧ (task.read serial).outcome = .ok (.error entry.2) := by
  induction tasks generalizing visited with
  | nil =>
    cases done
    cases member
  | cons first rest ih =>
    rcases given : (first.read serial).outcome with early | issue | output
    · rw [visit_of_fault given] at done
      cases done
    · cases immediate with
      | true =>
        rw [visit_of_issue_immediate given] at done
        cases done
        obtain rfl := List.mem_singleton.mp member
        exact ⟨first,.here,rfl,given⟩
      | false =>
        rw [visit_of_issue given] at done
        obtain ⟨others,ended,rfl⟩ := Run.map_outcome_ok.mp done
        rcases List.mem_cons.mp member with rfl | later
        · exact ⟨first,.here,rfl,given⟩
        · obtain ⟨task,inside,found⟩ := ih ended later
          exact ⟨task,.there (.inr ⟨rfl,issue,given⟩) inside,found⟩
    · rw [visit_of_output given] at done
      obtain ⟨others,ended,rfl⟩ := Run.map_outcome_ok.mp done
      obtain ⟨task,inside,found⟩ := ih ended member
      exact ⟨task,.there (.inl ⟨output,given⟩) inside,found⟩

/-- The failures of a visit keep the order of the parts, each part failing once at most. -/
theorem visit_failures_sublist {visited : Visit κ}
    (done : (visit immediate serial tasks).outcome = .ok visited) :
    List.Sublist (visited.failures.map (·.1)) (tasks.map (·.key)) := by
  induction tasks generalizing visited with
  | nil =>
    cases done
    exact .slnil
  | cons first rest ih =>
    rcases given : (first.read serial).outcome with early | issue | output
    · rw [visit_of_fault given] at done
      cases done
    · cases immediate with
      | true =>
        rw [visit_of_issue_immediate given] at done
        cases done
        exact (List.nil_sublist _).cons_cons first.key
      | false =>
        rw [visit_of_issue given] at done
        obtain ⟨others,ended,rfl⟩ := Run.map_outcome_ok.mp done
        exact (ih ended).cons_cons first.key
    · rw [visit_of_output given] at done
      obtain ⟨others,ended,rfl⟩ := Run.map_outcome_ok.mp done
      exact (ih ended).cons first.key

/-- A retained visit that ends has read every part, and its failures are all there are. -/
theorem visit_retained {visited : Visit κ}
    (done : (visit false serial tasks).outcome = .ok visited) :
    (∀ task ∈ tasks, (task.read serial).GoesOn false) ∧
      visited.failures = tasks.filterMap (Task.failure? serial) := by
  induction tasks generalizing visited with
  | nil =>
    cases done
    exact ⟨by simp,rfl⟩
  | cons first rest ih =>
    rcases given : (first.read serial).outcome with early | issue | output
    · rw [visit_of_fault given] at done
      cases done
    · rw [visit_of_issue given] at done
      obtain ⟨others,ended,rfl⟩ := Run.map_outcome_ok.mp done
      obtain ⟨passed,same⟩ := ih ended
      have adds : Task.failure? serial first = some (first.key,issue) := by
        simp [Task.failure?,given]
      refine ⟨List.forall_mem_cons.mpr ⟨.inr ⟨rfl,issue,given⟩,passed⟩,?_⟩
      rw [List.filterMap_cons_some adds,← same]
      rfl
    · rw [visit_of_output given] at done
      obtain ⟨others,ended,rfl⟩ := Run.map_outcome_ok.mp done
      obtain ⟨passed,same⟩ := ih ended
      have adds : Task.failure? serial first = none := by simp [Task.failure?,given]
      refine ⟨List.forall_mem_cons.mpr ⟨.inl ⟨output,given⟩,passed⟩,?_⟩
      rw [List.filterMap_cons_none adds,← same]
      rfl

/-- What a visit reports of the failures there are: all of them, or the first one alone. -/
def reported {α : Type} (immediate : Bool) (failures : List α) : List α :=
  if immediate then failures.take 1 else failures

/-- Where no part faults a visit ends, and reports the failures of the parts in order. -/
theorem visit_reports (immediate : Bool)
    (calm : ∀ task ∈ tasks, ∀ fault, (task.read serial).outcome ≠ .error fault) :
    ∃ visited, (visit immediate serial tasks).outcome = .ok visited ∧
      visited.failures = reported immediate (tasks.filterMap (Task.failure? serial)) := by
  induction tasks with
  | nil => exact ⟨⟨[],[]⟩,rfl,by cases immediate <;> rfl⟩
  | cons first rest ih =>
    obtain ⟨quiet,others⟩ := List.forall_mem_cons.mp calm
    obtain ⟨visited,done,same⟩ := ih others
    rcases given : (first.read serial).outcome with fault | issue | output
    · exact (quiet fault given).elim
    · have adds : Task.failure? serial first = some (first.key,issue) := by
        simp [Task.failure?,given]
      rw [List.filterMap_cons_some adds]
      cases immediate with
      | true =>
        -- The visit is over here; what the other parts would give is not asked.
        exact ⟨⟨[],[(first.key,issue)]⟩,visit_of_issue_immediate given,rfl⟩
      | false =>
        refine ⟨visited.addFailure first.key issue,?_,?_⟩
        · rw [visit_of_issue given]
          exact Run.map_outcome_ok.mpr ⟨visited,done,rfl⟩
        · exact congrArg ((first.key,issue) :: ·) same
    · have adds : Task.failure? serial first = none := by simp [Task.failure?,given]
      rw [List.filterMap_cons_none adds]
      refine ⟨visited.addOutput first.key output,?_,same⟩
      rw [visit_of_output given]
      exact Run.map_outcome_ok.mpr ⟨visited,done,rfl⟩

/-- A visit without failures holds the output of every part. -/
theorem visit_clean {visited : Visit κ}
    (done : (visit immediate serial tasks).outcome = .ok visited) (clean : visited.failures = []) :
    visited.outputs.map (·.1) = tasks.map (·.key) ∧
      List.Forall₂ (fun task output => (task.read serial).outcome = .ok (.ok output)) tasks
        (visited.outputs.map (·.2)) := by
  induction tasks generalizing visited with
  | nil =>
    cases done
    exact ⟨rfl,.nil⟩
  | cons first rest ih =>
    rcases given : (first.read serial).outcome with early | issue | output
    · rw [visit_of_fault given] at done
      cases done
    · cases immediate with
      | true =>
        rw [visit_of_issue_immediate given] at done
        cases done
        cases clean
      | false =>
        rw [visit_of_issue given] at done
        obtain ⟨others,_,rfl⟩ := Run.map_outcome_ok.mp done
        cases clean
    · rw [visit_of_output given] at done
      obtain ⟨others,ended,rfl⟩ := Run.map_outcome_ok.mp done
      obtain ⟨keys,outputs⟩ := ih ended clean
      exact ⟨congrArg (first.key :: ·) keys,.cons given outputs⟩

/-- A visit whose parts all give an output ends without failures, and holds the outputs. -/
theorem visit_of_outputs {outputs : List Value}
    (answered : List.Forall₂ (fun task output => (task.read serial).outcome = .ok (.ok output))
      tasks outputs) :
    (visit immediate serial tasks).outcome = .ok ⟨(tasks.map (·.key)).zip outputs,[]⟩ := by
  induction answered with
  | nil => rfl
  | cons given _ ih =>
    rw [visit_of_output given]
    exact Run.map_outcome_ok.mpr ⟨_,ih,rfl⟩

theorem visit_endedBy {task : Task κ} {α : Type} {part : Run α} {fault : Fault}
    (reached : Reached (fun earlier => (earlier.read serial).GoesOn immediate) tasks task)
    (ended : (task.read serial).EndedBy part fault) :
    (visit immediate serial tasks).EndedBy part fault := by
  induction reached with
  | here => exact ended.bind _
  | there passed _ ih =>
    rcases passed with ⟨output,given⟩ | ⟨rfl,issue,given⟩
    · exact .after given (Run.endedBy_map.mpr (ih ended))
    · exact .after given (Run.endedBy_map.mpr (ih ended))

end

namespace Choice

variable {serial : Nat} {value : Value} {options : List Parser}

theorem firstMatch_fault {fault : Fault}
    (faulted : (firstMatch serial value options).outcome = .error fault) :
    ∃ option, Reached (fun earlier : Parser => (earlier.read serial value).Rejects) options option ∧
      (option.read serial value).outcome = .error fault := by
  induction options with
  | nil => cases faulted
  | cons first rest ih =>
    rcases Run.bind_outcome_error.mp faulted with early | ⟨answer,given,later⟩
    · exact ⟨first,.here,early⟩
    · rcases answer with issue | output
      · obtain ⟨option,inside,ended⟩ := ih later
        exact ⟨option,.there ⟨issue,given⟩ inside,ended⟩
      · cases later

theorem firstMatch_output {output : Value}
    (matched : (firstMatch serial value options).outcome = .ok (some output)) :
    ∃ option, Reached (fun earlier : Parser => (earlier.read serial value).Rejects) options option ∧
      (option.read serial value).outcome = .ok (.ok output) := by
  induction options with
  | nil => cases matched
  | cons first rest ih =>
    obtain ⟨answer,given,later⟩ := Run.bind_outcome_ok.mp matched
    rcases answer with issue | accepted
    · obtain ⟨option,inside,ended⟩ := ih later
      exact ⟨option,.there ⟨issue,given⟩ inside,ended⟩
    · cases later
      exact ⟨first,.here,given⟩

theorem firstMatch_endedBy {option : Parser} {α : Type} {part : Run α} {fault : Fault}
    (reached : Reached (fun earlier : Parser => (earlier.read serial value).Rejects) options option)
    (ended : (option.read serial value).EndedBy part fault) :
    (firstMatch serial value options).EndedBy part fault := by
  induction reached with
  | here => exact ended.bind _
  | there passed _ ih =>
    obtain ⟨issue,given⟩ := passed
    exact .after given (ih ended)

end Choice
end Schemata
