import Schemata.Fault
import Schemata.Kind
import Schemata.Value.Identity

/-!
Runs: computations that record what happened, in order, and end in a value or a fault.
What was recorded before a fault is kept. The record holds every call of a user's function,
entered before the function acts, and the notes meant for a log.
-/
namespace Schemata

/-- What a user's function is told about the place it is called from. -/
inductive Context where
  | refine (input : Value) (source : Kind)
  | check (input output : Value) (source : Kind)
  | transform (output : Value) (source : Kind)
  deriving DecidableEq

namespace Context

def stage : Context → StageKind
  | refine .. => .refine
  | check .. => .check
  | transform .. => .transform

def source : Context → Kind
  | refine _ source | check _ _ source | transform _ source => source

def input? : Context → Option Value
  | refine input _ | check input _ _ => some input
  | transform .. => none

def output? : Context → Option Value
  | check _ output _ | transform output _ => some output
  | refine .. => none

/-- The issue of the context's stage with the given message. -/
def issue (context : Context) (message : String) : Issue :=
  .staged context.stage message context.source.name none

end Context

inductive Note where
  | raised (stage : StageKind) (source : Kind) (fault : String)
  | unmatched (tried : Nat)
  | refused (source : Kind) (issueKind : String)
  deriving DecidableEq, Repr

def Note.message : Note → String
  | .raised stage source _ => stage.issueName ++ " function raised in " ++ source.name ++ " schema"
  | .unmatched tried => "No union alternative matched (" ++ toString tried ++ " tried)"
  | .refused source issueKind =>
    source.name ++ " schema rejected input with " ++ issueKind ++ " issue"

inductive Event where
  | call (label : Option String) (value : Value) (context : Context)
  | note (note : Note)
  deriving DecidableEq

structure Run (α : Type) where
  events : List Event
  outcome : Except Fault α

namespace Run

protected def pure {α : Type} (a : α) : Run α := ⟨[],.ok a⟩

protected def bind {α β : Type} (first : Run α) (next : α → Run β) : Run β :=
  match first.outcome with
  | .ok a => ⟨first.events ++ (next a).events,(next a).outcome⟩
  | .error fault => ⟨first.events,.error fault⟩

/-- Changes the value and keeps the record. -/
protected def map {α β : Type} (change : α → β) (run : Run α) : Run β :=
  ⟨run.events,run.outcome.map change⟩

instance : Monad Run where
  pure := Run.pure
  bind := Run.bind
  map := Run.map

def fail {α : Type} (fault : Fault) : Run α := ⟨[],.error fault⟩

def record (event : Event) : Run Unit := ⟨[event],.ok ()⟩

def lift {α : Type} (outcome : Except Fault α) : Run α := ⟨[],outcome⟩

/-- Hands an error over as a value; an abort stays an abort. -/
def attempt {α : Type} (run : Run α) : Run (Except Fault α) :=
  match run.outcome with
  | .ok a => ⟨run.events,.ok (.ok a)⟩
  | .error (.abort text) => ⟨run.events,.error (.abort text)⟩
  | .error fault => ⟨run.events,.ok (.error fault)⟩

/-- Goes on with an accepted value and stops at an issue. -/
def andThen {α β : Type} (first : Run (Except Issue α)) (next : α → Run (Except Issue β)) :
    Run (Except Issue β) := do
  match ← first with
  | .error issue => return .error issue
  | .ok a => next a

theorem pure_eq {α : Type} (a : α) : (pure a : Run α) = ⟨[],.ok a⟩ := rfl

theorem bind_ok {α β : Type} (events : List Event) (a : α) (next : α → Run β) :
    (⟨events,.ok a⟩ >>= next : Run β) = ⟨events ++ (next a).events,(next a).outcome⟩ := rfl

theorem bind_error {α β : Type} (events : List Event) (fault : Fault) (next : α → Run β) :
    (⟨events,.error fault⟩ >>= next : Run β) = ⟨events,.error fault⟩ := rfl

theorem map_ok {α β : Type} (events : List Event) (a : α) (change : α → β) :
    (change <$> ⟨events,.ok a⟩ : Run β) = ⟨events,.ok (change a)⟩ := rfl

theorem map_error {α β : Type} (events : List Event) (fault : Fault) (change : α → β) :
    (change <$> ⟨events,.error fault⟩ : Run β) = ⟨events,.error fault⟩ := rfl

instance : LawfulMonad Run := LawfulMonad.mk' Run
  (by
    intro α run
    rcases run with ⟨events,_ | a⟩ <;> rfl)
  (by intro α β a next; simp [Bind.bind,Pure.pure,Run.bind,Run.pure])
  (by
    intro α β γ run next last
    rcases run with ⟨events,_ | a⟩
    · rfl
    · simp only [bind_ok]
      rcases next a with ⟨more,_ | b⟩
      · rfl
      · simp [bind_ok])
  (by intros; rfl)
  (by intros; rfl)
  (by intros; rfl)
  (by
    intro α β change run
    rcases run with ⟨events,_ | a⟩
    · rfl
    · simp [bind_ok,map_ok,pure_eq])
  (by intros; rfl)

end Run
end Schemata
