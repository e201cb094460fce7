import Mathlib.Data.List.Forall2
import Schemata.Proofs.Complaints
import Schemata.Proofs.Variation

/-!
Runs that match. Two runs match when they record the same and end alike: in the same fault, or
in related values. There may be faults that excuse a run that ends in one from matching. Readings
with varied trees match, up to a likeness of outputs and of issues, as soon as the likeness is kept
where containers put their parts together and where functions are called on outputs; how the parts
of a reading follow each other is treated here once.
-/
namespace Schemata

/-- Both are errors or both are values, and they are related. -/
inductive Alike {ε δ α β : Type} (errors : ε → δ → Prop) (values : α → β → Prop) :
    Except ε α → Except δ β → Prop
  | error {first : ε} {second : δ} (same : errors first second) :
      Alike errors values (.error first) (.error second)
  | ok {first : α} {second : β} (same : values first second) :
      Alike errors values (.ok first) (.ok second)

/-- The runs record the same and end alike, unless one of them ends in a fault that is an excuse. -/
inductive Run.Matches {α β : Type} (excuse : Fault → Prop) (related : α → β → Prop)
    (first : Run α) (second : Run β) : Prop
  | same (events : first.events = second.events)
      (outcome : Alike Eq related first.outcome second.outcome)
  | excused {fault : Fault} (known : excuse fault)
      (ended : first.outcome = .error fault ∨ second.outcome = .error fault)

namespace Run

variable {α β γ δ : Type} {excuse : Fault → Prop} {related : α → β → Prop}
  {others : γ → δ → Prop}

theorem matches_pure {a : α} {b : β} (same : related a b) :
    Matches excuse related (pure a) (pure b) := .same rfl (.ok same)

theorem pure_ok_ite {ε : Type} (condition : Prop) [Decidable condition] (yes no : α) :
    (if condition then pure (.ok yes) else pure (.ok no) : Run (Except ε α)) =
      pure (.ok (if condition then yes else no)) := by
  split <;> rfl

theorem matches_self {related : α → α → Prop} (reflexive : ∀ a, related a a) (run : Run α) :
    Matches excuse related run run := by
  refine .same rfl ?_
  rcases run.outcome with fault | a
  · exact .error rfl
  · exact .ok (reflexive a)

theorem Matches.bind {first : Run α} {second : Run β} {next : α → Run γ} {last : β → Run δ}
    (same : Matches excuse related first second)
    (continued : ∀ a b, related a b → Matches excuse others (next a) (last b)) :
    Matches excuse others (first >>= next) (second >>= last) := by
  rcases first with ⟨events,outcome⟩
  rcases second with ⟨records,ending⟩
  cases same with
  | same recorded ended =>
    obtain rfl : events = records := recorded
    rcases ended with rfl | alike
    · exact .same rfl (.error rfl)
    · cases continued _ _ alike with
      | same recorded ended => exact .same (congrArg (events ++ ·) recorded) ended
      | excused known ended => exact .excused known ended
  | excused known ended =>
    refine .excused known (ended.imp ?_ ?_)
    · exact fun early => bind_outcome_of_error early _
    · exact fun early => bind_outcome_of_error early _

theorem Matches.map {first : Run α} {second : Run β} {change : α → γ} {turn : β → δ}
    (same : Matches excuse related first second)
    (continued : ∀ a b, related a b → others (change a) (turn b)) :
    Matches excuse others (change <$> first) (turn <$> second) := by
  rcases first with ⟨events,outcome⟩
  rcases second with ⟨records,ending⟩
  cases same with
  | same recorded ended =>
    refine .same recorded ?_
    rcases ended with rfl | alike
    · exact .error rfl
    · exact .ok (continued _ _ alike)
  | excused known ended =>
    exact .excused known (ended.imp map_outcome_error.mpr map_outcome_error.mpr)

/-- Where nothing is an excuse, runs that match record the same and end alike. -/
theorem Matches.strictly {first : Run α} {second : Run β}
    (same : Matches (fun _ => False) related first second) :
    first.events = second.events ∧ Alike Eq related first.outcome second.outcome := by
  cases same with
  | same recorded ended => exact ⟨recorded,ended⟩
  | excused known _ => exact known.elim

end Run

/-- What is asked of two answers that count as the same, and which faults excuse a run. -/
structure Likeness where
  issues : Issue → Issue → Prop
  outputs : Value → Value → Prop
  excuse : Fault → Prop

section

variable {κ : Type}

def SameKey {α β : Type} (related : α → β → Prop) (first : κ × α) (second : κ × β) : Prop :=
  first.1 = second.1 ∧ related first.2 second.2

theorem map_eq_of_sameKey {ι α β : Type} {related : α → β → Prop} {f : α → ι} {g : β → ι}
    (same : ∀ a b, related a b → f a = g b) {first : List (κ × α)} {second : List (κ × β)}
    (keyed : List.Forall₂ (SameKey related) first second) :
    (first.map fun entry => (entry.1,f entry.2)) = second.map fun entry => (entry.1,g entry.2) := by
  induction keyed with
  | nil => rfl
  | cons head _ ih => rw [List.map_cons,List.map_cons,ih,head.1,same _ _ head.2]

theorem eq_of_sameKey {α : Type} {first second : List (κ × α)}
    (keyed : List.Forall₂ (SameKey Eq) first second) : first = second := by
  simpa using map_eq_of_sameKey (f := id) (g := id) (fun a b same => same) keyed

structure Visit.Alike (likeness : Likeness) (first second : Visit κ) : Prop where
  outputs : List.Forall₂ (SameKey likeness.outputs) first.outputs second.outputs
  failures : List.Forall₂ (SameKey likeness.issues) first.failures second.failures

end

namespace Likeness

abbrev Answers (likeness : Likeness) : Except Issue Value → Except Issue Value → Prop :=
  Alike likeness.issues likeness.outputs

/-- What a likeness has to keep for the readings of trees that vary to match. -/
structure Kept (likeness : Likeness) (variation : Variation) : Prop where
  issue : ∀ issue, likeness.issues issue issue
  output : ∀ output, likeness.outputs output output
  configs : ∀ {before after : Config Stage}, variation.configs before after → before = after
  switches : ∀ {before after : Bool}, variation.switches before after → before = after
  flags : ∀ {before after : Flags}, variation.flags before after →
    before.immediate = after.immediate
  /-- The failures of the items, put together. -/
  array : ∀ (message : String) {first second : List (Int × Issue)},
    List.Forall₂ (SameKey likeness.issues) first second →
      likeness.issues (.array message none first) (.array message none second)
  object : ∀ {before after : Flags}, variation.flags before after → ∀ (message : String)
    {first second : List (String × Issue)}, List.Forall₂ (SameKey likeness.issues) first second →
      likeness.issues
        (if before.pathed then (Issue.object message none first).tagPaths []
          else .object message none first)
        (if after.pathed then (Issue.object message none second).tagPaths []
          else .object message none second)
  list : ∀ (isList : Bool) (serial : Nat) (given : Value) (items : List Value)
    {first second : List (Int × Value)}, List.Forall₂ (SameKey likeness.outputs) first second →
      likeness.outputs
        (if isList && first.map (·.2) == items then given else .list (.made serial) (first.map (·.2)))
        (if isList && second.map (·.2) == items then given
          else .list (.made serial) (second.map (·.2)))
  record : ∀ {before after : Flags}, variation.flags before after → ∀ (isDict : Bool)
    (serial : Nat) (given : Value) (access : Access) (entries : Entries) (items : List Value)
    {first second : List (String × Value)}, List.Forall₂ (SameKey likeness.outputs) first second →
      Run.Matches likeness.excuse likeness.outputs
        (Run.lift (Record.project before.strict isDict (first.map (·.2) == items) serial given
          access entries first))
        (Run.lift (Record.project after.strict isDict (second.map (·.2) == items) serial given
          access entries second))
  checks : ∀ {config : Config Stage}, variation.configs config config →
    ∀ (source : Kind) (serial : Nat) (input : Value) {first second : Value},
      likeness.outputs first second → Run.Matches likeness.excuse likeness.Answers
        (Node.checked source serial input first config.checks)
        (Node.checked source serial input second config.checks)
  functions : ∀ {before after : Stage}, variation.functions before after →
    ∀ (source : Kind) (serial : Nat) {first second : Value},
      likeness.outputs first second → Run.Matches likeness.excuse likeness.Answers
        (before.consult serial first (.transform first source) none)
        (after.consult serial second (.transform second source) none)

variable {likeness : Likeness}

/-- Goes on with outputs that are alike and stops at issues that are. -/
theorem matches_andThen {middle : Value → Value → Prop} {first second : Run (Except Issue Value)}
    {next last : Value → Run (Except Issue Value)}
    (same : Run.Matches likeness.excuse (Alike likeness.issues middle) first second)
    (continued : ∀ a b, middle a b → Run.Matches likeness.excuse likeness.Answers (next a) (last b)) :
    Run.Matches likeness.excuse likeness.Answers (first.andThen next) (second.andThen last) := by
  apply Run.Matches.bind same
  intro _ _ answered
  rcases answered with alike | alike
  · exact Run.matches_pure (.error alike)
  · exact continued _ _ alike

theorem answers_self (reflexive : ∀ issue, likeness.issues issue issue)
    {outputs : Value → Value → Prop} (same : ∀ output, outputs output output)
    (answer : Except Issue Value) : Alike likeness.issues outputs answer answer := by
  rcases answer with issue | output
  · exact .error (reflexive issue)
  · exact .ok (same output)

theorem Kept.self {variation : Variation} (kept : likeness.Kept variation)
    (run : Run (Except Issue Value)) : Run.Matches likeness.excuse likeness.Answers run run :=
  Run.matches_self (answers_self kept.issue kept.output) run

end Likeness

structure Parser.Alike (likeness : Likeness) (first second : Parser) : Prop where
  kind : first.kind = second.kind
  read : ∀ serial value,
    Run.Matches likeness.excuse likeness.Answers (first.read serial value) (second.read serial value)

structure Task.Alike {κ : Type} (likeness : Likeness) (first second : Task κ) : Prop where
  key : first.key = second.key
  item : first.item = second.item
  refusal : first.refusal = second.refusal
  parser : first.parser.Alike likeness second.parser

theorem Task.Alike.read {κ : Type} {likeness : Likeness} {first second : Task κ}
    (same : first.Alike likeness second) (serial : Nat) :
    Run.Matches likeness.excuse likeness.Answers (first.read serial) (second.read serial) := by
  rcases first with ⟨key,item,refusal,parser⟩
  rcases second with ⟨_,_,_,other⟩
  obtain ⟨rfl,rfl,rfl,parsers⟩ := same
  cases refusal with
  | none => exact parsers.read serial item
  | some fault => exact .same rfl (.error rfl)

section

variable {κ : Type} {likeness : Likeness} {first second : List (Task κ)}

theorem visit_matches (tasks : List.Forall₂ (Task.Alike likeness) first second)
    (immediate : Bool) (serial : Nat) :
    Run.Matches likeness.excuse (Visit.Alike likeness) (visit immediate serial first)
      (visit immediate serial second) := by
  induction tasks with
  | nil => exact Run.matches_pure ⟨.nil,.nil⟩
  | cons head _ ih =>
    have key := head.key
    apply Run.Matches.bind (head.read serial)
    intro _ _ answered
    rcases answered with alike | alike
    · cases immediate with
      | true => exact Run.matches_pure ⟨.nil,.cons ⟨key,alike⟩ .nil⟩
      | false =>
        apply ih.map
        intro visited visiting same
        exact ⟨same.outputs,.cons ⟨key,alike⟩ same.failures⟩
    · apply ih.map
      intro visited visiting same
      exact ⟨.cons ⟨key,alike⟩ same.outputs,same.failures⟩

theorem isEmpty_of_forall₂ {α β : Type} {related : α → β → Prop} {left : List α} {right : List β}
    (same : List.Forall₂ related left right) : left.isEmpty = right.isEmpty := by
  cases same <;> rfl

end

variable {likeness : Likeness} {variation : Variation} {serial : Nat}

namespace Sequence

theorem read_matches {σ : Type} {config : Config σ} (kept : likeness.Kept variation)
    {first second : Parser} (element : first.Alike likeness second) (limits : Limits Nat)
    (immediate isList : Bool) (given : Value) (items : List Value) :
    Run.Matches likeness.excuse likeness.Answers
      (read config first limits immediate isList serial given items)
      (read config second limits immediate isList serial given items) := by
  have alike : List.Forall₂ (Task.Alike likeness) (tasks first items) (tasks second items) :=
    tasks_related (fun key item => ⟨rfl,rfl,rfl,element⟩) items
  apply Limit.guard_related kept.self
  apply Limit.guard_related kept.self
  apply (visit_matches alike immediate serial).bind
  intro visited visiting same
  rw [isEmpty_of_forall₂ same.failures]
  split
  · simp only [Run.pure_ok_ite]
    rw [Visit.unchanged,Visit.unchanged,Task.items_eq (fun task other same => same.item) alike]
    exact Run.matches_pure (.ok (kept.list isList serial given _ same.outputs))
  · apply (Run.matches_self (fun text => rfl) _).bind
    intro message other equal
    subst equal
    exact Run.matches_pure (.error (kept.array message same.failures))

theorem step_matches {σ : Type} {config : Config σ} (kept : likeness.Kept variation)
    {first second : Parser} (element : first.Alike likeness second) (limits : Limits Nat)
    (immediate : Bool) (value : Value) :
    Run.Matches likeness.excuse likeness.Answers (step config first limits immediate serial value)
      (step config second limits immediate serial value) := by
  cases value
  case list identity items => exact read_matches kept element limits immediate true _ items
  case tuple identity items => exact read_matches kept element limits immediate false _ items
  all_goals exact kept.self _

end Sequence

namespace Record

theorem read_matches {σ : Type} {config : Config σ} (kept : likeness.Kept variation)
    {first second : List (String × Parser)}
    (fields : FieldsVaried (Parser.Alike likeness) first second) {before after : Flags}
    (varied : variation.flags before after) (isDict : Bool) (given : Value) (access : Access)
    (entries : Entries) :
    Run.Matches likeness.excuse likeness.Answers
      (read config first before isDict serial given access entries)
      (read config second after isDict serial given access entries) := by
  have alike : List.Forall₂ (Task.Alike likeness) (tasks first access entries)
      (tasks second access entries) :=
    tasks_related fields (fun key item refusal parser other same => ⟨rfl,rfl,rfl,same⟩) access entries
  rw [read,read,kept.flags varied]
  apply (visit_matches alike after.immediate serial).bind
  intro visited visiting same
  rw [isEmpty_of_forall₂ same.failures]
  split
  · simp only [Visit.unchanged,Task.items_eq (fun task other same => same.item) alike]
    apply (kept.record varied isDict serial given access entries _ same.outputs).bind
    intro output other alike
    exact Run.matches_pure (.ok alike)
  · apply (Run.matches_self (fun text => rfl) _).bind
    intro message other equal
    subst equal
    exact Run.matches_pure (.error (kept.object varied message same.failures))

theorem step_matches {σ : Type} {config : Config σ} (kept : likeness.Kept variation)
    {first second : List (String × Parser)}
    (fields : FieldsVaried (Parser.Alike likeness) first second) {before after : Flags}
    (varied : variation.flags before after) (value : Value) :
    Run.Matches likeness.excuse likeness.Answers (step config first before serial value)
      (step config second after serial value) := by
  cases value
  case dict identity entries => exact read_matches kept fields varied true _ _ entries
  case mapping identity entries => exact read_matches kept fields varied false _ _ entries
  all_goals exact kept.self _

end Record

namespace Choice

theorem firstMatch_matches {first second : List Parser}
    (options : List.Forall₂ (Parser.Alike likeness) first second) (value : Value) :
    Run.Matches likeness.excuse (Option.Rel likeness.outputs) (firstMatch serial value first)
      (firstMatch serial value second) := by
  induction options with
  | nil => exact Run.matches_pure .none
  | cons head _ ih =>
    apply Run.Matches.bind (head.read serial value)
    intro _ _ answered
    rcases answered with _ | alike
    · exact ih
    · exact Run.matches_pure (.some alike)

theorem union_matches {σ : Type} {config : Config σ} (kept : likeness.Kept variation)
    {first second : List Parser} (options : List.Forall₂ (Parser.Alike likeness) first second)
    (value : Value) :
    Run.Matches likeness.excuse likeness.Answers (union config first serial value)
      (union config second serial value) := by
  apply (firstMatch_matches options value).bind
  intro _ _ matched
  rcases matched with alike | _
  · exact Run.matches_pure (.ok alike)
  · -- The note tells the number of alternatives, which is the same in both.
    rw [options.length_eq]
    exact kept.self _

end Choice

theorem step_matches (kept : likeness.Kept variation) {first second : Form Stage Parser}
    (varied : Form.Varied variation (Parser.Alike likeness) first second)
    (config : Config Stage) (serial : Nat) (value : Value) :
    Run.Matches likeness.excuse likeness.Answers (first.step config serial value)
      (second.step config serial value) := by
  cases varied with
  | string | number | bigint | boolean | unknown | any | literal => exact kept.self _
  | array element switched =>
    rw [kept.switches switched]
    exact Sequence.step_matches kept element _ _ value
  | object fields flags => exact Record.step_matches kept fields flags value
  | union options => exact Choice.union_matches kept options value
  | optional inner | nullable inner => exact inner.read serial value
  | transform inner function =>
    apply Likeness.matches_andThen (inner.read serial value)
    intro output other alike
    rw [inner.kind]
    exact kept.functions function _ serial alike

theorem node_matches (kept : likeness.Kept variation) {before after : Config Stage}
    {first second : Form Stage Parser} (config : variation.configs before after)
    (varied : Form.Varied variation (Parser.Alike likeness) first second) :
    (Node.parser ⟨before,first⟩).Alike likeness (Node.parser ⟨after,second⟩) := by
  obtain rfl := kept.configs config
  refine ⟨varied.kind,fun serial value => ?_⟩
  have kinds : Node.kind (⟨before,first⟩ : Node Stage Parser) = Node.kind ⟨before,second⟩ :=
    varied.kind
  simp only [Node.parser,Node.read,kinds]
  let refining := Node.refined (Node.kind ⟨before,second⟩) serial value before.refines value
  have same : Run.Matches likeness.excuse (Alike likeness.issues Eq) refining refining :=
    Run.matches_self (Likeness.answers_self kept.issue fun output => rfl) _
  apply Likeness.matches_andThen same
  intro current _ same
  subst same
  simp only [Node.validated,kinds,varied.sentinel]
  split
  · exact Run.matches_pure (.ok (kept.output current))
  · apply Likeness.matches_andThen (step_matches kept varied before serial current)
    intro output other alike
    exact kept.checks config _ serial current alike

/-- Readings with trees that vary match, up to a likeness that the variation keeps. -/
theorem Likeness.Kept.parser (kept : likeness.Kept variation) {first second : Schema}
    (varied : first.Varied variation second) : first.parser.Alike likeness second.parser :=
  varied.parser (R := Parser.Alike likeness) (node_matches kept)

end Schemata
