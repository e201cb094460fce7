import Schemata.Proofs.Complaints
import Schemata.Proofs.IssueTree
import Schemata.Proofs.Variation

/-!
Immediate and retained visits. Where containers of a tree are switched to stop at their first
failure, validation gives the same output, and where it fails it reports some of what it
reported before, the first of it first. The failures of an immediate visit are an initial piece
of the retained ones, and the relation of a report to a piece of it is kept by gathering.
-/
namespace Schemata

structure Flags.Switched (before after : Flags) : Prop where
  immediate : before.immediate = true → after.immediate = true
  strict : after.strict = before.strict
  pathed : after.pathed = before.pathed

/-- Any arrays and objects may be switched from retained to immediate. -/
def Variation.immediacy : Variation :=
  { none with
    switches := fun before after => before = true → after = true
    flags := Flags.Switched }

/-- Where the first run gives a value, the second gives a related one. -/
def Run.Follows {α β : Type} (related : α → β → Prop) (first : Run α) (second : Run β) : Prop :=
  ∀ a, first.outcome = .ok a → ∃ b, second.outcome = .ok b ∧ related a b

namespace Run

variable {α β γ δ : Type} {related : α → β → Prop} {others : γ → δ → Prop}

theorem follows_pure {a : α} {b : β} (same : related a b) :
    Follows related (pure a) (pure b) := by
  intro _ given
  cases given
  exact ⟨b,rfl,same⟩

theorem follows_self {related : α → α → Prop} (reflexive : ∀ a, related a a) (run : Run α) :
    Follows related run run :=
  fun a given => ⟨a,given,reflexive a⟩

theorem Follows.bind {first : Run α} {second : Run β} {next : α → Run γ} {last : β → Run δ}
    (follows : Follows related first second)
    (continued : ∀ a b, related a b → Follows others (next a) (last b)) :
    Follows others (first >>= next) (second >>= last) := by
  intro c given
  obtain ⟨a,started,ended⟩ := bind_outcome_ok.mp given
  obtain ⟨b,begun,same⟩ := follows a started
  obtain ⟨d,finished,alike⟩ := continued a b same c ended
  exact ⟨d,bind_outcome_ok.mpr ⟨b,begun,finished⟩,alike⟩

theorem Follows.map {first : Run α} {second : Run β} {change : α → γ} {turn : β → δ}
    (follows : Follows related first second)
    (continued : ∀ a b, related a b → others (change a) (turn b)) :
    Follows others (change <$> first) (turn <$> second) := by
  intro c given
  obtain ⟨a,started,rfl⟩ := map_outcome_ok.mp given
  obtain ⟨b,begun,same⟩ := follows a started
  exact ⟨turn b,map_outcome_ok.mpr ⟨b,begun,rfl⟩,continued a b same⟩

end Run

/-- The second issue reports some of what the first one reports, and the same first. -/
def Issue.Cuts (full cut : Issue) : Prop :=
  (cut.flatten []).Sublist (full.flatten []) ∧ (cut.flatten []).head? = (full.flatten []).head?

theorem Issue.cuts_self (issue : Issue) : issue.Cuts issue := ⟨.refl _,rfl⟩

theorem Issue.Cuts.flatten {full cut : Issue} (cuts : full.Cuts cut) (base : Path) :
    (cut.flatten base).Sublist (full.flatten base) ∧
      (cut.flatten base).head? = (full.flatten base).head? := by
  rw [flatten_eq_map full,flatten_eq_map cut,List.head?_map,List.head?_map,cuts.2]
  exact ⟨cuts.1.map _,rfl⟩

inductive Answered : Except Issue Value → Except Issue Value → Prop
  | output (output : Value) : Answered (.ok output) (.ok output)
  | issue {full cut : Issue} (cuts : full.Cuts cut) : Answered (.error full) (.error cut)

theorem answered_self (answer : Except Issue Value) : Answered answer answer := by
  rcases answer with issue | output
  · exact .issue issue.cuts_self
  · exact .output output

abbrev Run.Cuts (full cut : Run (Except Issue Value)) : Prop := full.Follows Answered cut

theorem Run.cuts_self (run : Run (Except Issue Value)) : run.Cuts run :=
  follows_self answered_self run

theorem Run.Cuts.andThen {full cut : Run (Except Issue Value)}
    {next last : Value → Run (Except Issue Value)} (cuts : full.Cuts cut)
    (continued : ∀ output, (next output).Cuts (last output)) :
    (full.andThen next).Cuts (cut.andThen last) := by
  refine Follows.bind cuts ?_
  intro _ _ answered
  rcases answered with output | kept
  · exact continued output
  · exact follows_pure (.issue kept)

section

variable {κ : Type}

/-- The failures of an initial piece, each of them cut; of some failures at least the first. -/
inductive Trimmed : List (κ × Issue) → List (κ × Issue) → Prop
  | none : Trimmed [] []
  | stop {key : κ} {full cut : Issue} {rest : List (κ × Issue)} (cuts : full.Cuts cut) :
      Trimmed ((key,full) :: rest) [(key,cut)]
  | more {key : κ} {full cut : Issue} {rest others : List (κ × Issue)} (cuts : full.Cuts cut)
      (trimmed : Trimmed rest others) : Trimmed ((key,full) :: rest) ((key,cut) :: others)

theorem Trimmed.isEmpty {full cut : List (κ × Issue)} (trimmed : Trimmed full cut) :
    cut.isEmpty = full.isEmpty := by
  cases trimmed <;> rfl

theorem Trimmed.flatMap {full cut : List (κ × Issue)} (trimmed : Trimmed full cut) (f : κ → Key) :
    (cut.flatMap fun entry => entry.2.flatten [f entry.1]).Sublist
        (full.flatMap fun entry => entry.2.flatten [f entry.1]) ∧
      (cut.flatMap fun entry => entry.2.flatten [f entry.1]).head? =
        (full.flatMap fun entry => entry.2.flatten [f entry.1]).head? := by
  induction trimmed with
  | none => exact ⟨.refl _,rfl⟩
  | @stop key full cut rest cuts =>
    obtain ⟨inside,same⟩ := cuts.flatten [f key]
    rw [List.flatMap_cons,List.flatMap_cons,
      List.head?_append_of_ne_nil _ (Issue.flatten_ne_nil _ _),
      List.head?_append_of_ne_nil _ (Issue.flatten_ne_nil _ _)]
    exact ⟨inside.append (List.nil_sublist _),same⟩
  | @more key full cut rest others cuts _ ih =>
    obtain ⟨inside,same⟩ := cuts.flatten [f key]
    rw [List.flatMap_cons,List.flatMap_cons,
      List.head?_append_of_ne_nil _ (Issue.flatten_ne_nil _ _),
      List.head?_append_of_ne_nil _ (Issue.flatten_ne_nil _ _)]
    exact ⟨inside.append ih.1,same⟩

theorem Trimmed.cuts {full cut : List (κ × Issue)} (trimmed : Trimmed full cut) {f : κ → Key}
    {whole piece : Issue} (failed : full ≠ [])
    (gathered : whole.children = full.map fun entry => (f entry.1,entry.2))
    (kept : piece.children = cut.map fun entry => (f entry.1,entry.2)) : whole.Cuts piece := by
  have remains : cut ≠ [] := by
    rw [← List.isEmpty_eq_false_iff] at failed ⊢
    rw [trimmed.isEmpty,failed]
  have parent : whole.children ≠ [] := by simpa [gathered] using failed
  have still : piece.children ≠ [] := by simpa [kept] using remains
  rw [Issue.Cuts,Issue.flatten_of_children parent,Issue.flatten_of_children still,gathered,kept,
    List.flatMap_map,List.flatMap_map]
  exact trimmed.flatMap f

structure Visit.Cuts (full cut : Visit κ) : Prop where
  outputs : full.failures = [] → cut.outputs = full.outputs
  failures : Trimmed full.failures cut.failures

end

structure Parser.Cuts (full cut : Parser) : Prop where
  kind : full.kind = cut.kind
  read : ∀ serial value, (full.read serial value).Cuts (cut.read serial value)

structure Task.Cuts {κ : Type} (full cut : Task κ) : Prop where
  key : full.key = cut.key
  item : full.item = cut.item
  refusal : full.refusal = cut.refusal
  parser : full.parser.Cuts cut.parser

theorem Task.Cuts.read {κ : Type} {full cut : Task κ} (cuts : full.Cuts cut) (serial : Nat) :
    (full.read serial).Cuts (cut.read serial) := by
  rcases full with ⟨key,item,refusal,parser⟩
  rcases cut with ⟨_,_,_,other⟩
  obtain ⟨rfl,rfl,rfl,parsers⟩ := cuts
  cases refusal with
  | none => exact parsers.read serial item
  | some fault => exact Run.cuts_self _

section

variable {κ : Type} {full cut : List (Task κ)} {before after : Bool}

theorem visit_cuts (tasks : List.Forall₂ Task.Cuts full cut)
    (switched : before = true → after = true) (serial : Nat) :
    Run.Follows Visit.Cuts (visit before serial full) (visit after serial cut) := by
  induction tasks with
  | nil => exact Run.follows_pure ⟨fun _ => rfl,.none⟩
  | @cons first second rest others head _ ih =>
    rcases first with ⟨key,item,refusal,parser⟩
    rcases second with ⟨_,_,_,other⟩
    have reading := head.read serial
    obtain ⟨rfl,rfl,rfl,_⟩ := head
    refine Run.Follows.bind reading ?_
    intro _ _ answered
    rcases answered with output | cuts
    · refine ih.map fun visited kept cuts => ⟨fun clean => ?_,cuts.failures⟩
      exact congrArg (List.cons _) (cuts.outputs clean)
    · -- A switched visit stops here, whatever failures the other one goes on to.
      cases before with
      | true =>
        rw [switched rfl]
        exact Run.follows_pure ⟨nofun,.stop cuts⟩
      | false =>
        cases after with
        | true =>
          intro visited given
          obtain ⟨rest,_,rfl⟩ := Run.map_outcome_ok.mp given
          exact ⟨_,rfl,nofun,.stop cuts⟩
        | false =>
          exact ih.map fun visited kept trimmed =>
            ⟨nofun,.more cuts trimmed.failures⟩

theorem Visit.Cuts.unchanged {visited kept : Visit κ} (cuts : visited.Cuts kept)
    (clean : visited.failures = []) (tasks : List.Forall₂ Task.Cuts full cut) :
    kept.unchanged cut = visited.unchanged full := by
  rw [Visit.unchanged,Visit.unchanged,cuts.outputs clean,
    Task.items_eq (fun task other cuts => cuts.item) tasks]

end

variable {σ : Type} {config : Config σ} {serial : Nat}

namespace Sequence

theorem read_cuts {full cut : Parser} (element : full.Cuts cut) {before after : Bool}
    (switched : before = true → after = true) (limits : Limits Nat) (isList : Bool)
    (given : Value) (items : List Value) :
    (read config full limits before isList serial given items).Cuts
      (read config cut limits after isList serial given items) := by
  have tasks : List.Forall₂ Task.Cuts (tasks full items) (tasks cut items) :=
    tasks_related (fun key item => ⟨rfl,rfl,rfl,element⟩) items
  apply Limit.guard_related Run.cuts_self
  apply Limit.guard_related Run.cuts_self
  refine (visit_cuts tasks switched serial).bind ?_
  intro visited kept cuts
  rw [cuts.failures.isEmpty]
  split
  · rename_i clean
    have clean : visited.failures = [] := by simpa using clean
    rw [cuts.unchanged clean tasks,cuts.outputs clean]
    exact Run.cuts_self _
  · rename_i failed
    refine (Run.follows_self (fun text => rfl) _).bind ?_
    intro message other same
    subst same
    refine Run.follows_pure (.issue (cuts.failures.cuts (f := Key.index) ?_ rfl rfl))
    simpa using failed

theorem step_cuts {full cut : Parser} (element : full.Cuts cut) {before after : Bool}
    (switched : before = true → after = true) (limits : Limits Nat) (value : Value) :
    (step config full limits before serial value).Cuts
      (step config cut limits after serial value) := by
  cases value
  case list identity items => exact read_cuts element switched limits true _ items
  case tuple identity items => exact read_cuts element switched limits false _ items
  all_goals exact Run.cuts_self _

end Sequence

namespace Record

theorem read_cuts {full cut : List (String × Parser)} (fields : FieldsVaried Parser.Cuts full cut)
    {before after : Flags} (switched : before.Switched after) (isDict : Bool) (given : Value)
    (access : Access) (entries : Entries) :
    (read config full before isDict serial given access entries).Cuts
      (read config cut after isDict serial given access entries) := by
  have tasks : List.Forall₂ Task.Cuts (tasks full access entries) (tasks cut access entries) :=
    tasks_related fields (fun key item refusal parser other cuts => ⟨rfl,rfl,rfl,cuts⟩) access entries
  refine (visit_cuts tasks switched.immediate serial).bind ?_
  intro visited kept cuts
  rw [cuts.failures.isEmpty,switched.strict,switched.pathed]
  split
  · rename_i clean
    have clean : visited.failures = [] := by simpa using clean
    rw [cuts.unchanged clean tasks,cuts.outputs clean]
    exact Run.cuts_self _
  · rename_i failed
    refine (Run.follows_self (fun text => rfl) _).bind ?_
    intro message other same
    subst same
    refine Run.follows_pure (.issue ?_)
    have whole : (Issue.object message none visited.failures).Cuts
        (.object message none kept.failures) :=
      cuts.failures.cuts (f := Key.field) (by simpa using failed) rfl rfl
    rw [Issue.Cuts,Issue.flatten_ite_tagPaths,Issue.flatten_ite_tagPaths]
    exact whole

theorem step_cuts {full cut : List (String × Parser)} (fields : FieldsVaried Parser.Cuts full cut)
    {before after : Flags} (switched : before.Switched after) (value : Value) :
    (step config full before serial value).Cuts (step config cut after serial value) := by
  cases value
  case dict identity entries => exact read_cuts fields switched true _ _ entries
  case mapping identity entries => exact read_cuts fields switched false _ _ entries
  all_goals exact Run.cuts_self _

end Record

namespace Choice

theorem firstMatch_cuts {full cut : List Parser} (options : List.Forall₂ Parser.Cuts full cut)
    (value : Value) :
    Run.Follows Eq (firstMatch serial value full) (firstMatch serial value cut) := by
  induction options with
  | nil => exact Run.follows_pure rfl
  | cons head _ ih =>
    refine Run.Follows.bind (head.read serial value) ?_
    intro _ _ answered
    rcases answered with output | _
    · exact Run.follows_pure rfl
    · exact ih

theorem union_cuts {full cut : List Parser} (options : List.Forall₂ Parser.Cuts full cut)
    (value : Value) : (union config full serial value).Cuts (union config cut serial value) := by
  refine (firstMatch_cuts options value).bind ?_
  intro matched other same
  subst same
  rcases matched with _ | output
  · -- The note tells the number of alternatives, which is the same in both.
    rw [options.length_eq]
    exact Run.cuts_self _
  · exact Run.cuts_self _

end Choice

theorem step_cuts {full cut : Form Stage Parser}
    (varied : Form.Varied .immediacy Parser.Cuts full cut) (config : Config Stage) (serial : Nat)
    (value : Value) : (full.step config serial value).Cuts (cut.step config serial value) := by
  cases varied with
  | string | number | bigint | boolean | unknown | any | literal => exact Run.cuts_self _
  | array element switched => exact Sequence.step_cuts element switched _ value
  | object fields switched => exact Record.step_cuts fields switched value
  | union options => exact Choice.union_cuts options value
  | optional inner | nullable inner => exact inner.read serial value
  | transform inner function =>
    cases function
    refine Run.Cuts.andThen (inner.read serial value) fun output => ?_
    rw [inner.kind]
    exact Run.cuts_self _

theorem node_cuts {before after : Config Stage} {full cut : Form Stage Parser}
    (config : before = after) (varied : Form.Varied .immediacy Parser.Cuts full cut) :
    (Node.parser ⟨before,full⟩).Cuts (Node.parser ⟨after,cut⟩) := by
  subst config
  refine ⟨varied.kind,fun serial value => ?_⟩
  have kinds : Node.kind (⟨before,full⟩ : Node Stage Parser) = Node.kind ⟨before,cut⟩ := varied.kind
  simp only [Node.parser,Node.read,kinds]
  refine Run.Cuts.andThen (Run.cuts_self _) fun current => ?_
  simp only [Node.validated,kinds,varied.sentinel]
  split
  · exact Run.cuts_self _
  · exact Run.Cuts.andThen (step_cuts varied before serial current) fun output => Run.cuts_self _

namespace Schema

/-- Where a tree answers at all, the tree with some containers switched to immediate answers with
the same output, or with an issue that reports some of what the first one does, in the same order
and with the same beginning. -/
theorem safe_parse_immediate (full cut : Schema) (switched : full.Varied .immediacy cut)
    (value : Value) (answer : Except Issue Value)
    (returned : (full.safeParse value).outcome = .ok answer) :
    ∃ reply, (cut.safeParse value).outcome = .ok reply ∧
      (∀ output, answer = .ok output ↔ reply = .ok output) ∧
      ∀ whole piece, answer = .error whole → reply = .error piece →
        (piece.flatten []).Sublist (whole.flatten []) ∧
          ∃ pair, (whole.flatten []).head? = some pair ∧ (piece.flatten []).head? = some pair := by
  have follows := switched.parser (R := Parser.Cuts) node_cuts
  obtain ⟨reply,replied,answered⟩ := follows.read 0 value answer returned
  refine ⟨reply,replied,?_⟩
  cases answered with
  | output output => simp
  | @issue full cut cuts =>
    refine ⟨by simp,?_⟩
    intro whole piece same alike
    obtain rfl : full = whole := by simpa using same
    obtain rfl : cut = piece := by simpa using alike
    have some := Issue.flatten_ne_nil full []
    exact ⟨cuts.1,_,List.head?_eq_some_head some,cuts.2.trans (List.head?_eq_some_head some)⟩

theorem safe_parse_immediate_array :
    let truths (immediate : Bool) : Schema :=
      .node ⟨.empty,.array (.node ⟨.empty,.boolean⟩) .none immediate⟩
    ∃ reply, ((truths true).safeParse (.list (.given 0) [.null,.bool true,.null])).outcome =
        .ok reply ∧
      ∀ piece, reply = .error piece →
        (piece.flatten []).Sublist
            [([.index 0],"Value is required"),([.index 2],"Value is required")] ∧
          (piece.flatten []).head? = some ([.index 0],"Value is required") := by
  intro truths
  have switched : (truths false).Varied .immediacy (truths true) :=
    .node rfl (.array (.node rfl .boolean) (fun _ => rfl))
  obtain ⟨reply,replied,_,reports⟩ := safe_parse_immediate _ _ switched
    (.list (.given 0) [.null,.bool true,.null]) _ rfl
  refine ⟨reply,replied,fun piece failed => ?_⟩
  obtain ⟨inside,pair,first,same⟩ := reports _ piece rfl failed
  cases first
  exact ⟨inside,same⟩

end Schema
end Schemata
