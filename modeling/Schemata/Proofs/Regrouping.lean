import Schemata.Proofs.Recording

/-!
Unions flatten. A union without refinements and checks of its own that stands among the alternatives
of another one is tried like its own alternatives in its place: what it says when none of them takes
the value is one more rejection. So alternatives may be grouped into such unions in any way, and to
any depth, and only the notes for the log tell.
-/
namespace Schemata

namespace Run

variable {α β : Type}

/-- The calls of a user's functions, in order; notes are left out. -/
def calls (run : Run α) : List Event := run.events.filter fun event => event.IsCall

/-- Both runs make the same calls and end in the same way. -/
structure Agrees (first second : Run α) : Prop where
  outcome : first.outcome = second.outcome
  calls : first.calls = second.calls

theorem agrees_self (run : Run α) : run.Agrees run := ⟨rfl,rfl⟩

theorem Agrees.symm {first second : Run α} (same : first.Agrees second) : second.Agrees first :=
  ⟨same.outcome.symm,same.calls.symm⟩

theorem Agrees.trans {first second third : Run α} (same : first.Agrees second)
    (others : second.Agrees third) : first.Agrees third :=
  ⟨same.outcome.trans others.outcome,same.calls.trans others.calls⟩

theorem Agrees.bind {first second : Run α} {next last : α → Run β} (same : first.Agrees second)
    (continued : ∀ a, (next a).Agrees (last a)) : (first >>= next).Agrees (second >>= last) := by
  rcases first with ⟨events,outcome⟩
  rcases second with ⟨records,ending⟩
  obtain ⟨ended,called⟩ := same
  obtain rfl : outcome = ending := ended
  rcases outcome with fault | a
  · exact ⟨rfl,called⟩
  · refine ⟨(continued a).outcome,?_⟩
    have rest := (continued a).calls
    simp only [Run.calls] at called rest
    simp [Run.calls,bind_ok,called,rest]

theorem Agrees.andThen {first second : Run (Except Issue α)} {next last : α → Run (Except Issue β)}
    (same : first.Agrees second) (continued : ∀ a, (next a).Agrees (last a)) :
    (first.andThen next).Agrees (second.andThen last) := by
  refine same.bind fun answer => ?_
  rcases answer with issue | a
  · exact agrees_self _
  · exact continued a

theorem note_agrees (note : Note) (run : Run α) : (record (.note note) >>= fun _ => run).Agrees run :=
  ⟨rfl,rfl⟩

end Run

namespace Choice

variable {σ : Type} {config : Config σ} {serial : Nat} {value : Value}

theorem firstMatch_append (first rest : List Parser) :
    firstMatch serial value (first ++ rest) = firstMatch serial value first >>= fun found =>
      match found with
      | some output => pure (some output)
      | none => firstMatch serial value rest := by
  induction first with
  | nil => rfl
  | cons option others ih =>
    simp only [List.cons_append,firstMatch,bind_assoc]
    congr 1
    funext answer
    rcases answer with issue | output
    · exact ih
    · rfl

/-- With proper messages a union that finds nothing rejects, absent value or not. -/
theorem union_rejects (message : config.message.IsMessage) (required : config.required.IsMessage)
    (options : List Parser) (serial : Nat) (value : Value) :
    ∃ issue, union config options serial value =
      firstMatch serial value options >>= fun found =>
        match found with
        | some output => pure (.ok output)
        | none => Run.record (.note (.unmatched options.length)) >>= fun _ => pure (.error issue) := by
  obtain ⟨issue,refused⟩ :=
    Config.refusal_pure message required .union "Value failed union constraints" value
  refine ⟨issue,?_⟩
  rw [← refused]
  rfl

/-- A union shows no more of its search than what was found. -/
theorem union_agrees {first second : List Parser}
    (same : (firstMatch serial value first).Agrees (firstMatch serial value second))
    (config : Config σ) :
    (union config first serial value).Agrees (union config second serial value) := by
  refine same.bind fun found => ?_
  rcases found with _ | output
  · exact (Run.note_agrees _ _).trans (Run.note_agrees _ _).symm
  · exact Run.agrees_self _

end Choice

/-- A configuration without stages, and with proper messages. -/
structure Config.Plain {σ : Type} (config : Config σ) : Prop where
  refines : config.refines = []
  checks : config.checks = []
  message : config.message.IsMessage
  required : config.required.IsMessage

namespace Schema

variable {serial : Nat} {value : Value} {flat grouped : List Schema}

theorem read_of_plain {content : Node Stage Schema} (plain : content.config.Plain)
    (total : content.form.sentinel? = none) (serial : Nat) (value : Value) :
    (Schema.node content).parser.read serial value = content.structural serial value := by
  rw [read_of_bare plain.refines plain.checks,total,if_neg (by simp)]

/-- Trying a plain union before others is trying its alternatives before them. -/
theorem firstMatch_group {config : Config Stage} (plain : config.Plain) (options : List Schema)
    (rest : List Parser) :
    (Choice.firstMatch serial value ((Schema.node ⟨config,.union options⟩).parser :: rest)).Agrees
      (Choice.firstMatch serial value (options.map parser ++ rest)) := by
  obtain ⟨issue,rejects⟩ :=
    Choice.union_rejects plain.message plain.required (options.map parser) serial value
  have reads : (Schema.node ⟨config,.union options⟩).parser.read serial value =
      Choice.union config (options.map parser) serial value := read_of_plain plain rfl serial value
  rw [Choice.firstMatch_append,Choice.firstMatch,reads,rejects,bind_assoc]
  refine (Run.agrees_self _).bind fun found => ?_
  rcases found with _ | output
  · exact Run.note_agrees _ _
  · exact Run.agrees_self _

/-- The second list has consecutive alternatives of the first one grouped into plain unions, whose
alternatives may be grouped again. -/
inductive Regroups : List Schema → List Schema → Prop
  | nil : Regroups [] []
  | keep (option : Schema) {flat grouped : List Schema} (rest : Regroups flat grouped) :
      Regroups (option :: flat) (option :: grouped)
  | group {config : Config Stage} {run options flat grouped : List Schema} (plain : config.Plain)
      (inside : Regroups run options) (rest : Regroups flat grouped) :
      Regroups (run ++ flat) (.node ⟨config,.union options⟩ :: grouped)

theorem Regroups.firstMatch (regroups : Regroups flat grouped) :
    (Choice.firstMatch serial value (grouped.map parser)).Agrees
      (Choice.firstMatch serial value (flat.map parser)) := by
  induction regroups with
  | nil => exact Run.agrees_self _
  | keep option _ ih =>
    refine (Run.agrees_self (option.parser.read serial value)).bind fun answer => ?_
    rcases answer with issue | output
    · exact ih
    · exact Run.agrees_self _
  | @group config run options flat grouped plain _ _ inside rest =>
    -- The group is opened first; then its alternatives and those after it regroup apart.
    refine (firstMatch_group plain options (grouped.map parser)).trans ?_
    rw [List.map_append,Choice.firstMatch_append,Choice.firstMatch_append]
    refine inside.bind fun found => ?_
    rcases found with _ | output
    · exact rest
    · exact Run.agrees_self _

/-- A union over grouped alternatives and one over the same alternatives in a flat list, configured
alike, give every value the same output or the same issue, after the same calls. -/
theorem safeParse_regroups (regroups : Regroups flat grouped) (config : Config Stage)
    (value : Value) :
    ((Schema.node ⟨config,.union grouped⟩).safeParse value).Agrees
      ((Schema.node ⟨config,.union flat⟩).safeParse value) := by
  rw [safeParse,safeParse,read_node,read_node]
  refine (Run.agrees_self _).andThen fun current => ?_
  have searched : ((⟨config,.union grouped⟩ : Node Stage Schema).structural 0 current).Agrees
      ((⟨config,.union flat⟩ : Node Stage Schema).structural 0 current) :=
    Choice.union_agrees regroups.firstMatch config
  exact searched.andThen fun output => Run.agrees_self _

/-- Alternatives grouped twice over; an absent value is required in the words of the outer union. -/
theorem safeParse_regroups_nested :
    let text : Schema := .node ⟨.empty,.string .none⟩
    let count : Schema := .node ⟨.empty,.bigint .none⟩
    let flag : Schema := .node ⟨.empty,.boolean⟩
    let inner : Schema := .node ⟨.empty,.union [text,count]⟩
    let middle : Schema := .node ⟨{ Config.empty with required := .str "Inside" },.union [inner,flag]⟩
    let config : Config Stage := { Config.empty with required := .str "Outside" }
    Regroups [text,count,flag] [middle] ∧
      ((Schema.node ⟨config,.union [middle]⟩).safeParse .null).Agrees
        ((Schema.node ⟨config,.union [text,count,flag]⟩).safeParse .null) ∧
      ((Schema.node ⟨config,.union [middle]⟩).safeParse .null).outcome =
        .ok (.error (.leaf .required "Outside" none)) := by
  intro text count flag inner middle config
  have plain : (Config.empty : Config Stage).Plain := ⟨rfl,rfl,trivial,trivial⟩
  have pair : Regroups ([text,count] ++ [flag]) [inner,flag] :=
    .group plain (.keep text (.keep count .nil)) (.keep flag .nil)
  have regroups : Regroups ([text,count,flag] ++ []) [middle] :=
    .group ⟨rfl,rfl,trivial,trivial⟩ pair .nil
  exact ⟨regroups,safeParse_regroups regroups config .null,rfl⟩

end Schema
end Schemata
