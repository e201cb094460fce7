import Schemata.Proofs.Matching
import Schemata.Proofs.Yielding

/-!
Strict objects. Whether an object keeps what it does not declare shows in outputs alone: without
checks and transforms no function is called on an output and no alternative depends on one, so that
trees that differ in strictness end in the same issue or both in an output. What one object puts out
when it is strict is what it puts out otherwise, restricted to the declared names. A strict object
copies no mapping, so that one that refuses to be copied tells the trees apart.
-/
namespace Schemata

/-- Objects may be strict or not, in trees without checks and transforms. -/
def Variation.strictness : Variation where
  configs before after := before = after ∧ after.checks = []
  switches := Eq
  flags before after := before.immediate = after.immediate ∧ before.pathed = after.pathed
  functions _ _ := False

/-- The run ends in the error of a mapping that refuses to be copied. -/
def Run.Uncopied {α : Type} (run : Run α) : Prop :=
  ∃ refusal, run.outcome = .error (.refused .whole refusal)

/-- All that can go wrong when an output is made is that the mapping refuses to be copied. -/
theorem Record.project_made_or_refused (strict isDict unchanged : Bool) (serial : Nat)
    (given : Value) (access : Access) (entries : Entries) (outputs : List (String × Value)) :
    (∃ output, project strict isDict unchanged serial given access entries outputs = .ok output) ∨
      ∃ refusal, project strict isDict unchanged serial given access entries outputs =
        .error (.refused .whole refusal) := by
  rcases kept : strict || isDict && unchanged with _ | _
  · rcases asked : access.refusal? .whole with _ | refusal
    · refine .inl ⟨projected strict isDict unchanged serial given entries outputs,?_⟩
      simp only [project,kept,Access.grant,Access.fault?,asked]
      rfl
    · refine .inr ⟨refusal,?_⟩
      simp only [project,kept,Access.grant,Access.fault?,asked]
      rfl
  · refine .inl ⟨projected strict isDict unchanged serial given entries outputs,?_⟩
    simp only [project,kept]
    rfl

namespace Likeness

/-- Only what is no strict object copies a mapping, so that a copy that is refused excuses. -/
def verdict : Likeness where
  issues := Eq
  outputs _ _ := True
  excuse fault := ∃ refusal, fault = .refused .whole refusal

theorem verdict_kept : verdict.Kept .strictness where
  issue issue := rfl
  output _ := trivial
  configs varied := varied.1
  switches same := same
  flags varied := varied.1
  array message first second keyed := by
    obtain rfl := eq_of_sameKey keyed
    rfl
  object varied message first second keyed := by
    obtain rfl := eq_of_sameKey keyed
    rw [varied.2]
    rfl
  list _ _ _ _ _ _ _ := trivial
  record {before after} _ isDict serial given access entries items first second _ := by
    rcases Record.project_made_or_refused before.strict isDict (first.map (·.2) == items) serial
      given access entries first with ⟨output,made⟩ | ⟨refusal,refused⟩
    · rcases Record.project_made_or_refused after.strict isDict (second.map (·.2) == items) serial
        given access entries second with ⟨other,making⟩ | ⟨refusal,refused⟩
      · rw [made,making]
        exact .same rfl (.ok trivial)
      · exact .excused ⟨refusal,rfl⟩ (.inr refused)
    · exact .excused ⟨refusal,rfl⟩ (.inl refused)
  checks unchecked _ _ _ _ _ _ := by
    rw [unchecked.2]
    exact Run.matches_pure (.ok trivial)
  functions turned _ _ _ _ _ := turned.elim

end Likeness

/-- The second dictionary has what the first binds the declared names to, but for the missing value,
and nothing else. -/
inductive Value.Restricts (names : List String) : Value → Value → Prop
  | dict {identity other : Identity} {entries kept : Entries} (distinct : (kept.map (·.1)).Nodup)
      (same : ∀ key bound, Table.find? kept key = some bound ↔
        Table.find? entries key = some bound ∧ (∃ name ∈ names, key = .str name) ∧
          bound ≠ .missing) :
      Restricts names (.dict identity entries) (.dict other kept)

namespace Record

variable {outputs : List (String × Value)} {key bound : Value}

theorem find_declared (distinct : (outputs.map (·.1)).Nodup) :
    Table.find? (declared outputs) key = some bound ↔
      bound ≠ .missing ∧ ∃ output ∈ outputs, key = .str output.1 ∧ output.2 = bound := by
  constructor
  · intro found
    obtain ⟨entry,first,rfl⟩ := Option.map_eq_some_iff.mp found
    obtain ⟨output,member,present,rfl⟩ := mem_declared (List.mem_of_find?_eq_some first)
    have same : (Value.str output.1).sameKey key = true := by simpa using List.find?_some first
    rw [Value.sameKey_iff,eq_comm,← Value.sameKey_iff,Value.sameKey_name] at same
    exact ⟨present,output,member,same,rfl⟩
  · rintro ⟨present,output,member,rfl,rfl⟩
    rw [(binds_declared distinct member).find]
    simp [bound?,present]

theorem declared_nodup (distinct : (outputs.map (·.1)).Nodup) :
    ((declared outputs).map (·.1)).Nodup := by
  have kept : ((outputs.filter fun output => output.2 != .missing).map (·.1)).Nodup :=
    distinct.sublist (List.filter_sublist.map _)
  have strings := kept.map (f := Value.str) fun _ _ same => by simpa using same
  simpa [declared,Function.comp_def] using strings

/-- Where a table reads back every declared name as its output, the declared outputs are the table
restricted to the declared names that are not missing. -/
theorem find_declared_iff {names : List String} {outputs : List Value} {entries : Entries}
    (distinct : names.Nodup) (counted : names.length = outputs.length)
    (reads : ∀ named ∈ names.zip outputs,
      (Table.find? entries (.str named.1)).getD .missing = named.2) :
    Table.find? (declared (names.zip outputs)) key = some bound ↔
      Table.find? entries key = some bound ∧ (∃ name ∈ names, key = .str name) ∧
        bound ≠ .missing := by
  have zipped : (names.zip outputs).map (·.1) = names := List.map_fst_zip (by simp [counted])
  rw [find_declared (by rwa [zipped])]
  constructor
  · rintro ⟨present,named,member,rfl,rfl⟩
    have read := reads named member
    have name : named.1 ∈ names := (List.of_mem_zip member).1
    refine ⟨?_,⟨named.1,name,rfl⟩,present⟩
    rcases found : Table.find? entries (.str named.1) with _ | held
    · simp [found] at read
      exact (present read.symm).elim
    · simpa [found] using read
  · rintro ⟨found,⟨name,member,rfl⟩,present⟩
    rw [← zipped] at member
    obtain ⟨named,inside,rfl⟩ := List.mem_map.mp member
    have read := reads named inside
    refine ⟨present,named,inside,rfl,?_⟩
    simpa [found] using read.symm

end Record

namespace Form

variable {serial : Nat} {value : Value} {outputs : List Value}

/-- What an object puts out is a dictionary, and reads every declared name back as its output. -/
theorem assemble_reads {fields : List (String × Schema)} {flags : Flags}
    (distinct : (fields.map (·.1)).Nodup) (counted : fields.length = outputs.length) :
    ∃ identity entries, (Form.object fields flags : Form Stage Schema).assemble serial value outputs =
        .dict identity entries ∧
      ∀ named ∈ (fields.map (·.1)).zip outputs,
        (Table.find? entries (.str named.1)).getD .missing = named.2 := by
  by_cases kept : (Form.object fields flags : Form Stage Schema).assemble serial value outputs = value
  · obtain ⟨⟨_,plain⟩,same⟩ := (assemble_eq_self rfl).mp kept
    cases value with
    | dict identity entries =>
      refine ⟨identity,entries,kept,?_⟩
      have items : outputs = fields.map fun field =>
          (Table.find? entries (.str field.1)).getD .missing := by
        rw [same]
        simp [slots,Value.entries?]
      rw [items,List.zip_map']
      intro named member
      obtain ⟨field,_,rfl⟩ := List.mem_map.mp member
      rfl
    | _ => cases plain
  · obtain ⟨entries,made,binds,_⟩ := assemble_object_eq distinct counted kept
    refine ⟨_,entries,made,fun named member => ?_⟩
    rw [(binds named member).find,Record.getD_bound]

end Form

namespace Schema

variable {config : Config Stage} {fields : List (String × Schema)} {serial : Nat}
  {input output : Value}

theorem read_object {flags : Flags}
    (accepted : ((Schema.node ⟨config,.object fields flags⟩).parser.read serial input).outcome =
      .ok (.ok output)) :
    ∃ current outputs,
      (Node.refined .object serial input config.refines input).outcome = .ok (.ok current) ∧
      (Form.object fields flags).Gathered serial current output outputs := by
  rcases read_outcome_output.mp accepted with ⟨_,spared⟩ | ⟨current,entered,looked,_⟩
  · cases spared
  · obtain ⟨outputs,gathered⟩ := Node.object_gathers.mp looked
    exact ⟨current,outputs,entered.1,gathered⟩

/-- Of two objects that differ in strictness alone, the strict one puts out the restriction. -/
theorem read_restricts {immediate pathed : Bool} {restricted : Value}
    (distinct : (fields.map (·.1)).Nodup)
    (loose : ((Schema.node ⟨config,.object fields ⟨immediate,false,pathed⟩⟩).parser.read serial
      input).outcome = .ok (.ok output))
    (strict : ((Schema.node ⟨config,.object fields ⟨immediate,true,pathed⟩⟩).parser.read serial
      input).outcome = .ok (.ok restricted)) :
    Value.Restricts (fields.map (·.1)) output restricted := by
  obtain ⟨current,outputs,refined,gathered⟩ := read_object loose
  obtain ⟨other,others,again,gathering⟩ := read_object strict
  obtain rfl : other = current := by
    have same := again.symm.trans refined
    simpa using same
  obtain rfl : outputs = others := by
    -- Both objects have the same slots, and every slot answers once.
    apply List.right_unique_forall₂' ?_ gathered.answered gathering.answered
    intro slot first second here there
    have same := here.symm.trans there
    simpa using same
  have counted := gathered.counted
  obtain ⟨identity,entries,made,reads⟩ : ∃ identity entries, (Form.object fields
      ⟨immediate,false,pathed⟩ : Form Stage Schema).assemble serial other outputs =
        .dict identity entries ∧ _ := Form.assemble_reads distinct counted
  have named : (fields.map (·.1)).length = outputs.length := by simpa using counted
  have zipped : ((fields.map (·.1)).zip outputs).map (·.1) = fields.map (·.1) :=
    List.map_fst_zip (by simp [counted])
  rw [gathered.same,gathering.same,made]
  apply Value.Restricts.dict
  · exact Record.declared_nodup (by rwa [zipped])
  · intro key bound
    exact Record.find_declared_iff distinct named reads

/-- Strictness changes outputs, never verdicts, unless a mapping refuses to be copied and validation
ends in that: the same is recorded, and validation ends in the same fault, in the same issue, or in
outputs; and a strict root puts out the restriction of what it puts out otherwise. -/
theorem safe_parse_strict (first second : Schema) (varied : first.Varied .strictness second)
    (value : Value) :
    (¬ (first.safeParse value).Uncopied → ¬ (second.safeParse value).Uncopied →
      (first.safeParse value).events = (second.safeParse value).events ∧
      ((∃ fault, (first.safeParse value).outcome = .error fault ∧
          (second.safeParse value).outcome = .error fault) ∨
        (∃ issue, (first.safeParse value).outcome = .ok (.error issue) ∧
          (second.safeParse value).outcome = .ok (.error issue)) ∨
        ∃ output other, (first.safeParse value).outcome = .ok (.ok output) ∧
          (second.safeParse value).outcome = .ok (.ok other))) ∧
    ∀ config fields immediate pathed,
      first = .node ⟨config,.object fields ⟨immediate,false,pathed⟩⟩ →
      second = .node ⟨config,.object fields ⟨immediate,true,pathed⟩⟩ →
      (fields.map (·.1)).Nodup → ∀ output restricted,
        (first.safeParse value).outcome = .ok (.ok output) →
        (second.safeParse value).outcome = .ok (.ok restricted) →
          Value.Restricts (fields.map (·.1)) output restricted := by
  have same : Run.Matches Likeness.verdict.excuse Likeness.verdict.Answers (first.safeParse value)
      (second.safeParse value) := (Likeness.verdict_kept.parser varied).read 0 value
  constructor
  · intro copied copying
    cases same with
    | excused known ended =>
      obtain ⟨refusal,rfl⟩ := known
      rcases ended with refused | refused
      · exact (copied ⟨refusal,refused⟩).elim
      · exact (copying ⟨refusal,refused⟩).elim
    | same events ended =>
      refine ⟨events,?_⟩
      generalize (first.safeParse value).outcome = ours at ended ⊢
      generalize (second.safeParse value).outcome = theirs at ended ⊢
      cases ended with
      | @error fault early equal => exact .inl ⟨fault,rfl,by rw [equal]⟩
      | ok answered =>
        cases answered with
        | @error issue other equal => exact .inr (.inl ⟨issue,rfl,by rw [equal]⟩)
        | @ok output other _ => exact .inr (.inr ⟨output,other,rfl,rfl⟩)
  · rintro config fields immediate pathed rfl rfl distinct output restricted loose strict
    exact read_restricts distinct loose strict

theorem safe_parse_strict_noted :
    let unwrapped : Stage := .function none fun _ value _ => return .ok value
    let row : Schema := .node ⟨.empty,.object [("id",.node ⟨.empty,.bigint .none⟩)]
      ⟨false,true,false⟩⟩
    let rows : Schema := .node ⟨.empty,.union [.node ⟨.empty,.string .none⟩,
      .node ⟨.empty,.array row .none false⟩]⟩
    let note : Schema := .node ⟨.empty,.optional (.node ⟨.empty,.string .none⟩)⟩
    let schema (strict : Bool) : Schema := .node ⟨{ Config.empty with refines := [unwrapped] },
      .object [("note",note),("rows",rows)] ⟨false,strict,true⟩⟩
    let input : Value := .dict (.given 0) [(.str "extra",.null),
      (.str "rows",.list (.given 1) [.dict (.given 2) [(.str "id",.int 1),(.str "more",.null)]]),
      (.str "note",.missing)]
    ((schema false).safeParse input).events = ((schema true).safeParse input).events ∧
    ∃ output restricted, ((schema false).safeParse input).outcome = .ok (.ok output) ∧
      ((schema true).safeParse input).outcome = .ok (.ok restricted) ∧
      Value.Restricts ["note","rows"] output restricted := by
  intro unwrapped row rows note schema input
  have same {form : Form Stage Schema} (varied : form.Varied .strictness
      (Schema.Varied .strictness) form) :
      (Schema.node ⟨.empty,form⟩).Varied .strictness (.node ⟨.empty,form⟩) :=
    .node ⟨rfl,rfl⟩ varied
  have array : rows.Varied .strictness rows :=
    same (.union (.cons (same .string) (.cons (same (.array (same (.object
      (.cons (same .bigint) .nil) ⟨rfl,rfl⟩)) rfl)) .nil)))
  have varied : (schema false).Varied .strictness (schema true) :=
    .node ⟨rfl,rfl⟩ (.object (.cons (same (.optional (same .string))) (.cons array .nil)) ⟨rfl,rfl⟩)
  obtain ⟨alike,restricts⟩ := safe_parse_strict _ _ varied input
  have copied (strict : Bool) : ¬ ((schema strict).safeParse input).Uncopied := by
    rintro ⟨refusal,ended⟩
    cases strict <;> cases ended
  have distinct : [("note",note),("rows",rows)].map (·.1) |>.Nodup := by simp
  exact ⟨(alike (copied false) (copied true)).1,_,_,rfl,rfl,
    restricts _ _ false true rfl rfl distinct _ _ rfl rfl⟩

/-- Strictness can change a verdict: only an object that is not strict copies the mapping. -/
theorem safe_parse_strict_not_copied :
    ¬ ∀ first second : Schema, first.Varied .strictness second → ∀ value,
      (∃ output, (first.safeParse value).outcome = .ok (.ok output)) →
      ∃ output, (second.safeParse value).outcome = .ok (.ok output) := by
  intro accepts
  let row (strict : Bool) : Schema := .node ⟨.empty,.object [("a",.node ⟨.empty,.string .none⟩)]
    ⟨false,strict,false⟩⟩
  have varied : (row true).Varied .strictness (row false) :=
    .node ⟨rfl,rfl⟩ (.object (.cons (.node ⟨rfl,rfl⟩ .string) .nil) ⟨rfl,rfl⟩)
  have accepted : ((row true).safeParse .brokenSection).outcome =
      .ok (.ok (.dict (.made 0) [(.str "a",.str "1")])) := rfl
  obtain ⟨output,answered⟩ := accepts _ _ varied _ ⟨_,accepted⟩
  cases show Except.error _ = Except.ok (Except.ok output) from answered

end Schema
end Schemata
