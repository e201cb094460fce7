import Schemata.Proofs.Matching
import Schemata.Proofs.Yielding

/-!
Outputs are read again as they are. Without refinements, unions and transforms, and with checks that
judge by content, an output is accepted by the schema that gave it, with an output of the same
content. What a reading leaves as it is stays the same object in every later reading; whatever it
puts together anew holds the declared outputs and nothing else in their place.
-/
namespace Schemata

/-- Which readings a container refuses, whichever object it is. -/
def Identity.bare : Identity → Identity
  | given _ | made _ => given 0
  | guarded _ access => guarded 0 access

namespace Value

mutual
/-- What is in a value and what can be read of it, whichever objects its containers are. -/
def content : Value → Value
  | list _ items => list (.given 0) (contentItems items)
  | tuple _ items => tuple (.given 0) (contentItems items)
  | dict _ entries => dict (.given 0) (contentEntries entries)
  | mapping identity entries => mapping identity.bare (contentEntries entries)
  | ok held => ok held.content
  | err held => err held.content
  | value => value
def contentItems : List Value → List Value
  | [] => []
  | item :: rest => item.content :: contentItems rest
def contentEntries : List (Value × Value) → List (Value × Value)
  | [] => []
  | (key,bound) :: rest => (key.content,bound.content) :: contentEntries rest
end

def SameContent (first second : Value) : Prop := first.content = second.content

theorem content_eq_missing {value : Value} : value.content = .missing ↔ value = .missing := by
  cases value <;> simp [content]

theorem SameContent.missing {first second : Value} (alike : first.SameContent second) :
    first = .missing ↔ second = .missing := by
  have contents : first.content = second.content := alike
  rw [← content_eq_missing,contents,content_eq_missing]

theorem contentItems_of_alike {first second : List Value}
    (alike : List.Forall₂ SameContent first second) :
    contentItems first = contentItems second := by
  induction alike with
  | nil => rfl
  | cons head _ ih =>
    have contents : content _ = content _ := head
    rw [contentItems,contentItems,ih,contents]

theorem contentEntries_of_alike {first second : Entries}
    (alike : List.Forall₂ (SameKey SameContent) first second) :
    contentEntries first = contentEntries second := by
  induction alike with
  | nil => rfl
  | cons head _ ih =>
    have bound : content _ = content _ := head.2
    rw [contentEntries,contentEntries,ih,head.1,bound]

end Value

open Value (SameContent)

theorem alikeEntries_self (entries : Entries) : List.Forall₂ (SameKey SameContent) entries entries :=
  List.forall₂_same.mpr fun _ _ => ⟨rfl,rfl⟩

namespace Record

variable {outputs again : List (String × Value)} {entries rebuilt : Entries}

theorem declared_alike (alike : List.Forall₂ (SameKey SameContent) outputs again) :
    List.Forall₂ (SameKey SameContent) (declared outputs) (declared again) := by
  induction alike with
  | nil => exact .nil
  | @cons first second firsts seconds head _ ih =>
    obtain ⟨named,bound⟩ := head
    by_cases absent : first.2 = .missing
    · have gone : second.2 = .missing := bound.missing.mp absent
      simpa [declared,absent,gone] using ih
    · have present : second.2 ≠ .missing := fun gone => absent (bound.missing.mpr gone)
      have kept : SameKey SameContent (Value.str first.1,first.2) (Value.str second.1,second.2) :=
        ⟨congrArg Value.str named,bound⟩
      simpa [declared,absent,present] using And.intro kept ih

theorem contains_of_alike (alike : List.Forall₂ (SameKey SameContent) entries rebuilt)
    (key : Value) : Table.contains rebuilt key = Table.contains entries key := by
  induction alike with
  | nil => rfl
  | cons head _ ih =>
    simp only [Table.contains,List.any_cons] at ih ⊢
    rw [head.1,ih]

/-- Writing what a key is bound to already, or taking away a key that is not there, changes no
content. -/
theorem write_alike (alike : List.Forall₂ (SameKey SameContent) entries rebuilt)
    {field : String × Value} {output : Value}
    (binds : entries.Binds (.str field.1) (bound? output)) (same : output.SameContent field.2) :
    List.Forall₂ (SameKey SameContent) entries (write rebuilt field) := by
  by_cases missing : output = .missing
  · have gone : field.2 = .missing := same.missing.mp missing
    have unbound : bound? output = none := by simp [bound?,missing]
    rw [unbound] at binds
    have absent : Table.contains rebuilt (.str field.1) = false := by
      rw [contains_of_alike alike,binds.not_contains]
    have untouched : Table.erase rebuilt (.str field.1) = rebuilt := by
      apply List.filter_eq_self.mpr
      simpa [Table.contains_eq_false] using absent
    rwa [write,if_pos gone,untouched]
  · have stays : field.2 ≠ .missing := fun gone => missing (same.missing.mpr gone)
    have bound : bound? output = some output := by simp [bound?,missing]
    rw [bound] at binds
    have present : Table.contains rebuilt (.str field.1) = true := by
      rw [contains_of_alike alike,binds.present rfl]
    rw [write,if_neg stays,Table.insert_of_contains present,Table.rebind,
      List.forall₂_map_right_iff]
    have inside := (List.forall₂_and_left _ _).mpr ⟨fun entry member => member,alike⟩
    apply inside.imp
    rintro first second ⟨member,keys,values⟩
    split
    · rename_i hit
      rw [← keys] at hit
      have held : some output = some first.2 := binds.only first member hit
      refine ⟨keys,?_⟩
      rw [← Option.some.inj held]
      exact same
    · exact ⟨keys,values⟩

theorem overlaid_alike (alike : List.Forall₂ (SameKey SameContent) outputs again)
    (binds : ∀ output ∈ outputs, entries.Binds (.str output.1) (bound? output.2))
    (same : List.Forall₂ (SameKey SameContent) entries rebuilt) :
    List.Forall₂ (SameKey SameContent) entries (overlaid rebuilt again) := by
  induction alike generalizing rebuilt with
  | nil => exact same
  | @cons output field outputs fields head _ ih =>
    obtain ⟨here,others⟩ := List.forall_mem_cons.mp binds
    rw [head.1] at here
    exact ih others (write_alike same here head.2)

end Record

/-- The same place in a container that refuses nothing. -/
def Slot.holding (slot : Slot) (item : Value) : Slot := { slot with item, refusal := none }

namespace Form

variable {σ : Type} {serial : Nat} {value : Value} {outputs again : List Value}

/-- A list that an array makes is read in the same places, by the same schema. -/
theorem slots_array {element : Schema} {limits : Limits Nat} {immediate : Bool}
    {items : List Value} (held : value.items? = some items)
    (counted : items.length = outputs.length) (identity : Identity) :
    (Form.array element limits immediate : Form σ Schema).slots (.list identity outputs) =
      List.zipWith Slot.holding ((Form.array element limits immediate : Form σ Schema).slots value)
        outputs := by
  let place (entry : Value × Nat) : Slot := ⟨.index entry.2,element,entry.1,none⟩
  have before : (Form.array element limits immediate : Form σ Schema).slots value =
      items.zipIdx.map place := by simp only [slots,held,place]
  have after : (Form.array element limits immediate : Form σ Schema).slots
      (.list identity outputs) = outputs.zipIdx.map place := rfl
  rw [before,after]
  apply List.ext_getElem
  · simp [counted]
  · intro i _ _
    simp [place,Slot.holding]

theorem slots_object {fields : List (String × Schema)} {flags : Flags} {given entries : Entries}
    (held : value.entries? = some given) (counted : fields.length = outputs.length)
    (binds : ∀ named ∈ (fields.map (·.1)).zip outputs,
      entries.Binds (.str named.1) (Record.bound? named.2)) (identity : Identity) :
    (Form.object fields flags : Form σ Schema).slots (.dict identity entries) =
      List.zipWith Slot.holding ((Form.object fields flags : Form σ Schema).slots value)
        outputs := by
  have before : (Form.object fields flags : Form σ Schema).slots value = fields.map fun field =>
      ⟨.field field.1,field.2,(Table.find? given (.str field.1)).getD .missing,
        value.access.fault? (.item field.1)⟩ := by
    simp only [slots,held]
  have after : (Form.object fields flags : Form σ Schema).slots (.dict identity entries) =
      fields.map fun field =>
        ⟨.field field.1,field.2,(Table.find? entries (.str field.1)).getD .missing,none⟩ := rfl
  rw [before,after]
  clear before after
  induction fields generalizing outputs with
  | nil => rfl
  | cons field rest ih =>
    cases outputs with
    | nil => cases counted
    | cons output others =>
      obtain ⟨here,later⟩ := List.forall_mem_cons.mp binds
      have found := here.find
      simp only [List.length_cons,Nat.add_right_cancel_iff] at counted
      simp only [List.map_cons,List.zipWith_cons_cons,← ih counted later,found,Record.getD_bound]
      rfl

end Form

section

variable {look : Nat → Value → Run (Except Issue Value)} {value output : Value}

/-- What comes after an accepted value: the output is accepted from any serial on, with the same
content, and a value that came back as it was always does. -/
structure Steady (look : Nat → Value → Run (Except Issue Value)) (value output : Value) : Prop where
  settles : ∀ later, ∃ again, (look later output).outcome = .ok (.ok again) ∧
    output.SameContent again
  retains : output = value → ∀ later, (look later output).outcome = .ok (.ok output)

theorem Steady.of_constant {serial : Nat} (same : output = value)
    (given : (look serial value).outcome = .ok (.ok output))
    (constant : ∀ later, look later value = look serial value) : Steady look value output := by
  subst same
  have retained (later : Nat) : (look later output).outcome = .ok (.ok output) := by
    rw [constant later,given]
  exact ⟨fun later => ⟨output,retained later,rfl⟩,fun _ => retained⟩

end

namespace Form

variable {serial : Nat} {value output : Value} {outputs again : List Value}

/-- Slots that hold the outputs of a reading are all accepted again. -/
theorem answered_again {slots : List Slot}
    (steady : List.Forall₂ (fun slot output =>
      Steady slot.schema.parser.read slot.item output) slots outputs) (later : Nat) :
    ∃ again, List.Forall₂ (fun slot output => (slot.task.read later).outcome = .ok (.ok output))
        (List.zipWith Slot.holding slots outputs) again ∧
      List.Forall₂ SameContent outputs again := by
  induction steady with
  | nil => exact ⟨[],.nil,.nil⟩
  | cons head _ ih =>
    obtain ⟨first,accepted,same⟩ := head.settles later
    obtain ⟨rest,others,alike⟩ := ih
    exact ⟨first :: rest,.cons accepted others,.cons same alike⟩

theorem answered_retained {slots : List Slot}
    (steady : List.Forall₂ (fun slot output =>
      Steady slot.schema.parser.read slot.item output) slots outputs)
    (granted : ∀ slot ∈ slots, slot.refusal = none) (kept : outputs = slots.map Slot.item)
    (later : Nat) :
    List.Forall₂ (fun slot output => (slot.task.read later).outcome = .ok (.ok output))
      slots outputs := by
  subst kept
  rw [List.forall₂_map_right_iff,List.forall₂_same] at steady ⊢
  intro slot member
  exact Task.read_ok.mpr ⟨granted slot member,(steady slot member).retains rfl later⟩

theorem named_alike (names : List String) (alike : List.Forall₂ SameContent outputs again) :
    List.Forall₂ (SameKey SameContent) (names.zip outputs) (names.zip again) := by
  induction alike generalizing names with
  | nil => simp
  | cons head _ ih =>
    cases names with
    | nil => exact .nil
    | cons name rest => exact .cons ⟨rfl,head⟩ (ih rest)

/-- A container's output that is read again: it is taken, its slots hold the outputs, and it is put
together again with the same content from values of the same content. -/
structure Reread (form : Form Stage Schema) (value output : Value) (outputs : List Value) : Prop where
  taken : form.Takes output
  admitted : form.Admits output
  slots : form.slots output = List.zipWith Slot.holding (form.slots value) outputs
  granted : form.copying? output = none
  assembled : ∀ later again, List.Forall₂ SameContent outputs again →
    output.SameContent (form.assemble later output again)

theorem reread_array {element : Schema} {limits : Limits Nat} {immediate : Bool}
    (gathered : (Form.array element limits immediate).Gathered serial value output outputs) :
    (Form.array element limits immediate).Reread value output outputs := by
  obtain ⟨taken,admitted,answered,_,same⟩ := gathered
  obtain ⟨items,held⟩ := Option.isSome_iff_exists.mp taken
  obtain ⟨identity,list⟩ : ∃ identity, (Form.array element limits immediate : Form Stage
      Schema).assemble serial value outputs = .list identity outputs := assemble_array_eq taken
  have counted : items.length = outputs.length := by
    simpa [slots,held] using answered.length_eq
  obtain rfl : output = .list identity outputs := same.trans list
  refine ⟨rfl,?_,slots_array held counted identity,rfl,?_⟩
  · intro others other
    obtain rfl : outputs = others := by simpa [Value.items?] using other
    rw [← counted]
    exact admitted items held
  · intro later again alike
    simp only [assemble]
    split
    · rfl
    · exact congrArg (Value.list (.given 0)) (Value.contentItems_of_alike alike)

theorem reread_object {fields : List (String × Schema)} {flags : Flags}
    (distinct : (fields.map (·.1)).Nodup) (changed : output ≠ value)
    (gathered : (Form.object fields flags).Gathered serial value output outputs) :
    (Form.object fields flags).Reread value output outputs := by
  have counted := gathered.counted
  obtain ⟨taken,_,answered,_,same⟩ := gathered
  obtain ⟨given,held⟩ := Option.isSome_iff_exists.mp taken
  rw [same] at changed
  obtain ⟨entries,dict,binds,strict⟩ := assemble_object_eq distinct counted changed
  obtain rfl := same.trans dict
  refine ⟨rfl,trivial,slots_object held counted binds _,copying_of_free rfl,?_⟩
  intro later again alike
  have named := named_alike (fields.map (·.1)) alike
  have contents {others : Entries} (kept : List.Forall₂ (SameKey SameContent) entries others)
      (fresh : Nat) : (Value.dict (.made (value.freshFrom serial)) entries).SameContent
        (.dict (.made fresh) others) :=
    congrArg (Value.dict (.given 0)) (Value.contentEntries_of_alike kept)
  simp only [assemble,Record.projected]
  split
  · rename_i strictly
    obtain rfl := strict strictly
    exact contents (Record.declared_alike named) _
  · split
    · rfl
    · exact contents (Record.overlaid_alike named binds (alikeEntries_self entries)) _

end Form

namespace Node

variable {content : Node Stage Schema} {serial : Nat} {value output : Value}

theorem container_steady (container : content.form.container) (distinct : content.form.Distinct)
    (below : ∀ child ∈ content.form.children, ∀ inner item answer,
      (child.parser.read inner item).outcome = .ok (.ok answer) →
        Steady child.parser.read item answer)
    (given : (content.structural serial value).outcome = .ok (.ok output)) :
    Steady content.structural value output := by
  obtain ⟨outputs,gathered⟩ := (structural_gathers container).mp given
  have steady : List.Forall₂ (fun slot output => Steady slot.schema.parser.read slot.item output)
      (content.form.slots value) outputs := by
    have inside := (List.forall₂_and_left _ _).mpr
      ⟨fun slot member => member,gathered.answered⟩
    apply inside.imp
    rintro slot answer ⟨member,answered⟩
    exact below _ (Form.slot_child member) _ _ _ (Task.read_ok.mp answered).2
  have retains (same : output = value) (later : Nat) :
      (content.structural later output).outcome = .ok (.ok output) := by
    have unchanged := gathered.same.symm.trans same
    obtain ⟨retained,kept⟩ := (Form.assemble_eq_self container).mp unchanged
    rw [same]
    apply (structural_gathers container).mpr
    have granted := Form.granted_of_answered gathered.answered
    refine ⟨outputs,gathered.taken,gathered.admitted,
      Form.answered_retained steady granted kept _,gathered.granted,?_⟩
    exact ((Form.assemble_eq_self container).mpr ⟨retained,kept⟩).symm
  refine ⟨fun later => ?_,retains⟩
  by_cases same : output = value
  · exact ⟨output,retains same later,rfl⟩
  have reread : content.form.Reread value output outputs := by
    rcases content with ⟨config,form⟩
    cases form with
    | array element limits immediate => exact Form.reread_array gathered
    | object fields flags => exact Form.reread_object distinct same gathered
    | _ => cases container
  obtain ⟨again,answered,alike⟩ := Form.answered_again steady (output.freshFrom later)
  rw [← reread.slots] at answered
  refine ⟨_,?_,reread.assembled later again alike⟩
  exact (structural_gathers container).mpr
    ⟨again,reread.taken,reread.admitted,answered,reread.granted,rfl⟩

end Node

/-- Whether the stage accepts, when it is asked as a check, is seen from the content of the value
that it is asked about. -/
def Stage.JudgesContent (stage : Stage) : Prop :=
  ∀ (source : Kind) (verdict : Value) (serial later : Nat) (input other output again passed : Value),
    output.SameContent again →
    (stage.consult serial output (.check input output source) (some verdict)).outcome =
      .ok (.ok passed) →
    ∃ answer, (stage.consult later again (.check other again source) (some verdict)).outcome =
      .ok (.ok answer)

/-- The stage that answers yes or no. -/
def Stage.deciding (decides : Value → Bool) : Stage :=
  .function none fun _ value _ => pure (.bool (decides value))

theorem Stage.consult_deciding {decides : Value → Bool} {serial : Nat} {value verdict : Value}
    {context : Context} : (∃ passed, ((deciding decides).consult serial value context
      (some verdict)).outcome = .ok (.ok passed)) ↔ decides value = true := by
  rcases decided : decides value with _ | _
  · simp [consult,call,deciding,judged,passes,decided,Value.truth,Run.attempt,Run.record,Run.lift,
      Run.bind_ok,Run.pure_eq,Run.bind_outcome_ok]
  · simp [consult,call,deciding,judged,passes,decided,Value.truth,Run.attempt,Run.record,Run.lift,
      Run.bind_ok,Run.pure_eq]

theorem Stage.deciding_judgesContent {decides : Value → Bool}
    (alike : ∀ first second : Value, first.SameContent second → decides first = decides second) :
    (deciding decides).JudgesContent := by
  intro source verdict serial later input other output again passed same accepted
  have decided := consult_deciding.mp ⟨passed,accepted⟩
  rw [alike output again same] at decided
  exact consult_deciding.mpr decided

/-- A node that takes its own outputs as they are. -/
structure Node.Declares (content : Node Stage Schema) : Prop where
  unrefined : content.config.refines = []
  judged : ∀ check ∈ content.config.checks, check.1.JudgesContent
  single : content.form.kind ≠ .union
  unturned : content.form.kind ≠ .transform
  distinct : content.form.Distinct

namespace Node

variable {content : Node Stage Schema} {serial : Nat} {value output : Value}

theorem structural_steady (declares : content.Declares)
    (below : ∀ child ∈ content.form.children, ∀ inner item answer,
      (child.parser.read inner item).outcome = .ok (.ok answer) →
        Steady child.parser.read item answer)
    (given : (content.structural serial value).outcome = .ok (.ok output)) :
    Steady content.structural value output := by
  rcases content with ⟨config,form⟩
  cases form with
  | string limits => exact .of_constant (Scalar.string_output given) given fun _ => rfl
  | number whole limits => exact .of_constant (Scalar.number_output given) given fun _ => rfl
  | bigint limits => exact .of_constant (Scalar.bigint_output given) given fun _ => rfl
  | boolean => exact .of_constant (Scalar.boolean_output given) given fun _ => rfl
  | unknown | any =>
    have same : output = value := by
      cases given
      rfl
    exact .of_constant same given fun _ => rfl
  | literal values => exact .of_constant (Choice.literal_output given) given fun _ => rfl
  | array element limits immediate | object fields flags =>
    exact container_steady rfl declares.distinct below given
  | union options => exact (declares.single rfl).elim
  | optional inner | nullable inner =>
    exact below inner (List.mem_singleton_self inner) serial value output given
  | transform inner function => exact (declares.unturned rfl).elim

end Node

namespace Schema

theorem read_steady (schema : Schema) (declares : schema.Every Node.Declares) (serial : Nat)
    (value output : Value) (accepted : (schema.parser.read serial value).outcome = .ok (.ok output)) :
    Steady schema.parser.read value output := by
  induction schema using Schema.induction generalizing serial value output with
  | node content ih =>
    have here := declares.here
    have unrefined (later : Nat) (input : Value) :
        (Node.refined content.kind later input content.config.refines input).outcome =
          .ok (.ok input) := by
      rw [here.unrefined]
      rfl
    have sentinel {input : Value} (spared : content.form.sentinel? = some input) (later : Nat) :
        ((Schema.node content).parser.read later input).outcome = .ok (.ok input) :=
      read_outcome_output.mpr (.inl ⟨unrefined later input,spared⟩)
    rcases read_outcome_output.mp accepted with ⟨refined,spared⟩ | ⟨current,entered,looked,passed⟩
    · exact ⟨fun later => ⟨output,sentinel spared later,rfl⟩,fun _ => sentinel spared⟩
    obtain rfl := entered.unrefined here.unrefined
    have steady := Node.structural_steady here
      (fun child member inner item answer => ih child member (declares.child member) inner item answer)
      looked
    -- Whatever the structural step makes of the output, the checks see the content they accepted.
    have rereads {later : Nat} {again : Value} (entered : content.form.sentinel? ≠ some output)
        (looked : (content.structural later output).outcome = .ok (.ok again))
        (same : output.SameContent again) :
        ((Schema.node content).parser.read later output).outcome = .ok (.ok again) := by
      apply read_outcome_output.mpr
      refine .inr ⟨output,⟨unrefined later output,entered⟩,looked,?_⟩
      apply Node.checked_outcome_output.mpr
      refine ⟨rfl,fun check member => ?_⟩
      obtain ⟨verdict,worded,answer,asked⟩ := (Node.checked_outcome_output.mp passed).2 check member
      exact ⟨verdict,worded,here.judged check member _ _ _ _ _ _ _ _ _ same asked⟩
    by_cases spared : content.form.sentinel? = some output
    · exact ⟨fun later => ⟨output,sentinel spared later,rfl⟩,fun _ => sentinel spared⟩
    · constructor
      · intro later
        obtain ⟨again,looking,same⟩ := steady.settles later
        exact ⟨again,rereads spared looking same,same⟩
      · intro same later
        exact rereads spared (steady.retains same later) rfl

/-- What a tree accepts without refinements, unions and transforms, and with checks that judge by
content, it accepts again with an output of the same content. -/
theorem safe_parse_settles (schema : Schema) (declares : schema.Every Node.Declares)
    (value output : Value) (accepted : (schema.safeParse value).outcome = .ok (.ok output)) :
    ∃ again, (schema.safeParse output).outcome = .ok (.ok again) ∧
      again.content = output.content := by
  obtain ⟨again,reread,same⟩ := (read_steady schema declares 0 value output accepted).settles 0
  exact ⟨again,reread,same.symm⟩

theorem safe_parse_settles_strict :
    let pair : Value → Bool
      | .list _ items => items.length == 2
      | _ => false
    let tags : Schema := .node ⟨{ Config.empty with checks := [(.deciding pair,.null)] },
      .array (.node ⟨.empty,.bigint .none⟩) .none false⟩
    let note : Schema := .node ⟨.empty,.optional (.node ⟨.empty,.string .none⟩)⟩
    let schema : Schema := .node ⟨.empty,
      .object [("tags",tags),("note",note)] ⟨false,true,false⟩⟩
    let input : Value := .mapping (.given 0) [(.str "extra",.null),
      (.str "tags",.tuple (.given 1) [.int 1,.int 2])]
    ∃ output again, (schema.safeParse input).outcome = .ok (.ok output) ∧
      (schema.safeParse output).outcome = .ok (.ok again) ∧
      again.content = .dict (.given 0) [(.str "tags",.list (.given 0) [.int 1,.int 2])] := by
  intro pair tags note schema input
  have length (items : List Value) : (Value.contentItems items).length = items.length := by
    induction items with
    | nil => rfl
    | cons item rest ih => simp [Value.contentItems,ih]
  have read (value : Value) : pair value.content = pair value := by
    cases value <;> simp [pair,Value.content,length]
  have judged : (Stage.deciding pair).JudgesContent := by
    apply Stage.deciding_judgesContent
    intro first second same
    calc
      pair first = pair first.content := (read first).symm
      _ = pair second.content := congrArg pair same
      _ = pair second := read second
  have leaf {form : Form Stage Schema} (single : form.kind ≠ .union)
      (unturned : form.kind ≠ .transform) (distinct : form.Distinct)
      (childless : form.children = []) : (Schema.node ⟨.empty,form⟩).Every Node.Declares :=
    .leaf ⟨rfl,by simp [Config.empty],single,unturned,distinct⟩ childless
  have list : tags.Every Node.Declares := by
    refine .parent ⟨rfl,?_,nofun,nofun,trivial⟩ rfl (leaf nofun nofun trivial rfl)
    simpa using judged
  have text : note.Every Node.Declares :=
    .parent ⟨rfl,by simp [Config.empty],nofun,nofun,trivial⟩ rfl (leaf nofun nofun trivial rfl)
  have declares : schema.Every Node.Declares := by
    refine .node ⟨rfl,by simp [Config.empty],nofun,nofun,?_⟩ ?_
    · simp [Form.Distinct]
    · simpa [Form.children] using ⟨list,text⟩
  let output : Value := .dict (.made 0) [(.str "tags",.list (.made 0) [.int 1,.int 2])]
  have accepted : (schema.safeParse input).outcome = .ok (.ok output) := rfl
  obtain ⟨again,reread,same⟩ := safe_parse_settles schema declares input output accepted
  exact ⟨output,again,accepted,reread,same⟩

end Schema
end Schemata
