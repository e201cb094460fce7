import Schemata.Proofs.Structural
import Schemata.Proofs.Tables

/-!
What a structural step that succeeds gives. A form without children gives the value itself and
a wrapper or a union what a child gives; a container puts the outputs of its slots together,
and gives the value itself where nothing keeps it from doing so. `Form.Yields` has a case for
each.
-/
namespace Schemata

variable {σ β : Type} {config : Config σ} {output : Value}

theorem complain_rejects (complaint : Complaint) (message : Value) (default : String) :
    (complain complaint message default).outcome ≠ .ok (.ok output) := by
  intro given
  obtain ⟨text,_,answered⟩ := Run.bind_outcome_ok.mp given
  cases answered

theorem Config.refusal_rejects (complaint : Complaint) (default : String) (value : Value) :
    (config.refusal complaint default value).outcome ≠ .ok (.ok output) := by
  unfold refusal
  split
  · exact complain_rejects _ _ _
  · exact complain_rejects _ _ _

theorem Limit.guard_output {limit : Option (Limit β)} {violated : β → Bool}
    {complaint : Complaint} {default : String} {next : Run (Except Issue Value)}
    (given : (guard limit violated complaint default next).outcome = .ok (.ok output)) :
    Kept limit violated ∧ next.outcome = .ok (.ok output) := by
  rcases kept_or_guard limit violated with kept | ⟨bound,_,broken⟩
  · exact ⟨kept,by rwa [guard_of_kept kept] at given⟩
  · rw [broken] at given
    exact (complain_rejects _ _ _ given).elim

namespace Scalar

variable {value : Value}

theorem string_output {limits : Limits Nat}
    (given : (string config limits value).outcome = .ok (.ok output)) : output = value := by
  cases value
  case str s =>
    have answered := (Limit.guard_output (Limit.guard_output given).2).2
    cases answered
    rfl
  all_goals exact (complain_rejects _ _ _ given).elim

theorem number_output {whole : Option Value} {limits : Limits Number}
    (given : (number config whole limits value).outcome = .ok (.ok output)) : output = value := by
  unfold number at given
  split at given
  · exact (complain_rejects _ _ _ given).elim
  · split at given
    · exact (complain_rejects _ _ _ given).elim
    · have answered := (Limit.guard_output (Limit.guard_output (Limit.guard_output given).2).2).2
      cases answered
      rfl

theorem bigint_output {limits : Limits Int}
    (given : (bigint config limits value).outcome = .ok (.ok output)) : output = value := by
  cases value
  case int i =>
    have answered := (Limit.guard_output (Limit.guard_output given).2).2
    cases answered
    rfl
  all_goals exact (complain_rejects _ _ _ given).elim

theorem boolean_output (given : (boolean config value).outcome = .ok (.ok output)) :
    output = value := by
  cases value
  case bool b =>
    cases given
    rfl
  all_goals exact (complain_rejects _ _ _ given).elim

end Scalar

namespace Choice

variable {value : Value}

theorem literal_output {values : List Value}
    (given : (literal config values value).outcome = .ok (.ok output)) : output = value := by
  unfold literal at given
  split at given
  · cases given
    rfl
  · exact (Config.refusal_rejects _ _ value given).elim

theorem union_output {options : List Parser} {serial : Nat}
    (given : (union config options serial value).outcome = .ok (.ok output)) :
    (firstMatch serial value options).outcome = .ok (some output) := by
  obtain ⟨matched,tried,answered⟩ := Run.bind_outcome_ok.mp given
  rcases matched with _ | accepted
  · obtain ⟨_,_,answered⟩ := Run.bind_outcome_ok.mp answered
    exact (Config.refusal_rejects _ _ value answered).elim
  · cases answered
    exact tried

end Choice

theorem Sequence.read_output {element : Parser} {limits : Limits Nat} {immediate isList : Bool}
    {serial : Nat} {given : Value} {items : List Value}
    (answered : (read config element limits immediate isList serial given items).outcome =
      .ok (.ok output)) :
    Limit.Kept limits.greatest (· < items.length) ∧
      Limit.Kept limits.least (items.length < ·) ∧
      ∃ visited, (visit immediate serial (tasks element items)).outcome = .ok visited ∧
        visited.failures = [] ∧
        output = if isList && visited.unchanged (tasks element items) then given
          else .list (.made serial) (visited.outputs.map (·.2)) := by
  obtain ⟨small,answered⟩ := Limit.guard_output answered
  obtain ⟨large,answered⟩ := Limit.guard_output answered
  obtain ⟨visited,done,answered⟩ := Run.bind_outcome_ok.mp answered
  refine ⟨small,large,visited,done,?_⟩
  split at answered
  · rename_i clean
    refine ⟨by simpa using clean,?_⟩
    split at answered
    · rename_i kept
      cases answered
      rw [if_pos kept]
    · rename_i rebuilt
      cases answered
      rw [if_neg rebuilt]
  · obtain ⟨_,_,answered⟩ := Run.bind_outcome_ok.mp answered
    cases answered

theorem Sequence.read_of_clean {element : Parser} {limits : Limits Nat} {immediate isList : Bool}
    {serial : Nat} {given : Value} {items : List Value} {visited : Visit Int}
    (small : Limit.Kept limits.greatest (· < items.length))
    (large : Limit.Kept limits.least (items.length < ·))
    (done : (visit immediate serial (tasks element items)).outcome = .ok visited)
    (clean : visited.failures = []) :
    (read config element limits immediate isList serial given items).outcome =
      .ok (.ok (if isList && visited.unchanged (tasks element items) then given
        else .list (.made serial) (visited.outputs.map (·.2)))) := by
  rw [read,Limit.guard_of_kept small,Limit.guard_of_kept large]
  refine (Run.bind_outcome_of_ok done _).trans ?_
  simp only [clean,List.isEmpty_nil,if_true]
  split <;> rfl

theorem Record.read_of_clean {fields : List (String × Parser)} {flags : Flags} {isDict : Bool}
    {serial : Nat} {given : Value} {access : Access} {entries : Entries} {visited : Visit String}
    (done : (visit flags.immediate serial (tasks fields access entries)).outcome = .ok visited)
    (clean : visited.failures = []) (granted : access.copying? flags.strict = none) :
    (read config fields flags isDict serial given access entries).outcome =
      .ok (.ok (projected flags.strict isDict (visited.unchanged (tasks fields access entries))
        serial given entries visited.outputs)) := by
  refine (Run.bind_outcome_of_ok done _).trans ?_
  simp only [clean,List.isEmpty_nil,if_true,project_of_granted granted]
  rfl

theorem Record.read_output {fields : List (String × Parser)} {flags : Flags} {isDict : Bool}
    {serial : Nat} {given : Value} {access : Access} {entries : Entries}
    (plain : isDict = true → access = .free)
    (answered : (read config fields flags isDict serial given access entries).outcome =
      .ok (.ok output)) :
    ∃ visited, (visit flags.immediate serial (tasks fields access entries)).outcome = .ok visited ∧
      visited.failures = [] ∧ access.copying? flags.strict = none ∧
      output = projected flags.strict isDict (visited.unchanged (tasks fields access entries))
        serial given entries visited.outputs := by
  obtain ⟨visited,done,answered⟩ := Run.bind_outcome_ok.mp answered
  refine ⟨visited,done,?_⟩
  split at answered
  · rename_i clean
    rcases asked : access.copying? flags.strict with _ | refused
    · rw [project_of_granted asked] at answered
      cases answered
      exact ⟨by simpa using clean,rfl,rfl⟩
    · rw [project_of_refused asked plain] at answered
      cases answered
  · obtain ⟨_,_,answered⟩ := Run.bind_outcome_ok.mp answered
    cases answered

namespace Form

/-- The value is of a type that the container reads. -/
def Takes {α : Type} : Form σ α → Value → Prop
  | array .., value => value.items?.isSome
  | object .., value => value.entries?.isSome
  | _, _ => False

def container {α : Type} : Form σ α → Bool
  | array .. | object .. => true
  | _ => false

/-- The output of a container, from the outputs of its slots. -/
def assemble (form : Form σ Schema) (serial : Nat) (value : Value) (outputs : List Value) : Value :=
  let unchanged := outputs == (form.slots value).map Slot.item
  match form with
  | object fields flags =>
    Record.projected flags.strict value.isDict unchanged (value.freshFrom serial) value
      (value.entries?.getD []) ((fields.map (·.1)).zip outputs)
  | _ =>
    if value.isList && unchanged then value else .list (.made (value.freshFrom serial)) outputs

/-- Every way in which a structural step ends in an output. -/
inductive Yields (form : Form Stage Schema) (serial : Nat) (value output : Value) : Prop
  | keeps (childless : form.children = []) (same : output = value)
  | forwards {inner : Schema} (shape : form = .optional inner ∨ form = .nullable inner)
      (answered : (inner.parser.read serial value).outcome = .ok (.ok output))
  | turns {inner : Schema} {function : Stage} {passed : Value}
      (shape : form = .transform inner function)
      (answered : (inner.parser.read serial value).outcome = .ok (.ok passed))
      (given : (function.consult serial passed (.transform passed inner.kind) none).outcome =
        .ok (.ok output))
  | chooses {options : List Schema} {option : Schema} (shape : form = .union options)
      (reached : Reached (fun earlier : Schema => (earlier.parser.read serial value).Rejects)
        options option)
      (answered : (option.parser.read serial value).outcome = .ok (.ok output))
  | gathers (outputs : List Value) (taken : form.Takes value) (admitted : form.Admits value)
      (answered : List.Forall₂ (fun slot output =>
        (slot.task.read (value.freshFrom serial)).outcome = .ok (.ok output))
        (form.slots value) outputs)
      (granted : form.copying? value = none)
      (same : output = form.assemble serial value outputs)

/-- The container takes the value and all that is in its slots, with the given outputs, and nothing
keeps it from copying. -/
structure Gathered (form : Form Stage Schema) (serial : Nat) (value output : Value)
    (outputs : List Value) : Prop where
  taken : form.Takes value
  admitted : form.Admits value
  answered : List.Forall₂ (fun slot output =>
    (slot.task.read (value.freshFrom serial)).outcome = .ok (.ok output)) (form.slots value) outputs
  granted : form.copying? value = none
  same : output = form.assemble serial value outputs

variable {serial : Nat} {value : Value}

/-- What was read was not refused. -/
theorem granted_of_answered {slots : List Slot} {outputs : List Value}
    (answered : List.Forall₂ (fun slot output =>
      (slot.task.read serial).outcome = .ok (.ok output)) slots outputs) :
    ∀ slot ∈ slots, slot.refusal = none := by
  induction answered with
  | nil => simp
  | cons head _ ih => exact List.forall_mem_cons.mpr ⟨(Task.read_ok.mp head).1,ih⟩

theorem outputs_rekey {κ : Type} (change : κ → Key) (visited : Visit κ) :
    (visited.rekey change).outputs.map (·.2) = visited.outputs.map (·.2) := by
  simp [Visit.rekey]

theorem outputs_of_visited {κ : Type} {form : Form Stage Schema} {change : κ → Key}
    {run : Run (Visit κ)} (visits : form.visited serial value = Visit.rekey change <$> run)
    {visited : Visit κ} (done : run.outcome = .ok visited) (clean : visited.failures = []) :
    List.Forall₂ (fun slot output =>
      (slot.task.read (value.freshFrom serial)).outcome = .ok (.ok output))
      (form.slots value) (visited.outputs.map (·.2)) := by
  have rekeyed : (form.visited serial value).outcome = .ok (visited.rekey change) := by
    rw [visits]
    exact Run.map_outcome_ok.mpr ⟨visited,done,rfl⟩
  have answered := (visit_clean rekeyed (by simp [Visit.rekey,clean])).2
  rw [outputs_rekey] at answered
  exact List.forall₂_map_left_iff.mp answered

theorem visited_of_outputs {κ : Type} {form : Form Stage Schema} {change : κ → Key}
    {run : Run (Visit κ)} (visits : form.visited serial value = Visit.rekey change <$> run)
    {outputs : List Value} (answered : List.Forall₂ (fun slot output =>
      (slot.task.read (value.freshFrom serial)).outcome = .ok (.ok output))
      (form.slots value) outputs) :
    ∃ visited, run.outcome = .ok visited ∧ visited.failures = [] ∧
      outputs = visited.outputs.map (·.2) := by
  have done : (form.visited serial value).outcome = _ :=
    visit_of_outputs (List.forall₂_map_left_iff.mpr answered)
  rw [visits] at done
  obtain ⟨visited,ended,same⟩ := Run.map_outcome_ok.mp done
  have failures := congrArg Visit.failures same
  have rekeyed := congrArg (fun visited => visited.outputs.map (·.2)) same
  refine ⟨visited,ended,by simpa [Visit.rekey] using failures,?_⟩
  have lengths := answered.length_eq
  rw [outputs_rekey,List.map_snd_zip (by simp [lengths])] at rekeyed
  exact rekeyed.symm

theorem assemble_array {element : Schema} {limits : Limits Nat} {immediate : Bool}
    {items : List Value} (held : value.items? = some items) {visited : Visit Int} :
    (Form.array element limits immediate : Form Stage Schema).assemble serial value
        (visited.outputs.map (·.2)) =
      if value.isList && visited.unchanged (Sequence.tasks element.parser items) then value
      else .list (.made (value.freshFrom serial)) (visited.outputs.map (·.2)) := by
  have read : (Sequence.tasks element.parser items).map (·.item) =
      ((Form.array element limits immediate : Form Stage Schema).slots value).map Slot.item := by
    simp only [Sequence.tasks,slots,held,List.map_map]
    rfl
  rw [Visit.unchanged,read]
  rfl

theorem assemble_object {fields : List (String × Schema)} {flags : Flags} {entries : Entries}
    (held : value.entries? = some entries) {visited : Visit String}
    (keyed : visited.outputs.map (·.1) =
      (Record.tasks (fields.map fun field => (field.1,field.2.parser)) value.access entries).map
        (·.key)) :
    (Form.object fields flags : Form Stage Schema).assemble serial value
        (visited.outputs.map (·.2)) =
      Record.projected flags.strict value.isDict
        (visited.unchanged (Record.tasks (fields.map fun field => (field.1,field.2.parser))
          value.access entries))
        (value.freshFrom serial) value entries visited.outputs := by
  have read : (Record.tasks (fields.map fun field => (field.1,field.2.parser)) value.access
      entries).map (·.item) =
        ((Form.object fields flags : Form Stage Schema).slots value).map Slot.item := by
    simp only [Record.tasks,slots,held,List.map_map]
    rfl
  have names : fields.map (·.1) = visited.outputs.map (·.1) := by
    rw [keyed]
    simp only [Record.tasks,List.map_map]
    rfl
  rw [Visit.unchanged,read]
  simp only [assemble,held,Option.getD_some,names,List.zip_map']
  simp

/-- The values that the container answers with themselves where nothing in them changes. -/
def Retains {α : Type} : Form σ α → Value → Prop
  | array .., value => value.isList = true
  | object _ flags,value => flags.strict = false ∧ value.isDict = true
  | _, _ => False

/-- A container gives the value itself exactly when it may, and every slot gave what is in it. -/
theorem assemble_eq_self {form : Form σ Schema} (container : form.container) {outputs : List Value} :
    form.assemble serial value outputs = value ↔
      form.Retains value ∧ outputs = (form.slots value).map Slot.item := by
  have fresh := Value.beyond_le_freshFrom value serial
  have lists := Value.list_made_ne fresh
  have dicts := Value.dict_made_ne fresh
  by_cases same : outputs = (form.slots value).map Slot.item
  · cases form with
    | array element limits immediate =>
      by_cases listed : value.isList = true <;> simp [assemble,Retains,same,listed,lists]
    | object fields flags =>
      by_cases strict : flags.strict = true
      · simp [assemble,Record.projected,Retains,strict,dicts]
      · by_cases plain : value.isDict = true <;>
          simp [assemble,Record.projected,Retains,same,strict,plain,dicts]
    | _ => cases container
  · cases form with
    | array element limits immediate => simp [assemble,same,lists]
    | object fields flags =>
      by_cases strict : flags.strict = true <;>
        simp [assemble,Record.projected,same,strict,dicts]
    | _ => cases container

theorem items_array {element : Schema} {limits : Limits Nat} {immediate : Bool}
    {items : List Value} (held : value.items? = some items) :
    ((Form.array element limits immediate : Form σ Schema).slots value).map Slot.item = items := by
  simp only [slots,held,List.map_map]
  exact List.zipIdx_map_fst 0 items

/-- Whether it is the value or made anew, an array's output is the list of its outputs. -/
theorem assemble_array_eq {element : Schema} {limits : Limits Nat} {immediate : Bool}
    {outputs : List Value}
    (taken : (Form.array element limits immediate : Form σ Schema).Takes value) :
    ∃ identity, (Form.array element limits immediate : Form σ Schema).assemble serial value outputs =
      .list identity outputs := by
  by_cases kept : (Form.array element limits immediate : Form σ Schema).assemble serial value
      outputs = value
  · obtain ⟨listed,same⟩ := (assemble_eq_self rfl).mp kept
    cases value with
    | list identity items =>
      rw [items_array rfl] at same
      exact ⟨identity,by rw [kept,same]⟩
    | _ => cases listed
  · refine ⟨.made (value.freshFrom serial),if_neg ?_⟩
    intro unchanged
    exact kept (if_pos unchanged)

theorem Gathered.counted {fields : List (String × Schema)} {flags : Flags} {output : Value}
    {outputs : List Value}
    (gathered : (Form.object fields flags).Gathered serial value output outputs) :
    fields.length = outputs.length := by
  obtain ⟨entries,held⟩ := Option.isSome_iff_exists.mp gathered.taken
  have lengths := gathered.answered.length_eq
  simpa [slots,held] using lengths

/-- What an object puts together anew binds every declared name to the output of its field. -/
theorem assemble_object_eq {fields : List (String × Schema)} {flags : Flags} {outputs : List Value}
    (distinct : (fields.map (·.1)).Nodup) (counted : fields.length = outputs.length)
    (changed : (Form.object fields flags : Form Stage Schema).assemble serial value outputs ≠ value) :
    ∃ entries, (Form.object fields flags : Form Stage Schema).assemble serial value outputs =
        .dict (.made (value.freshFrom serial)) entries ∧
      (∀ named ∈ (fields.map (·.1)).zip outputs,
        Table.Binds entries (.str named.1) (Record.bound? named.2)) ∧
      (flags.strict = true → entries = Record.declared ((fields.map (·.1)).zip outputs)) := by
  have names : (((fields.map (·.1)).zip outputs).map (·.1)).Nodup := by
    rwa [List.map_fst_zip (by simp [counted])]
  simp only [assemble,Record.projected] at changed ⊢
  split at changed
  · rename_i strict
    rw [if_pos strict]
    exact ⟨_,rfl,fun _ member => Record.binds_declared names member,fun _ => rfl⟩
  · rename_i loose
    split at changed
    · exact (changed rfl).elim
    · rename_i rebuilt
      rw [if_neg loose,if_neg rebuilt]
      refine ⟨_,rfl,fun _ member => Record.binds_overlaid names _ member,?_⟩
      exact fun strict => (loose strict).elim

end Form

namespace Node

variable {config : Config Stage} {serial : Nat} {value : Value}

theorem array_gathers {element : Schema} {limits : Limits Nat} {immediate : Bool} :
    (structural ⟨config,.array element limits immediate⟩ serial value).outcome =
        .ok (.ok output) ↔
      ∃ outputs, (Form.array element limits immediate).Gathered serial value output outputs := by
  rcases held : value.items? with _ | items
  · rw [array_of_bare held]
    refine ⟨fun given => (Config.refusal_rejects _ _ value given).elim,?_⟩
    rintro ⟨outputs,taken,_⟩
    simp [Form.Takes,held] at taken
  · rw [array_of_items held]
    have visits : (Form.array element limits immediate : Form Stage Schema).visited serial value =
      _ := Form.visited_array held
    constructor
    · intro given
      obtain ⟨small,large,visited,done,clean,same⟩ := Sequence.read_output given
      refine ⟨visited.outputs.map (·.2),by simp [Form.Takes,held],?_,
        Form.outputs_of_visited visits done clean,rfl,?_⟩
      · intro others other
        obtain rfl : items = others := by simpa [held] using other
        exact ⟨small,large⟩
      · rw [same,Form.assemble_array held]
    · rintro ⟨outputs,_,admitted,answered,_,same⟩
      obtain ⟨small,large⟩ := admitted items held
      obtain ⟨visited,done,clean,rfl⟩ := Form.visited_of_outputs visits answered
      rw [same,Form.assemble_array held]
      exact Sequence.read_of_clean small large done clean

theorem object_gathers {fields : List (String × Schema)} {flags : Flags} :
    (structural ⟨config,.object fields flags⟩ serial value).outcome = .ok (.ok output) ↔
      ∃ outputs, (Form.object fields flags).Gathered serial value output outputs := by
  rcases held : value.entries? with _ | entries
  · rw [object_of_bare held]
    refine ⟨fun given => (Config.refusal_rejects _ _ value given).elim,?_⟩
    rintro ⟨outputs,taken,_⟩
    simp [Form.Takes,held] at taken
  · rw [object_of_entries held]
    have visits : (Form.object fields flags : Form Stage Schema).visited serial value = _ :=
      Form.visited_object held
    constructor
    · intro given
      obtain ⟨visited,done,clean,granted,same⟩ := Record.read_output Value.access_of_isDict given
      refine ⟨visited.outputs.map (·.2),by simp [Form.Takes,held],trivial,
        Form.outputs_of_visited visits done clean,granted,?_⟩
      rw [same,Form.assemble_object held (visit_clean done clean).1]
    · rintro ⟨outputs,_,_,answered,granted,same⟩
      obtain ⟨visited,done,clean,rfl⟩ := Form.visited_of_outputs visits answered
      rw [same,Form.assemble_object held (visit_clean done clean).1]
      exact Record.read_of_clean done clean granted

/-- A container accepts exactly when it takes the value and all that is in its slots. -/
theorem structural_gathers {content : Node Stage Schema} (container : content.form.container) :
    (content.structural serial value).outcome = .ok (.ok output) ↔
      ∃ outputs, content.form.Gathered serial value output outputs := by
  rcases content with ⟨config,form⟩
  cases form with
  | array element limits immediate => exact array_gathers
  | object fields flags => exact object_gathers
  | _ => cases container

/-- A structural step that ends in an output does so in one of the ways of its form. -/
theorem structural_yields {content : Node Stage Schema}
    (given : (content.structural serial value).outcome = .ok (.ok output)) :
    content.form.Yields serial value output := by
  rcases content with ⟨config,form⟩
  cases form with
  | string limits => exact .keeps rfl (Scalar.string_output given)
  | number whole limits => exact .keeps rfl (Scalar.number_output given)
  | bigint limits => exact .keeps rfl (Scalar.bigint_output given)
  | boolean => exact .keeps rfl (Scalar.boolean_output given)
  | unknown | any =>
    cases given
    exact .keeps rfl rfl
  | array element limits immediate =>
    obtain ⟨outputs,taken,admitted,answered,granted,same⟩ := array_gathers.mp given
    exact .gathers outputs taken admitted answered granted same
  | object fields flags =>
    obtain ⟨outputs,taken,admitted,answered,granted,same⟩ := object_gathers.mp given
    exact .gathers outputs taken admitted answered granted same
  | literal values => exact .keeps rfl (Choice.literal_output given)
  | union options =>
    obtain ⟨parser,reached,answered⟩ := Choice.firstMatch_output (Choice.union_output given)
    obtain ⟨option,inside,rfl⟩ := reached.of_map
    exact .chooses rfl inside answered
  | optional inner => exact .forwards (.inl rfl) given
  | nullable inner => exact .forwards (.inr rfl) given
  | transform inner function =>
    obtain ⟨passed,answered,turned⟩ := Run.andThen_outcome_ok.mp given
    rw [Schema.parser_kind] at turned
    exact .turns rfl answered turned

end Node
end Schemata
