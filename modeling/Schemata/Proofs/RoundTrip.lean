import Schemata.Proofs.Yielding

/-!
Nothing is converted. Without refinements, transforms and strict objects an accepted value comes
back as the object that it was, provided that no tuple and no mapping of another type than a
dictionary is in it: these are the ones that an array or an object answers with a new container.
-/
namespace Schemata

namespace Value

mutual
/-- No item and no bound value, at any depth, is a tuple or a mapping that is no dictionary. -/
def plain : Value → Bool
  | tuple .. | mapping .. => false
  | list _ items => plainItems items
  | dict _ entries => plainEntries entries
  | _ => true
def plainItems : List Value → Bool
  | [] => true
  | item :: rest => item.plain && plainItems rest
def plainEntries : List (Value × Value) → Bool
  | [] => true
  | (_,bound) :: rest => bound.plain && plainEntries rest
end

theorem plain_of_mem {item : Value} {items : List Value} (plain : plainItems items = true)
    (member : item ∈ items) : item.plain = true := by
  induction items with
  | nil => cases member
  | cons first rest ih =>
    rw [plainItems,Bool.and_eq_true] at plain
    rcases List.mem_cons.mp member with rfl | later
    · exact plain.1
    · exact ih plain.2 later

theorem bound_plain_of_mem {entry : Value × Value} {entries : List (Value × Value)}
    (plain : plainEntries entries = true) (member : entry ∈ entries) : entry.2.plain = true := by
  induction entries with
  | nil => cases member
  | cons first rest ih =>
    rw [plainEntries,Bool.and_eq_true] at plain
    rcases List.mem_cons.mp member with rfl | later
    · exact plain.1
    · exact ih plain.2 later

theorem plain_items {value : Value} {items : List Value} (plain : value.plain = true)
    (held : value.items? = some items) : value.isList = true ∧ plainItems items = true := by
  cases value with
  | list identity others =>
    obtain rfl := Option.some.inj held
    exact ⟨rfl,by rwa [Value.plain] at plain⟩
  | tuple identity others => simp [Value.plain] at plain
  | _ => cases held

theorem plain_entries {value : Value} {entries : Entries} (plain : value.plain = true)
    (held : value.entries? = some entries) : value.isDict = true ∧ plainEntries entries = true := by
  cases value with
  | dict identity others =>
    obtain rfl := Option.some.inj held
    exact ⟨rfl,by rwa [Value.plain] at plain⟩
  | mapping identity others => simp [Value.plain] at plain
  | _ => cases held

end Value

namespace Form

variable {σ α : Type} {form : Form σ Schema} {value : Value}

/-- The form makes no output of its own: it keeps undeclared fields and has no function. -/
def Preserves : Form σ α → Prop
  | object _ flags => flags.strict = false
  | transform .. => False
  | _ => True

theorem slot_plain (plain : value.plain = true) {slot : Slot} (member : slot ∈ form.slots value) :
    slot.item.plain = true := by
  cases form with
  | array element limits immediate =>
    rcases held : value.items? with _ | items
    · simp [slots,held] at member
    · simp only [slots,held] at member
      obtain ⟨entry,inside,rfl⟩ := List.mem_map.mp member
      exact Value.plain_of_mem (Value.plain_items plain held).2
        (List.fst_mem_of_mem_zipIdx inside)
  | object fields flags =>
    rcases held : value.entries? with _ | entries
    · simp [slots,held] at member
    · simp only [slots,held] at member
      obtain ⟨field,_,rfl⟩ := List.mem_map.mp member
      -- An absent field is read as the missing value, which has no parts.
      rcases found : Table.find? entries (.str field.1) with _ | bound
      · rfl
      · obtain ⟨entry,searched,rfl⟩ := Option.map_eq_some_iff.mp found
        exact Value.bound_plain_of_mem (Value.plain_entries plain held).2
          (List.mem_of_find?_eq_some searched)
  | _ => cases member

theorem assemble_unchanged {serial : Nat} (preserves : form.Preserves) (plain : value.plain = true)
    (taken : form.Takes value) :
    form.assemble serial value ((form.slots value).map Slot.item) = value := by
  cases form with
  | array element limits immediate =>
    obtain ⟨items,held⟩ := Option.isSome_iff_exists.mp taken
    simp [assemble,(Value.plain_items plain held).1]
  | object fields flags =>
    obtain ⟨entries,held⟩ := Option.isSome_iff_exists.mp taken
    have kept : flags.strict = false := preserves
    simp [assemble,Record.projected,kept,(Value.plain_entries plain held).1]
  | _ => exact taken.elim

/-- A structural step gives its own value where every child does. -/
theorem Yields.identical {form : Form Stage Schema} {serial : Nat} {output : Value}
    (yields : form.Yields serial value output) (preserves : form.Preserves)
    (plain : value.plain = true)
    (below : ∀ child ∈ form.children, ∀ inner item answer, item.plain = true →
      (child.parser.read inner item).outcome = .ok (.ok answer) → answer = item) :
    output = value := by
  cases yields with
  | keeps _ same => exact same
  | forwards shape answered =>
    rcases shape with shape | shape
    · exact below _ (by simp [shape,children]) _ _ _ plain answered
    · exact below _ (by simp [shape,children]) _ _ _ plain answered
  | turns shape _ _ => simp [shape,Preserves] at preserves
  | chooses shape reached answered =>
    exact below _ (by simpa [shape,children] using reached.mem) _ _ _ plain answered
  | gathers outputs taken _ answered _ same =>
    -- Every slot is read by a child, and what stands in it is plain as the whole is.
    have inside := (List.forall₂_and_left _ _).mpr ⟨fun slot member => member,answered⟩
    have kept : List.Forall₂ (fun slot output => slot.item = output) (form.slots value) outputs :=
      inside.imp fun slot output both =>
        (below _ (slot_child both.1) _ _ _ (slot_plain plain both.1)
          (Task.read_ok.mp both.2).2).symm
    have unchanged : (form.slots value).map Slot.item = outputs := by
      rwa [← List.forall₂_eq_eq_eq,List.forall₂_map_left_iff]
    rw [same,← unchanged]
    exact assemble_unchanged preserves plain taken

end Form

def Node.Preserves (content : Node Stage Schema) : Prop :=
  content.config.refines = [] ∧ content.form.Preserves

namespace Schema

theorem read_identical (schema : Schema) (preserving : schema.Every Node.Preserves)
    (serial : Nat) (value : Value) (plain : value.plain = true) (output : Value)
    (accepted : (schema.parser.read serial value).outcome = .ok (.ok output)) : output = value := by
  induction schema using Schema.induction generalizing serial value output with
  | node content ih =>
    obtain ⟨unrefined,preserves⟩ := preserving.here
    rcases read_outcome_output.mp accepted with ⟨refined,_⟩ | ⟨current,entered,looked,_⟩
    · rw [unrefined] at refined
      cases refined
      rfl
    · obtain rfl := entered.unrefined unrefined
      apply (Node.structural_yields looked).identical preserves plain
      intro child member inner item answer inside answered
      exact ih child member (preserving.child member) inner item inside answer answered

/-- What is accepted without a refinement, a transform or a strict object is the input itself. -/
theorem safe_parse_identical (schema : Schema) (preserving : schema.Every Node.Preserves)
    (value : Value) (plain : value.plain = true) (output : Value)
    (accepted : (schema.safeParse value).outcome = .ok (.ok output)) : output = value :=
  read_identical schema preserving 0 value plain output accepted

theorem safe_parse_identical_nested :
    let tag : Schema := .node ⟨.empty,.union [.node ⟨.empty,.bigint .none⟩,
      .node ⟨.empty,.string .none⟩]⟩
    let note : Schema := .node ⟨.empty,.optional (.node ⟨.empty,.string .none⟩)⟩
    let schema : Schema := .node ⟨.empty,
      .object [("tags",.node ⟨.empty,.array tag .none false⟩),("note",note)] .off⟩
    let input : Value := .dict (.given 0) [(.str "tags",.list (.given 1) [.int 1,.str "a"]),
      (.str "extra",.null)]
    ∃ output, (schema.safeParse input).outcome = .ok (.ok output) ∧ output = input := by
  intro tag note schema input
  have accepted : (schema.safeParse input).outcome = .ok (.ok input) := rfl
  have leaf {form : Form Stage Schema} (preserves : form.Preserves)
      (childless : form.children = []) : (Schema.node ⟨.empty,form⟩).Every Node.Preserves :=
    .leaf ⟨rfl,preserves⟩ childless
  have tags : (Schema.node ⟨.empty,.array tag .none false⟩).Every Node.Preserves := by
    refine .parent ⟨rfl,trivial⟩ rfl (.node ⟨rfl,trivial⟩ ?_)
    simpa [Form.children] using ⟨leaf trivial rfl,leaf trivial rfl⟩
  have preserving : schema.Every Node.Preserves := by
    refine .node ⟨rfl,rfl⟩ ?_
    simpa [Form.children] using ⟨tags,.parent ⟨rfl,trivial⟩ rfl (leaf trivial rfl)⟩
  exact ⟨input,accepted,safe_parse_identical schema preserving input rfl input accepted⟩

end Schema
end Schemata
