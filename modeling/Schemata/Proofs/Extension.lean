import Schemata.Node.Building
import Schemata.Proofs.Tables
import Schemata.Schema.Parsing

/-!
Extending objects. An extension is built like any other object and then made its owner's: whatever
flags are in force, it has the configuration and the flags of the owner. Its fields are the owner's
with the given ones laid over them, so that extending twice is extending once by what the second
mapping makes of the first.
-/
namespace Schemata

variable {σ α : Type}

/-- Fields as a mapping of names to schemas. -/
def Fields.named (fields : List (String × α)) : Table (Part α) :=
  fields.map fun field => (.str field.1,.schema field.2)

open Fields (named)

namespace Node

theorem checkFields_cons (name : String) (child : α) (rest : Table (Part α)) :
    checkFields ((.str name,.schema child) :: rest) =
      (checkFields rest).map fun others => (name,child) :: others := rfl

theorem checkFields_named (fields : List (String × α)) : checkFields (named fields) = .ok fields := by
  induction fields with
  | nil => rfl
  | cons field rest ih =>
    simp only [named,List.map_cons] at ih ⊢
    rw [checkFields_cons,ih]
    rfl

/-- Exactly the mappings of names to schemas pass the check of an object's fields. -/
theorem checkFields_ok {entries : Table (Part α)} {fields : List (String × α)} :
    checkFields entries = .ok fields ↔ entries = named fields := by
  constructor
  · intro checked
    induction entries generalizing fields with
    | nil =>
      cases checked
      rfl
    | cons entry rest ih =>
      rcases entry with ⟨key,part⟩
      cases key with
      | str name =>
        cases part with
        | other value => cases checked
        | schema child =>
          rw [checkFields_cons] at checked
          rcases given : checkFields rest with error | others
          · simp [given,Except.map] at checked
          · simp only [given,Except.map,Except.ok.injEq] at checked
            rw [← checked,ih given]
            rfl
      | _ => cases checked
  · rintro rfl
    exact checkFields_named fields

theorem named_injective : Function.Injective (named : List (String × α) → Table (Part α)) := by
  intro first second same
  have checked : checkFields (named first) = checkFields (named second) := congrArg checkFields same
  simpa [checkFields_named] using checked

theorem named_insert (fields : List (String × α)) (name : String) (child : α) :
    ∃ written, (named fields).insert (.str name) (.schema child) = named written := by
  rcases present : (named fields).contains (.str name) with _ | _
  · refine ⟨fields ++ [(name,child)],?_⟩
    rw [Table.insert_of_not_contains present]
    simp [named]
  · refine ⟨fields.map fun field => (field.1,if field.1 = name then child else field.2),?_⟩
    rw [Table.insert_of_contains present,Table.rebind]
    simp only [named,List.map_map]
    apply List.map_congr_left
    intro field _
    by_cases same : field.1 = name <;> simp [Value.sameKey_str,same]

theorem named_overlay (fields further : List (String × α)) :
    ∃ merged, (named fields).overlay (named further) = named merged := by
  induction further generalizing fields with
  | nil => exact ⟨fields,rfl⟩
  | cons field rest ih =>
    obtain ⟨written,inserted⟩ := named_insert fields field.1 field.2
    obtain ⟨merged,overlaid⟩ := ih written
    refine ⟨merged,?_⟩
    rw [← overlaid,← inserted]
    rfl

variable {config : Config σ} {owned : List (String × α)} {flags : Flags}

/-- Extending checks the overlaid fields, and the flags in force show nowhere in what it builds. -/
theorem extend_mapping (ambient : Flags) (entries : Table (Part α)) :
    extend ambient (⟨config,.object owned flags⟩ : Node σ α) (.mapping entries) =
      (checkFields ((named owned).overlay entries)).map fun fields =>
        ⟨config,.object fields flags⟩ := by
  have fields : (owned.map fun field => (Value.str field.1,Part.schema field.2)) = named owned := rfl
  simp only [extend,object,fields]
  rcases checkFields ((named owned).overlay entries) with error | fields
  · rfl
  · rfl

theorem extend_ok {ambient : Flags} {entries : Table (Part α)} {built : Node σ α}
    (extended : extend ambient ⟨config,.object owned flags⟩ (.mapping entries) = .ok built) :
    ∃ fields, (named owned).overlay entries = named fields ∧
      built = ⟨config,.object fields flags⟩ := by
  rw [extend_mapping] at extended
  rcases checked : checkFields ((named owned).overlay entries) with error | fields
  · simp [checked,Except.map] at extended
  · simp only [checked,Except.map,Except.ok.injEq] at extended
    exact ⟨fields,checkFields_ok.mp checked,extended.symm⟩

theorem extend_inherits {ambient : Flags} {given : Fields α} {built : Node σ α}
    (extended : extend ambient ⟨config,.object owned flags⟩ given = .ok built) :
    ∃ fields, built = ⟨config,.object fields flags⟩ := by
  cases given with
  | other value => cases extended
  | mapping entries =>
    obtain ⟨fields,_,rfl⟩ := extend_ok extended
    exact ⟨fields,rfl⟩

theorem extend_named (config : Config σ) (owned further : List (String × α)) (flags : Flags) :
    ∃ fields, (named owned).overlay (named further) = named fields ∧
      ∀ ambient, extend ambient ⟨config,.object owned flags⟩ (.mapping (named further)) =
        .ok ⟨config,.object fields flags⟩ := by
  obtain ⟨fields,overlaid⟩ := named_overlay owned further
  refine ⟨fields,overlaid,fun ambient => ?_⟩
  rw [extend_mapping,overlaid,checkFields_named]
  rfl

/-- Extending is associative. Extended by one valid mapping and then by another, an object has the
fields, in their order, that it has when it is extended by the second laid over the first; both do the
same with every value, and whatever is in force at any of the calls, every extension has the messages,
the flags and the stages of its owner. -/
theorem extend_extend (config : Config Stage) (owned : List (String × Schema)) (flags : Flags)
    (first second : Table (Part Schema)) {further later : List (String × Schema)}
    (valid : checkFields first = .ok further) (validated : checkFields second = .ok later)
    (ambient between beside : Flags) :
    ∃ middle left right : Node Stage Schema,
      extend ambient ⟨config,.object owned flags⟩ (.mapping first) = .ok middle ∧
      extend between middle (.mapping second) = .ok left ∧
      extend beside ⟨config,.object owned flags⟩ (.mapping (first.overlay second)) = .ok right ∧
      (∃ fields, left.form = .object fields flags ∧ right.form = .object fields flags ∧
        named fields = ((named owned).overlay first).overlay second) ∧
      (∀ value, (Schema.node left).safeParse value = (Schema.node right).safeParse value) ∧
      ∀ (owned : List (String × Schema)) (ambient : Flags) (given : Fields Schema)
        (built : Node Stage Schema),
        extend ambient ⟨config,.object owned flags⟩ given = .ok built →
          built.config = config ∧ ∃ fields, built.form = .object fields flags := by
  obtain rfl := checkFields_ok.mp valid
  obtain rfl := checkFields_ok.mp validated
  obtain ⟨middle,laid,extended⟩ := extend_named config owned further flags
  obtain ⟨left,twice,extending⟩ := extend_named config middle later flags
  obtain ⟨both,joined⟩ := named_overlay further later
  obtain ⟨right,once,built⟩ := extend_named config owned both flags
  obtain rfl : left = right := by
    apply named_injective
    calc
      named left = ((named owned).overlay (named further)).overlay (named later) := by
        rw [← twice,laid]
      _ = (named owned).overlay ((named further).overlay (named later)) :=
        Table.overlay_overlay _ _ _
      _ = named right := by rw [joined,once]
  refine ⟨_,_,_,extended ambient,extending between,?_,⟨left,rfl,rfl,?_⟩,fun value => rfl,?_⟩
  · rw [joined]
    exact built beside
  · rw [laid,twice]
  · intro others ambient given node done
    obtain ⟨fields,rfl⟩ := extend_inherits done
    exact ⟨rfl,fields,rfl⟩

theorem extend_extend_overlapping :
    let text : Schema := .node ⟨.empty,.string .none⟩
    let count : Schema := .node ⟨.empty,.bigint .none⟩
    let choice : Schema := .node ⟨.empty,.boolean⟩
    let owner : Node Stage Schema := ⟨.withMessage (.str "No row"),
      .object [("id",text),("size",text)] ⟨true,false,true⟩⟩
    let first : Table (Part Schema) := [(.str "size",.schema choice),(.str "note",.schema text)]
    let second : Table (Part Schema) := [(.str "note",.schema choice),(.str "id",.schema count)]
    ∃ middle left right, extend ⟨false,true,false⟩ owner (.mapping first) = .ok middle ∧
      extend .off middle (.mapping second) = .ok left ∧
      extend ⟨true,true,true⟩ owner (.mapping (first.overlay second)) = .ok right ∧
      left.form = .object [("id",count),("size",choice),("note",choice)] ⟨true,false,true⟩ ∧
      right.form = left.form ∧ left.config = owner.config := by
  intro text count choice owner first second
  have valid : checkFields first = .ok [("size",choice),("note",text)] := rfl
  have validated : checkFields second = .ok [("note",choice),("id",count)] := rfl
  obtain ⟨middle,left,right,extended,extending,built,⟨fields,ours,theirs,overlaid⟩,_,inherits⟩ :=
    extend_extend owner.config [("id",text),("size",text)] ⟨true,false,true⟩ first second valid
      validated ⟨false,true,false⟩ .off ⟨true,true,true⟩
  obtain rfl : fields = [("id",count),("size",choice),("note",choice)] :=
    named_injective (overlaid.trans rfl)
  refine ⟨middle,left,right,extended,extending,built,ours,theirs.trans ours.symm,?_⟩
  obtain ⟨configured,names,form⟩ := inherits _ _ _ _ extended
  obtain rfl : middle = ⟨owner.config,.object names ⟨true,false,true⟩⟩ := by
    rw [← configured,← form]
  exact (inherits _ _ _ _ extending).1

end Node
end Schemata
