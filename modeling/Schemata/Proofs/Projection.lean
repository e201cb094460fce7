import Schemata.Proofs.Yielding

/-!
What an object that is not strict puts out. Whether it hands its input back or copies it, its output
binds the declared names to the outputs of their fields and every other key as the input does. The one
difference shows where the input binds a declared name to the missing value: a copy leaves the name
out, and an input that is handed back keeps it. All this is about inputs that can be read: a mapping
that is no dictionary may refuse to be.
-/
namespace Schemata

namespace Record

variable {entries : Entries} {outputs : List (String × Value)} {key : Value}

/-- What is put out for a mapping: a dictionary that binds each key as told, unless it is the mapping
itself and that binds the key to the missing value. -/
def Projects (value : Value) (told : Value → Option Value) (output : Value) : Prop :=
  ∃ entries identity kept, value.entries? = some entries ∧ output = .dict identity kept ∧
    ∀ key, Table.find? kept key =
      if output = value ∧ Table.find? entries key = some .missing then some .missing else told key

variable {value output : Value} {told : Value → Option Value}

theorem Projects.handed (projects : Projects value told output) {kept : Entries}
    (same : output.entries? = some kept) (bound : Table.find? kept key = some .missing)
    (present : told key ≠ some .missing) : output = value := by
  obtain ⟨entries,identity,others,_,rfl,binds⟩ := projects
  obtain rfl := Option.some.inj same
  by_contra copied
  rw [binds,if_neg (fun both => copied both.1)] at bound
  exact present bound

end Record

namespace Form

variable {fields : List (String × Schema)} {flags : Flags} {serial : Nat} {value : Value}
  {entries : Entries} {outputs : List Value}

/-- Every slot takes what is in it, with the given outputs. -/
def Validates (form : Form Stage Schema) (serial : Nat) (value : Value) (outputs : List Value) :
    Prop :=
  List.Forall₂ (fun slot output =>
    (slot.task.read (value.freshFrom serial)).outcome = .ok (.ok output)) (form.slots value) outputs

theorem Validates.counted (validates : (Form.object fields flags).Validates serial value outputs)
    (held : value.entries? = some entries) : fields.length = outputs.length := by
  have lengths := List.Forall₂.length_eq validates
  simpa [slots,held] using lengths

theorem Validates.names (validates : (Form.object fields flags).Validates serial value outputs)
    (held : value.entries? = some entries) :
    ((fields.map (·.1)).zip outputs).map (·.1) = fields.map (·.1) :=
  List.map_fst_zip (by simp [validates.counted held])

end Form

namespace Node

variable {fields : List (String × Schema)} {flags : Flags} {serial : Nat} {value : Value}
  {entries : Entries} {outputs : List Value}

end Node
end Schemata
