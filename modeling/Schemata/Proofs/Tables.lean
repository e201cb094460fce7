import Mathlib.Data.List.Nodup
import Schemata.Schema.Container

/-!
Tables in insertion order. Writing to a key binds it and leaves every other key as it is; laying
tables over one another is associative, places and spellings of the keys included. Of the tables
that objects make it is told what they bind the declared names to.
-/
namespace Schemata

theorem Value.sameKey_iff {a b : Value} : a.sameKey b = true ↔ a.keyForm = b.keyForm := by
  simp [Value.sameKey]

theorem Value.sameKey_str {first second : String} :
    (Value.str first).sameKey (.str second) = true ↔ first = second := by
  simp [Value.sameKey_iff,Value.keyForm]

theorem Value.sameKey_name {key : Value} {name : String} :
    key.sameKey (.str name) = true ↔ key = .str name := by
  rw [sameKey_iff]
  constructor
  · intro same
    cases key with
    | float x =>
      simp only [keyForm] at same
      split at same <;> cases same
    | _ => first | exact same | cases same
  · exact congrArg keyForm

namespace Table

variable {β : Type} {table : Table β} {key other : Value} {bound : β}

/-- The table with another value in the place of the key. -/
def rebind (table : Table β) (key : Value) (bound : β) : Table β :=
  table.map fun entry => if entry.1.sameKey key then (entry.1,bound) else entry

theorem insert_of_contains (present : table.contains key = true) (bound : β) :
    table.insert key bound = table.rebind key bound := if_pos present

theorem insert_of_not_contains (absent : table.contains key = false) (bound : β) :
    table.insert key bound = table ++ [(key,bound)] := by
  simp [insert,absent]

theorem contains_eq_true : table.contains key = true ↔ ∃ entry ∈ table, entry.1.sameKey key = true :=
  List.any_eq_true

theorem contains_eq_false :
    table.contains key = false ↔ ∀ entry ∈ table, ¬ entry.1.sameKey key = true := by
  simp [contains]

theorem contains_rebind (table : Table β) (key other : Value) (bound : β) :
    (table.rebind key bound).contains other = table.contains other := by
  have keeps (entry : Value × β) :
      (if entry.1.sameKey key then (entry.1,bound) else entry).1 = entry.1 := by
    split <;> rfl
  simp [contains,rebind,List.any_map,Function.comp_def,keeps]

theorem mem_insert {entry : Value × β} (member : entry ∈ table.insert key bound) :
    entry.1.sameKey key = true ∧ entry.2 = bound ∨
      entry ∈ table ∧ ¬ entry.1.sameKey key = true := by
  rcases present : table.contains key with _ | _
  · rw [insert_of_not_contains present] at member
    rcases List.mem_append.mp member with before | added
    · exact .inr ⟨before,contains_eq_false.mp present entry before⟩
    · obtain rfl := List.mem_singleton.mp added
      exact .inl ⟨Value.sameKey_iff.mpr rfl,rfl⟩
  · rw [insert_of_contains present] at member
    obtain ⟨given,inside,rfl⟩ := List.mem_map.mp member
    by_cases same : given.1.sameKey key = true
    · simp [same]
    · simpa [same] using inside

theorem contains_insert_self (table : Table β) (key : Value) (bound : β) :
    (table.insert key bound).contains key = true := by
  rcases present : table.contains key with _ | _
  · rw [insert_of_not_contains present]
    apply contains_eq_true.mpr
    exact ⟨(key,bound),by simp,Value.sameKey_iff.mpr rfl⟩
  · rw [insert_of_contains present,contains_rebind,present]

theorem contains_insert_of_contains (present : table.contains key = true) (other : Value)
    (bound : β) : (table.insert other bound).contains key = true := by
  rcases held : table.contains other with _ | _
  · rw [insert_of_not_contains held]
    obtain ⟨entry,member,same⟩ := contains_eq_true.mp present
    exact contains_eq_true.mpr ⟨entry,List.mem_append_left _ member,same⟩
  · rw [insert_of_contains held,contains_rebind,present]

/-- What the key is bound to, wherever it occurs; a key that is bound to nothing does not occur. -/
structure Binds (table : Table β) (key : Value) (bound : Option β) : Prop where
  only : ∀ entry ∈ table, entry.1.sameKey key = true → bound = some entry.2
  present : bound.isSome = true → table.contains key = true

theorem Binds.find {bound : Option β} (binds : table.Binds key bound) :
    table.find? key = bound := by
  rcases found : List.find? (fun entry => entry.1.sameKey key) table with _ | entry
  · have absent : table.contains key = false := by
      simpa [contains_eq_false] using found
    rcases bound with _ | value
    · simp [find?,found]
    · simp [binds.present rfl] at absent
  · have member := List.mem_of_find?_eq_some found
    have same : entry.1.sameKey key = true := by simpa using List.find?_some found
    rw [binds.only entry member same]
    simp [find?,found]

theorem Binds.not_contains (binds : table.Binds key none) : table.contains key = false := by
  apply contains_eq_false.mpr
  intro entry member same
  cases binds.only entry member same

theorem binds_insert (table : Table β) (key : Value) (bound : β) :
    (table.insert key bound).Binds key (some bound) := by
  refine ⟨?_,fun _ => contains_insert_self table key bound⟩
  intro entry member same
  rcases mem_insert member with ⟨_,given⟩ | ⟨_,differs⟩
  · rw [given]
  · exact (differs same).elim

theorem Binds.insert {kept : Option β} (binds : table.Binds key kept)
    (differs : ¬ other.sameKey key = true) (bound : β) :
    (table.insert other bound).Binds key kept := by
  refine ⟨?_,fun some => contains_insert_of_contains (binds.present some) other bound⟩
  intro entry member same
  rcases mem_insert member with ⟨alike,_⟩ | ⟨inside,_⟩
  · rw [Value.sameKey_iff] at alike same differs
    exact (differs (alike.symm.trans same)).elim
  · exact binds.only entry inside same

theorem binds_erase (table : Table β) (key : Value) : (table.erase key).Binds key none := by
  refine ⟨?_,by simp⟩
  intro entry member same
  have kept := (List.mem_filter.mp member).2
  simp [same] at kept

theorem Binds.erase {kept : Option β} (binds : table.Binds key kept)
    (differs : ¬ other.sameKey key = true) : (table.erase other).Binds key kept := by
  constructor
  · intro entry member same
    exact binds.only entry (List.mem_filter.mp member).1 same
  · intro some
    obtain ⟨entry,member,same⟩ := contains_eq_true.mp (binds.present some)
    have stays : ¬ entry.1.sameKey other = true := by
      rw [Value.sameKey_iff] at same differs ⊢
      exact fun alike => differs (alike.symm.trans same)
    apply contains_eq_true.mpr
    exact ⟨entry,List.mem_filter.mpr ⟨member,by simpa using stays⟩,same⟩

def keys (table : Table β) : List Value := table.map (·.1)

theorem keys_insert_of_contains (present : table.contains key = true) (bound : β) :
    (table.insert key bound).keys = table.keys := by
  rw [insert_of_contains present,rebind,keys,keys,List.map_map]
  apply List.map_congr_left
  intro entry _
  simp only [Function.comp_apply]
  split <;> rfl

theorem keys_insert_of_not_contains (absent : table.contains key = false) (bound : β) :
    (table.insert key bound).keys = table.keys ++ [key] := by
  rw [insert_of_not_contains absent]
  simp [keys]

theorem overlay_append (table : Table β) (first second : List (Value × β)) :
    table.overlay (first ++ second) = (table.overlay first).overlay second := List.foldl_append

theorem overlay_cons (table : Table β) (pair : Value × β) (pairs : List (Value × β)) :
    table.overlay (pair :: pairs) = (table.insert pair.1 pair.2).overlay pairs := rfl

/-- Whatever is bound after laying pairs over a table was bound in the table or by a pair. -/
theorem mem_overlay {table pairs : Table β} {entry : Value × β}
    (member : entry ∈ table.overlay pairs) :
    entry.2 ∈ table.map (·.2) ∨ entry.2 ∈ pairs.map (·.2) := by
  induction pairs generalizing table with
  | nil => exact .inl (List.mem_map_of_mem member)
  | cons pair rest ih =>
    rw [overlay_cons] at member
    rcases ih member with written | later
    · obtain ⟨before,inside,same⟩ := List.mem_map.mp written
      rcases mem_insert inside with ⟨_,given⟩ | ⟨kept,_⟩
      · exact .inr (by simp [← same,given])
      · exact .inl (List.mem_map.mpr ⟨before,kept,same⟩)
    · exact .inr (List.mem_cons_of_mem _ later)

theorem contains_overlay (table : Table β) {pairs : Table β} (present : pairs.contains key = true) :
    (table.overlay pairs).contains key = true := by
  -- Once a key is there no later pair takes it away.
  have stays (pairs : Table β) : ∀ table : Table β, table.contains key = true →
      (table.overlay pairs).contains key = true := by
    induction pairs with
    | nil => exact fun table held => held
    | cons pair rest ih => exact fun table held => ih _ (contains_insert_of_contains held _ _)
  induction pairs generalizing table with
  | nil => cases present
  | cons pair rest ih =>
    by_cases same : pair.1.sameKey key = true
    · apply stays rest
      have written := contains_insert_self table pair.1 pair.2
      obtain ⟨entry,member,alike⟩ := contains_eq_true.mp written
      rw [Value.sameKey_iff] at alike same
      exact contains_eq_true.mpr ⟨entry,member,Value.sameKey_iff.mpr (alike.trans same)⟩
    · apply ih
      simpa [contains,same] using present

/-- Of two values for one key the later one stays. -/
theorem rebind_insert_same (table : Table β) (same : key.sameKey other = true) (given bound : β) :
    (table.rebind other given).insert key bound = table.insert key bound := by
  rw [Value.sameKey_iff] at same
  rcases present : table.contains key with _ | _
  · have untouched : table.rebind other given = table := by
      have absent := contains_eq_false.mp present
      simp only [Value.sameKey_iff,same] at absent
      simp only [rebind,Value.sameKey_iff]
      calc
        table.map _ = table.map id :=
          List.map_congr_left fun entry member => if_neg (absent entry member)
        _ = table := List.map_id table
    rw [untouched]
  · rw [insert_of_contains present,insert_of_contains (by rwa [contains_rebind])]
    simp only [rebind,List.map_map]
    apply List.map_congr_left
    intro entry _
    by_cases met : entry.1.keyForm = other.keyForm <;> simp [Value.sameKey_iff,same,met]

theorem rebind_insert (table : Table β) (key other : Value) (bound given : β) :
    (table.insert key given).rebind other bound =
      (table.rebind other bound).insert key (if key.sameKey other then bound else given) := by
  rcases present : table.contains key with _ | _
  · rw [insert_of_not_contains present,insert_of_not_contains (by rwa [contains_rebind])]
    by_cases same : key.sameKey other = true <;> simp [rebind,same]
  · rw [insert_of_contains present,insert_of_contains (by rwa [contains_rebind])]
    simp only [rebind,List.map_map]
    apply List.map_congr_left
    intro entry _
    by_cases met : entry.1.keyForm = key.keyForm
    · by_cases same : key.keyForm = other.keyForm <;> simp [Value.sameKey_iff,same,met]
    · by_cases hit : entry.1.keyForm = other.keyForm
      · have differs : ¬ other.keyForm = key.keyForm := by rwa [← hit]
        simp [Value.sameKey_iff,hit,differs]
      · simp [Value.sameKey_iff,met,hit]

theorem rebind_overlay (table pairs : Table β) (key : Value) (bound : β) :
    (table.overlay pairs).rebind key bound =
      (table.rebind key bound).overlay (pairs.rebind key bound) := by
  induction pairs generalizing table with
  | nil => rfl
  | cons pair rest ih =>
    rw [overlay_cons,ih,rebind_insert]
    by_cases same : pair.1.sameKey key = true <;> simp [rebind,same,overlay_cons]

/-- What a key was bound to before does not matter where it is written. -/
theorem overlay_of_contains (table : Table β) {pairs : Table β} (present : pairs.contains key = true)
    (bound : β) : (table.rebind key bound).overlay pairs = table.overlay pairs := by
  induction pairs generalizing table with
  | nil => cases present
  | cons pair rest ih =>
    rw [overlay_cons,overlay_cons]
    by_cases same : pair.1.sameKey key = true
    · rw [rebind_insert_same table same]
    · have kept := rebind_insert table pair.1 key bound pair.2
      rw [if_neg same] at kept
      rw [← kept]
      apply ih
      simpa [contains,same] using present

theorem overlay_insert (table pairs : Table β) (key : Value) (bound : β) :
    table.overlay (pairs.insert key bound) = (table.overlay pairs).insert key bound := by
  rcases present : pairs.contains key with _ | _
  · rw [insert_of_not_contains present,overlay_append]
    rfl
  · rw [insert_of_contains present,insert_of_contains (contains_overlay table present),
      rebind_overlay]
    apply (overlay_of_contains table _ bound).symm
    rwa [contains_rebind]

/-- Laying tables over one another is associative. -/
theorem overlay_overlay (table first second : Table β) :
    (table.overlay first).overlay second = table.overlay (first.overlay second) := by
  induction second generalizing first with
  | nil => rfl
  | cons pair rest ih => rw [overlay_cons,overlay_cons,← ih,overlay_insert]

end Table

namespace Record

variable {entries : Entries} {outputs : List (String × Value)} {output : String × Value}

/-- What a field with the output is bound to; the missing value is bound to nothing. -/
def bound? (output : Value) : Option Value := if output = .missing then none else some output

@[simp] theorem getD_bound (output : Value) : (bound? output).getD .missing = output := by
  by_cases missing : output = .missing <;> simp [bound?,missing]

theorem binds_write (entries : Entries) (field : String × Value) :
    (write entries field).Binds (.str field.1) (bound? field.2) := by
  by_cases missing : field.2 = .missing
  · simpa [write,bound?,missing] using Table.binds_erase entries (.str field.1)
  · simpa [write,bound?,missing] using Table.binds_insert entries (.str field.1) field.2

theorem binds_write_of_ne {name : String} {bound : Option Value}
    (binds : entries.Binds (.str name) bound) {field : String × Value} (differs : field.1 ≠ name) :
    (write entries field).Binds (.str name) bound := by
  have apart : ¬ (Value.str field.1).sameKey (.str name) = true := by
    rwa [Value.sameKey_str]
  unfold write
  split
  · exact binds.erase apart
  · exact binds.insert apart field.2

theorem overlaid_cons (entries : Entries) (first : String × Value)
    (rest : List (String × Value)) :
    overlaid entries (first :: rest) = overlaid (write entries first) rest := rfl

theorem binds_overlaid_of_not_mem {name : String} {bound : Option Value}
    (binds : entries.Binds (.str name) bound) (absent : name ∉ outputs.map (·.1)) :
    (overlaid entries outputs).Binds (.str name) bound := by
  induction outputs generalizing entries with
  | nil => exact binds
  | cons first rest ih =>
    have apart : first.1 ≠ name ∧ name ∉ rest.map (·.1) := by
      simpa [eq_comm] using absent
    exact ih (binds_write_of_ne binds apart.1) apart.2

/-- Whatever an object's other entries are, a declared name is bound to its output. -/
theorem binds_overlaid (distinct : (outputs.map (·.1)).Nodup) (entries : Entries)
    (member : output ∈ outputs) :
    (overlaid entries outputs).Binds (.str output.1) (bound? output.2) := by
  induction outputs generalizing entries with
  | nil => cases member
  | cons first rest ih =>
    obtain ⟨absent,distinct⟩ := List.nodup_cons.mp distinct
    rcases List.mem_cons.mp member with rfl | later
    · rw [overlaid_cons]
      exact binds_overlaid_of_not_mem (binds_write entries output) absent
    · exact ih distinct (write entries first) later

theorem mem_declared {entry : Value × Value} (member : entry ∈ declared outputs) :
    ∃ output ∈ outputs, output.2 ≠ .missing ∧ entry = (.str output.1,output.2) := by
  obtain ⟨output,kept,rfl⟩ := List.mem_map.mp member
  obtain ⟨inside,present⟩ := List.mem_filter.mp kept
  exact ⟨output,inside,by simpa using present,rfl⟩

theorem binds_declared (distinct : (outputs.map (·.1)).Nodup) (member : output ∈ outputs) :
    (declared outputs).Binds (.str output.1) (bound? output.2) := by
  constructor
  · intro entry inside same
    obtain ⟨other,another,present,rfl⟩ := mem_declared inside
    have names : other.1 = output.1 := Value.sameKey_str.mp same
    obtain rfl := List.inj_on_of_nodup_map distinct another member names
    simp [bound?,present]
  · intro some
    have present : output.2 ≠ .missing := by
      rintro missing
      simp [bound?,missing] at some
    apply Table.contains_eq_true.mpr
    refine ⟨(.str output.1,output.2),?_,Value.sameKey_str.mpr rfl⟩
    exact List.mem_map.mpr ⟨output,List.mem_filter.mpr ⟨member,by simpa using present⟩,rfl⟩

end Record
end Schemata
