import Mathlib.Logic.Relation
import Schemata.Proofs.Amounts
import Schemata.Proofs.Tables
import Schemata.Proofs.Yielding

/-!
How exactly a literal matches. Loose equality holds at every pair of corresponding positions of two
values that it holds for, and there a truth value is as good as the number it counts as. A literal
guards against that for the value as a whole; inside containers a truth value is matched with itself
alone only where no number counts as much.
-/
namespace Schemata

def Table.entry? {β : Type} (table : Table β) (key : Value) : Option (Value × β) :=
  List.find? (fun entry => entry.1.sameKey key) table

namespace Value

/-- Scalars, and the lists, tuples and dictionaries of what is built so. -/
inductive Builtin : Value → Prop
  | null : Builtin .null
  | missing : Builtin .missing
  | bool (b : Bool) : Builtin (.bool b)
  | int (i : Int) : Builtin (.int i)
  | float (x : Binary64) : Builtin (.float x)
  | str (s : String) : Builtin (.str s)
  | bytes (content : List UInt8) : Builtin (.bytes content)
  | list {identity : Identity} {items : List Value} (inside : ∀ item ∈ items, Builtin item) :
      Builtin (.list identity items)
  | tuple {identity : Identity} {items : List Value} (inside : ∀ item ∈ items, Builtin item) :
      Builtin (.tuple identity items)
  | dict {identity : Identity} {entries : Entries} (keys : ∀ entry ∈ entries, Builtin entry.1)
      (bound : ∀ entry ∈ entries, Builtin entry.2) : Builtin (.dict identity entries)

/-- What stands right inside a container: items, keys and what the keys are bound to. -/
def parts : Value → List Value
  | list _ items | tuple _ items => items
  | dict _ entries => entries.flatMap fun entry => [entry.1,entry.2]
  | _ => []

/-- What stands inside a value, at any depth. -/
def Holds : Value → Value → Prop := Relation.TransGen fun whole part => part ∈ whole.parts

/-- Two parts in the same place of two containers: at one index, or found by one key. -/
inductive Paired : Value → Value → Value → Value → Prop
  | listItem {i j : Identity} {items others : List Value} {x y : Value}
      (member : (x,y) ∈ items.zip others) : Paired (.list i items) (.list j others) x y
  | tupleItem {i j : Identity} {items others : List Value} {x y : Value}
      (member : (x,y) ∈ items.zip others) : Paired (.tuple i items) (.tuple j others) x y
  | key {i j : Identity} {entries others : Entries} {probe : Value} {first second : Value × Value}
      (found : Table.entry? entries probe = some first)
      (other : Table.entry? others probe = some second) :
      Paired (.dict i entries) (.dict j others) first.1 second.1
  | bound {i j : Identity} {entries others : Entries} {probe : Value} {first second : Value × Value}
      (found : Table.entry? entries probe = some first)
      (other : Table.entry? others probe = some second) :
      Paired (.dict i entries) (.dict j others) first.2 second.2

/-- `x` in `a` and `y` in `b` are at corresponding positions. -/
inductive Meets : Value → Value → Value → Value → Prop
  | here {a b : Value} : Meets a b a b
  | inside {a b c d x y : Value} (paired : Paired a b c d) (meets : Meets c d x y) : Meets a b x y

/-- Loosely equal, or the same as keys. -/
def Agrees (a b : Value) : Prop := a.keyForm = b.keyForm ∨ (a.equals b >>= truth) = .ok true

theorem keyForm_of_zip {items others : List Value} (same : keyForms items = keyForms others)
    {x y : Value} (member : (x,y) ∈ items.zip others) : x.keyForm = y.keyForm := by
  induction items generalizing others with
  | nil => simp at member
  | cons item rest ih =>
    cases others with
    | nil => simp at member
    | cons other more =>
      simp only [keyForms,List.cons.injEq] at same
      rcases List.mem_cons.mp member with head | later
      · cases head
        exact same.1
      · exact ih same.2 later

theorem agrees_of_asked {a b : Value}
    (asked : (do if a == b then return true else (← a.compare false b).truth) = .ok true) :
    a.Agrees b := by
  by_cases same : a = b
  · exact .inl (congrArg keyForm same)
  · rw [if_neg (by simpa using same)] at asked
    exact .inr asked

theorem both_of_asked {first rest : Except Fault Bool}
    (asked : (do if ← first then rest else return false) = .ok true) :
    first = .ok true ∧ rest = .ok true := by
  rcases first with fault | verdict
  · cases asked
  · cases verdict with
    | false => cases asked
    | true => exact ⟨rfl,asked⟩

theorem agrees_of_zip {items others : List Value}
    (agree : allAgree (agreements false items) others = .ok true) {x y : Value}
    (member : (x,y) ∈ items.zip others) : x.Agrees y := by
  induction items generalizing others with
  | nil => simp at member
  | cons item rest ih =>
    cases others with
    | nil => simp at member
    | cons other more =>
      rw [agreements,allAgree] at agree
      obtain ⟨head,tail⟩ := both_of_asked agree
      rcases List.mem_cons.mp member with here | later
      · cases here
        exact agrees_of_asked head
      · exact ih tail later

theorem agrees_of_entry {entries others : Entries}
    (agree : leftAgrees (entryTests entries) others = .ok true) {entry : Value × Value}
    (member : entry ∈ entries) :
    ∃ value, others.find? entry.1 = some value ∧ entry.2.Agrees value := by
  induction entries with
  | nil => cases member
  | cons first rest ih =>
    rw [entryTests,leftAgrees] at agree
    rcases found : others.find? first.1 with _ | value
    · rw [found] at agree
      cases agree
    · rw [found] at agree
      obtain ⟨head,tail⟩ := both_of_asked agree
      rcases List.mem_cons.mp member with rfl | later
      · exact ⟨value,found,agrees_of_asked head⟩
      · exact ih tail later

theorem allAgree_of_list {i j : Identity} {items others : List Value}
    (equal : ((list i items).equals (list j others) >>= truth) = .ok true) :
    allAgree (agreements false items) others = .ok true := by
  rw [equals,compare] at equal
  split at equal
  · cases equal
  · rcases verdict : allAgree (agreements false items) others with fault | agree
    · rw [verdict] at equal
      cases equal
    · rw [verdict] at equal
      exact equal

theorem allAgree_of_tuple {i j : Identity} {items others : List Value}
    (equal : ((tuple i items).equals (tuple j others) >>= truth) = .ok true) :
    allAgree (agreements false items) others = .ok true := by
  rw [equals,compare] at equal
  rcases verdict : allAgree (agreements false items) others with fault | agree
  · rw [verdict] at equal
    cases equal
  · rw [verdict] at equal
    have both : (agree && items.length == others.length) = true := Except.ok.inj equal
    rw [(Bool.and_eq_true_iff.mp both).1]

theorem leftAgrees_of_dict {i j : Identity} {entries others : Entries}
    (equal : ((dict i entries).equals (dict j others) >>= truth) = .ok true) :
    leftAgrees (entryTests entries) others = .ok true := by
  rw [equals,compare,tables] at equal
  split at equal
  · cases equal
  · rcases verdict : leftAgrees (entryTests entries) others with fault | agree
    · rw [verdict] at equal
      cases equal
    · rw [verdict] at equal
      exact equal

/-- What agrees as a whole agrees in every place. -/
theorem Paired.agrees {a b x y : Value} (paired : Paired a b x y) (agrees : a.Agrees b) :
    x.Agrees y := by
  cases paired with
  | @listItem i j items others _ _ member =>
    rcases agrees with same | equal
    · cases same
      exact .inl (keyForm_of_zip rfl member)
    · exact agrees_of_zip (allAgree_of_list equal) member
  | tupleItem member =>
    rcases agrees with same | equal
    · simp only [keyForm,tuple.injEq,true_and] at same
      exact .inl (keyForm_of_zip same member)
    · exact agrees_of_zip (allAgree_of_tuple equal) member
  | @key i j entries others probe first second found other =>
    have left : first.1.sameKey probe = true := by simpa using List.find?_some found
    have right : second.1.sameKey probe = true := by simpa using List.find?_some other
    exact .inl ((sameKey_iff.mp left).trans (sameKey_iff.mp right).symm)
  | @bound i j entries others probe first second found other =>
    rcases agrees with same | equal
    · cases same
      obtain rfl : first = second := Option.some.inj (found.symm.trans other)
      exact .inl rfl
    · obtain ⟨value,bound,agree⟩ :=
        agrees_of_entry (leftAgrees_of_dict equal) (List.mem_of_find?_eq_some found)
      have left : first.1.sameKey probe = true := by simpa using List.find?_some found
      -- The probe and the key that it finds look up the same entry of the other dictionary.
      have again : Table.find? others first.1 = some second.2 := by
        rw [Table.entry?] at other
        simp only [sameKey] at other left
        simp only [Table.find?,sameKey,beq_iff_eq.mp left,other,Option.map_some]
      obtain rfl : value = second.2 := by simpa [again] using bound.symm
      exact agree

theorem Meets.agrees {a b x y : Value} (meets : Meets a b x y) (agrees : a.Agrees b) :
    x.Agrees y := by
  -- On the way from the two values down to the position, one pair of containers after the other.
  induction meets with
  | here => exact agrees
  | inside paired _ ih => exact ih (paired.agrees agrees)

def Counts (value : Value) (amount : Amount) : Prop :=
  ∃ n, value.quantity? = some n ∧ n.amount? = some amount

theorem bool_counts (b : Bool) : (bool b).Counts (.ofTruth b) := by
  cases b <;> exact ⟨_,rfl,rfl⟩

theorem counts_of_keyForm {value : Value} {i : Int} (same : value.keyForm = .int i) :
    value.Counts (.ofRational i) := by
  cases value with
  | bool b =>
    cases same
    exact ⟨_,rfl,rfl⟩
  | int j =>
    cases same
    exact ⟨_,rfl,rfl⟩
  | float x =>
    simp only [keyForm] at same
    split at same
    · rename_i j whole
      cases same
      exact ⟨_,rfl,Binary64.toInt?_eq_some_iff.mp whole⟩
    · cases same
  | _ => cases same

theorem keyForm_bool (b : Bool) :
    ∃ i : Int, (bool b).keyForm = .int i ∧ Amount.ofRational i = .ofTruth b := by
  cases b
  · exact ⟨0,rfl,by simp [Amount.ofTruth]⟩
  · exact ⟨1,rfl,by simp [Amount.ofTruth]⟩

def sameQuantity (a b : Value) : Bool :=
  match a.quantity?,b.quantity? with
  | some m,some n => m.order n == some .eq
  | _,_ => false

theorem equals_bool_left (b : Bool) {value : Value} (builtin : value.Builtin) :
    (bool b).equals value = .ok (.bool ((bool b).sameQuantity value)) := by
  cases builtin <;> rfl

theorem equals_bool_right (b : Bool) {value : Value} (builtin : value.Builtin) :
    value.equals (bool b) = .ok (.bool (value.sameQuantity (bool b))) := by
  cases builtin <;> rfl

theorem sameQuantity_iff {a b : Value} :
    a.sameQuantity b = true ↔ ∃ amount, a.Counts amount ∧ b.Counts amount := by
  unfold sameQuantity
  constructor
  · intro same
    split at same
    · rename_i m n first second
      obtain ⟨amount,left,right⟩ := Number.order_eq_iff.mp (beq_iff_eq.mp same)
      exact ⟨amount,⟨m,first,left⟩,⟨n,second,right⟩⟩
    · cases same
  · rintro ⟨amount,⟨m,first,left⟩,⟨n,second,right⟩⟩
    rw [first,second]
    exact beq_iff_eq.mpr (Number.order_eq_iff.mpr ⟨amount,left,right⟩)

theorem Counts.unique {value : Value} {amount other : Amount} (counts : value.Counts amount)
    (again : value.Counts other) : amount = other := by
  obtain ⟨m,quantity,amounts⟩ := counts
  obtain ⟨n,same,others⟩ := again
  obtain rfl : m = n := Option.some.inj (quantity.symm.trans same)
  exact Option.some.inj (amounts.symm.trans others)

/-- A truth value agrees only with what counts as much as it does. -/
theorem Agrees.counts_right {b : Bool} {value : Value} (agrees : (bool b).Agrees value)
    (builtin : value.Builtin) : value.Counts (.ofTruth b) := by
  rcases agrees with same | equal
  · obtain ⟨i,form,amount⟩ := keyForm_bool b
    rw [← amount]
    exact counts_of_keyForm (same.symm.trans form)
  · rw [equals_bool_left b builtin] at equal
    obtain ⟨amount,counts,others⟩ := sameQuantity_iff.mp (Except.ok.inj equal)
    rwa [counts.unique (bool_counts b)] at others

theorem Agrees.counts_left {b : Bool} {value : Value} (agrees : value.Agrees (bool b))
    (builtin : value.Builtin) : value.Counts (.ofTruth b) := by
  rcases agrees with same | equal
  · obtain ⟨i,form,amount⟩ := keyForm_bool b
    rw [← amount]
    exact counts_of_keyForm (same.trans form)
  · rw [equals_bool_right b builtin] at equal
    obtain ⟨amount,counts,others⟩ := sameQuantity_iff.mp (Except.ok.inj equal)
    rwa [others.unique (bool_counts b)] at counts

theorem Builtin.part {value part : Value} (builtin : value.Builtin) (member : part ∈ value.parts) :
    part.Builtin := by
  cases builtin with
  | list inside | tuple inside => exact inside part member
  | dict keys bound =>
    obtain ⟨entry,present,within⟩ := List.mem_flatMap.mp member
    rcases List.mem_cons.mp within with rfl | last
    · exact keys entry present
    · obtain rfl := List.mem_singleton.mp last
      exact bound entry present
  | _ => cases member

theorem mem_parts_of_entry {identity : Identity} {entries : Entries} {probe : Value}
    {entry : Value × Value} (found : Table.entry? entries probe = some entry) :
    entry.1 ∈ (dict identity entries).parts ∧ entry.2 ∈ (dict identity entries).parts := by
  have member := List.mem_of_find?_eq_some found
  exact ⟨List.mem_flatMap.mpr ⟨entry,member,by simp⟩,List.mem_flatMap.mpr ⟨entry,member,by simp⟩⟩

theorem Paired.parts {a b x y : Value} (paired : Paired a b x y) : x ∈ a.parts ∧ y ∈ b.parts := by
  cases paired with
  | listItem member | tupleItem member => exact List.of_mem_zip member
  | key found other => exact ⟨(mem_parts_of_entry found).1,(mem_parts_of_entry other).1⟩
  | bound found other => exact ⟨(mem_parts_of_entry found).2,(mem_parts_of_entry other).2⟩

theorem Meets.builtin {a b x y : Value} (meets : Meets a b x y) (first : a.Builtin)
    (second : b.Builtin) : x.Builtin ∧ y.Builtin := by
  induction meets with
  | here => exact ⟨first,second⟩
  | inside paired _ ih => exact ih (first.part paired.parts.1) (second.part paired.parts.2)

/-- Corresponding positions are the two values themselves or inside both of them. -/
theorem Meets.holds {a b x y : Value} (meets : Meets a b x y) :
    x = a ∧ y = b ∨ a.Holds x ∧ b.Holds y := by
  induction meets with
  | here => exact .inl ⟨rfl,rfl⟩
  | inside paired _ ih =>
    obtain ⟨left,right⟩ := paired.parts
    rcases ih with ⟨rfl,rfl⟩ | ⟨deeper,other⟩
    · exact .inr ⟨.single left,.single right⟩
    · exact .inr ⟨.head left deeper,.head right other⟩

/-- Nothing inside one of the values counts as much as a truth value inside the other, other than
that truth value. -/
def Apart (a b : Value) : Prop :=
  ∀ t part, a.Holds (.bool t) ∧ b.Holds part ∨ b.Holds (.bool t) ∧ a.Holds part →
    part.Counts (.ofTruth t) → part = .bool t

/-- What holds nothing but members, and members that hold nothing but members, holds no others. -/
theorem Holds.mem {whole part : Value} (holds : whole.Holds part) {members : List Value}
    (direct : whole.parts ⊆ members) (closed : ∀ member ∈ members, member.parts ⊆ members) :
    part ∈ members := by
  induction holds with
  | single inside => exact direct inside
  | tail _ inside ih => exact closed _ ih inside

/-- A truth value matches nothing but itself, and anything else what it is loosely equal to. -/
theorem matchesLiteral_iff {value allowed : Value} :
    value.matchesLiteral allowed = true ↔ (value.equals allowed >>= truth) = .ok true ∧
      ∀ b, value = .bool b ∨ allowed = .bool b → value = allowed := by
  unfold matchesLiteral
  split
  · rename_i a b
    rw [beq_iff_eq]
    constructor
    · rintro rfl
      exact ⟨by cases a <;> rfl,fun _ _ => rfl⟩
    · rintro ⟨_,guarded⟩
      exact bool.inj (guarded a (.inl rfl))
  · rename_i a other
    refine ⟨fun impossible => (Bool.false_ne_true impossible).elim,?_⟩
    rintro ⟨_,guarded⟩
    exact (other a (guarded a (.inl rfl)).symm).elim
  · rename_i b other
    refine ⟨fun impossible => (Bool.false_ne_true impossible).elim,?_⟩
    rintro ⟨_,guarded⟩
    exact (other b (guarded b (.inr rfl))).elim
  · rename_i first second _
    have vacuous : ∀ b, value = .bool b ∨ allowed = .bool b → value = allowed := by
      rintro b (rfl | rfl)
      · exact (first b rfl).elim
      · exact (second b rfl).elim
    rcases value.equals allowed >>= truth with fault | verdict
    · simp
    · simpa using fun _ => vacuous

end Value

theorem Choice.literal_matched {σ : Type} {config : Config σ} {values : List Value}
    {value output : Value} (given : (literal config values value).outcome = .ok (.ok output)) :
    ∃ allowed ∈ values, value.matchesLiteral allowed = true := by
  unfold literal at given
  split at given
  · rename_i matched
    exact List.any_eq_true.mp matched
  · exact (Config.refusal_rejects _ _ value given).elim

namespace Schema

open Value

/-- What a literal accepts is loosely equal to one of its values, and is the same truth value where
one of the two is a truth value. Inside of them a truth value is only matched with what counts as
much, and with itself alone where the two are apart. -/
theorem safe_parse_matches (config : Config Stage) (values : List Value)
    (listed : ∀ allowed ∈ values, allowed.Builtin) (value output : Value) (given : output.Builtin)
    (accepted : ((Schema.node ⟨config,.literal values⟩).safeParse value).outcome =
      .ok (.ok output)) :
    (config.refines = [] → output = value) ∧
      ∃ allowed ∈ values, (output.equals allowed >>= truth) = .ok true ∧
        (∀ b, output = .bool b ∨ allowed = .bool b → output = allowed) ∧
        (∀ x y, Meets output allowed x y → ∀ b, x = .bool b ∨ y = .bool b →
          x.Counts (.ofTruth b) ∧ y.Counts (.ofTruth b)) ∧
        (output.Apart allowed → ∀ x y, Meets output allowed x y → ∀ b, x = .bool b ∨ y = .bool b →
          x = y) := by
  rcases read_outcome_output.mp accepted with ⟨_,impossible⟩ | ⟨current,entered,answered,_⟩
  · cases impossible
  have looked : (Choice.literal config values current).outcome = .ok (.ok output) := answered
  obtain rfl := Choice.literal_output looked
  refine ⟨entered.unrefined,?_⟩
  obtain ⟨allowed,member,matched⟩ := Choice.literal_matched looked
  obtain ⟨equal,guarded⟩ := matchesLiteral_iff.mp matched
  have counted : ∀ x y, Meets output allowed x y → ∀ b, x = .bool b ∨ y = .bool b →
      x.Counts (.ofTruth b) ∧ y.Counts (.ofTruth b) := by
    intro x y meets b truth
    have agrees := meets.agrees (.inr equal)
    obtain ⟨left,right⟩ := meets.builtin given (listed allowed member)
    rcases truth with rfl | rfl
    · exact ⟨bool_counts b,agrees.counts_right right⟩
    · exact ⟨agrees.counts_left left,bool_counts b⟩
  refine ⟨allowed,member,equal,guarded,counted,?_⟩
  intro apart x y meets b truth
  obtain ⟨left,right⟩ := counted x y meets b truth
  rcases meets.holds with ⟨rfl,rfl⟩ | ⟨inside,other⟩
  · exact guarded b truth
  · rcases truth with rfl | rfl
    · exact (apart b y (.inl ⟨inside,other⟩) right).symm
    · exact apart b x (.inr ⟨other,inside⟩) left

/-- A truth value beside a double that counts as much as the integer in its place. -/
theorem safe_parse_matches_nested :
    let two : Value := .float (.finite false (2 ^ 52) (-51))
    let allowed : Value := .list (.given 0) [.bool true,.dict (.given 1) [(.str "a",.int 2)]]
    let value : Value := .list (.given 2) [.bool true,.dict (.given 3) [(.str "a",two)]]
    let schema : Schema := .node ⟨.empty,.literal [allowed]⟩
    (∀ listed ∈ [allowed], listed.Builtin) ∧ value.Builtin ∧
      (schema.safeParse value).outcome = .ok (.ok value) ∧
      ∀ x y, Meets value allowed x y → ∀ b, x = .bool b ∨ y = .bool b → x = y := by
  intro two allowed value schema
  have listed : ∀ listed ∈ [allowed], listed.Builtin := by
    intro _ member
    obtain rfl := List.mem_singleton.mp member
    refine .list ?_
    simp only [List.mem_cons,List.not_mem_nil,or_false,forall_eq_or_imp,forall_eq]
    refine ⟨.bool true,.dict ?_ ?_⟩
    · simpa using .str "a"
    · simpa using .int 2
  have given : value.Builtin := by
    refine .list ?_
    simp only [List.mem_cons,List.not_mem_nil,or_false,forall_eq_or_imp,forall_eq]
    refine ⟨.bool true,.dict ?_ ?_⟩
    · simpa using .str "a"
    · simpa using .float _
  have accepted : (schema.safeParse value).outcome = .ok (.ok value) := rfl
  obtain ⟨_,found,member,_,_,_,exact⟩ :=
    safe_parse_matches .empty [allowed] listed value value given accepted
  obtain rfl := List.mem_singleton.mp member
  refine ⟨listed,given,accepted,exact ?_⟩
  let members : List Value := [.bool true,.dict (.given 1) [(.str "a",.int 2)],
    .dict (.given 3) [(.str "a",two)],.str "a",.int 2,two]
  have first {part : Value} (holds : value.Holds part) : part ∈ members :=
    holds.mem (by simp [value,members,parts]) (by simp [members,two,parts])
  have second {part : Value} (holds : allowed.Holds part) : part ∈ members :=
    holds.mem (by simp [allowed,members,parts]) (by simp [members,two,parts])
  -- Of all that is inside the two only the truth value counts as much as it does.
  have sole (t : Bool) (part : Value) (truth : .bool t ∈ members) (other : part ∈ members)
      (counts : part.Counts (.ofTruth t)) : part = .bool t := by
    obtain rfl : t = true := by simpa [members,two] using truth
    have same : (bool true).sameQuantity part = true :=
      sameQuantity_iff.mpr ⟨_,bool_counts true,counts⟩
    simp only [members,List.mem_cons,List.not_mem_nil,or_false] at other
    rcases other with rfl | rfl | rfl | rfl | rfl | rfl
    · rfl
    all_goals cases same
  rintro t part (⟨truth,other⟩ | ⟨truth,other⟩)
  · exact sole t part (first truth) (second other)
  · exact sole t part (second truth) (first other)

/-- Exactness is not for every depth: an integer in a list matches the truth value that counts as
much. -/
theorem safe_parse_matches_not_nested :
    ¬ ∀ (values : List Value) (value : Value), (∀ allowed ∈ values, allowed.Builtin) →
      value.Builtin →
      ((Schema.node ⟨.empty,.literal values⟩).safeParse value).outcome = .ok (.ok value) →
        ∃ allowed ∈ values, ∀ x y, Meets value allowed x y → ∀ b, x = .bool b ∨ y = .bool b →
          x = y := by
  intro exact
  obtain ⟨_,member,matched⟩ := exact [.list (.given 0) [.bool true]] (.list (.given 1) [.int 1])
    (by simpa using .list (by simpa using .bool true)) (.list (by simpa using .int 1)) rfl
  obtain rfl := List.mem_singleton.mp member
  have impossible := matched (.int 1) (.bool true) (.inside (.listItem (by simp)) .here) true
    (.inr rfl)
  cases impossible

end Schema
end Schemata
