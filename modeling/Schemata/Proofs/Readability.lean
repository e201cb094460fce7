import Mathlib.Data.List.Infix
import Schemata.Json

/-!
The text of a document can be read in one way only. Its first character tells what it is, and
where it ends does not hang on what follows: the codes of escaped characters are no beginnings of
one another, a quotation mark ends a text, brackets end the containers, and digits go on until
something else comes. So documents with the same text are the same.
-/
namespace Schemata.Json

@[elab_as_elim]
theorem induction {motive : Json → Prop} (null : motive .null) (bool : ∀ b, motive (.bool b))
    (int : ∀ i, motive (.int i)) (text : ∀ s, motive (.text s))
    (array : ∀ items, (∀ item ∈ items, motive item) → motive (.array items))
    (object : ∀ members, (∀ member ∈ members, motive member.2) → motive (.object members))
    (json : Json) : motive json := by
  refine Json.rec (motive_1 := motive) (motive_2 := fun items => ∀ item ∈ items, motive item)
    (motive_3 := fun members => ∀ member ∈ members, motive member.2)
    (motive_4 := fun member => motive member.2) null bool int text array object ?noItems
    ?moreItems ?noMembers ?moreMembers (fun _ _ below => below) json
  case noItems | noMembers => simp
  case moreItems | moreMembers =>
    intro first rest head tail entry member
    rcases List.mem_cons.mp member with rfl | later
    · exact head
    · exact tail entry later

/-- The text does not go on with a digit. -/
def Ended (text : List Char) : Prop := ∀ c ∈ text.head?, c.isDigit = false

/-- Whatever follows, no other item is written in the same way. -/
def Readable {α : Type} (write : α → List Char) (item : α) : Prop :=
  ∀ other rest more, Ended rest → Ended more → write item ++ rest = write other ++ more →
    item = other ∧ rest = more

variable {rest more : List Char}

/-- The characters that do not stand for themselves. -/
def special : List Char := '"' :: '\\' :: (List.range 0x20).map Char.ofNat

theorem escaped_of_not_special {c : Char} (plain : c ∉ special) : escaped c = [c] := by
  have control : ¬ c.toNat < 0x20 := by
    intro small
    have written : Char.ofNat c.toNat ∈ special :=
      List.mem_cons_of_mem _ (List.mem_cons_of_mem _
        (List.mem_map_of_mem (List.mem_range.mpr small)))
    rw [Char.ofNat_toNat] at written
    exact plain written
  have differs {d : Char} (listed : d ∈ special) : c ≠ d := by
    rintro rfl
    exact plain listed
  rw [escaped,if_neg (differs (by decide)),if_neg (differs (by decide)),
    if_neg (differs (by decide)),if_neg (differs (by decide)),if_neg (differs (by decide)),
    if_neg (by omega),if_neg (by omega),if_neg control]

theorem escaped_head {c : Char} (listed : c ∈ special) : (escaped c).head? = some '\\' := by
  have every : special.all (fun c => (escaped c).head? == some '\\') = true := rfl
  exact beq_iff_eq.mp (List.all_eq_true.mp every c listed)

/-- The codes of the special characters are no beginnings of one another. -/
theorem eq_of_escaped_begins {c d : Char} (listed : c ∈ special) (too : d ∈ special)
    (begins : escaped c <+: escaped d) : c = d := by
  have every : special.all (fun c => special.all fun d =>
      !(escaped c).isPrefixOf (escaped d) || c == d) = true := by decide +kernel
  have pair := List.all_eq_true.mp (List.all_eq_true.mp every c listed) d too
  simpa [List.isPrefixOf_iff_prefix.mpr begins] using pair

theorem escaped_cons (c : Char) : ∃ first code, escaped c = first :: code ∧ first ≠ '"' ∧
    (c ∈ special ↔ first = '\\') := by
  by_cases listed : c ∈ special
  · obtain ⟨code,written⟩ := List.head?_eq_some_iff.mp (escaped_head listed)
    exact ⟨'\\',code,written,by decide,by simp [listed]⟩
  · refine ⟨c,[],escaped_of_not_special listed,?_,?_⟩
    · rintro rfl
      exact listed (by decide)
    · refine ⟨fun impossible => (listed impossible).elim,?_⟩
      rintro rfl
      decide

theorem escaped_append_inj {c d : Char} (same : escaped c ++ rest = escaped d ++ more) :
    c = d ∧ rest = more := by
  have equal : c = d := by
    obtain ⟨first,code,written,_,marked⟩ := escaped_cons c
    obtain ⟨other,codes,writes,_,marks⟩ := escaped_cons d
    have heads : first = other := by
      rw [written,writes] at same
      exact (List.cons.inj same).1
    by_cases listed : c ∈ special
    · have too : d ∈ special := marks.mpr (heads ▸ marked.mp listed)
      have before : escaped c <+: escaped d ++ more := same ▸ List.prefix_append _ _
      rcases List.prefix_or_prefix_of_prefix before (List.prefix_append _ _) with shorter | longer
      · exact eq_of_escaped_begins listed too shorter
      · exact (eq_of_escaped_begins too listed longer).symm
    · have plain : d ∉ special := by
        rw [marks,← heads,← marked]
        exact listed
      rw [escaped_of_not_special listed,escaped_of_not_special plain] at same
      exact (List.cons.inj same).1
  subst equal
  exact ⟨rfl,List.append_cancel_left same⟩

theorem escapes_append_inj {cs ds : List Char}
    (same : cs.flatMap escaped ++ '"' :: rest = ds.flatMap escaped ++ '"' :: more) :
    cs = ds ∧ rest = more := by
  induction cs generalizing ds with
  | nil =>
    cases ds with
    | nil => exact ⟨rfl,(List.cons.inj same).2⟩
    | cons d ds =>
      obtain ⟨first,code,written,differs,_⟩ := escaped_cons d
      rw [List.flatMap_cons,written] at same
      exact (differs (List.cons.inj same).1.symm).elim
  | cons c cs ih =>
    cases ds with
    | nil =>
      obtain ⟨first,code,written,differs,_⟩ := escaped_cons c
      rw [List.flatMap_cons,written] at same
      exact (differs (List.cons.inj same).1).elim
    | cons d ds =>
      rw [List.flatMap_cons,List.flatMap_cons,List.append_assoc,List.append_assoc] at same
      obtain ⟨rfl,tails⟩ := escaped_append_inj same
      obtain ⟨rfl,equal⟩ := ih tails
      exact ⟨rfl,equal⟩

theorem quoted_append_inj {s t : String} (same : quoted s ++ rest = quoted t ++ more) :
    s = t ∧ rest = more := by
  simp only [quoted,List.cons_append,List.append_assoc,List.nil_append,List.cons.injEq,
    true_and] at same
  obtain ⟨characters,equal⟩ := escapes_append_inj same
  exact ⟨String.toList_inj.mp characters,equal⟩

theorem digits_append_inj {m n : Nat} (ended : Ended rest) (other : Ended more)
    (same : Nat.toDigits 10 m ++ rest = Nat.toDigits 10 n ++ more) : m = n ∧ rest = more := by
  have taken {n : Nat} {text : List Char} (ended : Ended text) :
      (Nat.toDigits 10 n ++ text).takeWhile Char.isDigit = Nat.toDigits 10 n := by
    have nothing : text.takeWhile Char.isDigit = [] := by
      cases text with
      | nil => rfl
      | cons c text => simp [ended c rfl]
    rw [List.takeWhile_append_of_pos,nothing,List.append_nil]
    exact fun c member => Nat.isDigit_of_mem_toDigits (by decide) (by decide) member
  have digits : Nat.toDigits 10 m = Nat.toDigits 10 n := by
    rw [← taken ended,same,taken other]
  have equal : m = n := by
    calc
      m = Nat.ofDigitChars 10 (Nat.toDigits 10 m) 0 := Nat.ofDigitChars_ten_toDigits.symm
      _ = Nat.ofDigitChars 10 (Nat.toDigits 10 n) 0 := by rw [digits]
      _ = n := Nat.ofDigitChars_ten_toDigits
  subst equal
  exact ⟨rfl,List.append_cancel_left same⟩

theorem digits_cons (n : Nat) : ∃ c digits, Nat.toDigits 10 n = c :: digits ∧ c.isDigit = true := by
  rcases written : Nat.toDigits 10 n with _ | ⟨c,digits⟩
  · exact (Nat.toDigits_ne_nil written).elim
  · refine ⟨c,digits,rfl,Nat.isDigit_of_mem_toDigits (b := 10) (n := n) (by decide) (by decide) ?_⟩
    rw [written]
    exact List.mem_cons_self

theorem digits_append_ne (n : Nat) : Nat.toDigits 10 n ++ rest ≠ '-' :: more := by
  intro same
  obtain ⟨c,digits,written,digit⟩ := digits_cons n
  rw [written] at same
  obtain rfl : c = '-' := (List.cons.inj same).1
  exact absurd digit (by decide)

theorem readable_integer (i : Int) : Readable integer i := by
  intro j rest more ended other same
  cases i with
  | ofNat m =>
    cases j with
    | ofNat n =>
      obtain ⟨rfl,equal⟩ := digits_append_inj ended other same
      exact ⟨rfl,equal⟩
    | negSucc n => exact (digits_append_ne m same).elim
  | negSucc m =>
    cases j with
    | ofNat n => exact (digits_append_ne n same.symm).elim
    | negSucc n =>
      obtain ⟨equal,rests⟩ := digits_append_inj ended other (List.cons.inj same).2
      obtain rfl : m = n := Nat.succ.inj equal
      exact ⟨rfl,rests⟩

theorem separated_cons (first : List Char) (others : List (List Char)) :
    separated (first :: others) = first ++ others.flatMap (',' :: ·) := by
  induction others generalizing first with
  | nil => simp [separated]
  | cons second others ih =>
    calc
      separated (first :: second :: others) = first ++ ',' :: separated (second :: others) := rfl
      _ = first ++ (second :: others).flatMap (',' :: ·) := by
        rw [ih,List.flatMap_cons,List.cons_append]

section Sequences

variable {α : Type} {write : α → List Char} {close : Char}

/-- The items of a container after its first one, up to where it is closed. -/
def following (write : α → List Char) (close : Char) (items : List α) (rest : List Char) :
    List Char :=
  items.flatMap (fun item => ',' :: write item) ++ close :: rest

theorem ended_following (closing : close.isDigit = false) (items : List α) (rest : List Char) :
    Ended (following write close items rest) := by
  cases items with
  | nil =>
    rintro c ⟨⟩
    exact closing
  | cons item items =>
    rintro c ⟨⟩
    rfl

theorem following_inj (closing : close.isDigit = false) (apart : close ≠ ',')
    {items others : List α} (readable : ∀ item ∈ items, Readable write item)
    (same : following write close items rest = following write close others more) :
    items = others ∧ rest = more := by
  induction items generalizing others with
  | nil =>
    cases others with
    | nil => exact ⟨rfl,(List.cons.inj same).2⟩
    | cons other others => exact (apart (List.cons.inj same).1).elim
  | cons item items ih =>
    cases others with
    | nil => exact (apart (List.cons.inj same).1.symm).elim
    | cons other others =>
      have written : write item ++ following write close items rest =
          write other ++ following write close others more := by
        simpa [following] using same
      obtain ⟨rfl,tails⟩ := readable item List.mem_cons_self other _ _
        (ended_following closing items rest) (ended_following closing others more) written
      obtain ⟨rfl,equal⟩ := ih
        (fun item member => readable item (List.mem_cons_of_mem _ member)) tails
      exact ⟨rfl,equal⟩

/-- Items between brackets can be read if each of them can, and none starts as the bracket that
closes them. -/
theorem separated_inj (closing : close.isDigit = false) (apart : close ≠ ',')
    (opens : ∀ item rest more, write item ++ rest ≠ close :: more) {items others : List α}
    (readable : ∀ item ∈ items, Readable write item)
    (same : separated (items.map write) ++ close :: rest =
      separated (others.map write) ++ close :: more) : items = others ∧ rest = more := by
  have written (item : α) (items : List α) (rest : List Char) :
      separated ((item :: items).map write) ++ close :: rest =
        write item ++ following write close items rest := by
    rw [List.map_cons,separated_cons,List.flatMap_map,List.append_assoc]
    rfl
  cases items with
  | nil =>
    cases others with
    | nil => exact ⟨rfl,(List.cons.inj same).2⟩
    | cons other others =>
      rw [written] at same
      exact (opens other _ _ same.symm).elim
  | cons item items =>
    cases others with
    | nil =>
      rw [written] at same
      exact (opens item _ _ same).elim
    | cons other others =>
      rw [written,written] at same
      obtain ⟨rfl,tails⟩ := readable item List.mem_cons_self other _ _
        (ended_following closing items rest) (ended_following closing others more) same
      obtain ⟨rfl,equal⟩ := following_inj closing apart
        (fun item member => readable item (List.mem_cons_of_mem _ member)) tails
      exact ⟨rfl,equal⟩

end Sequences

/-- A first character for each form of document. -/
def opening : Json → Char
  | .null => 'n'
  | .bool _ => 't'
  | .int _ => '0'
  | .text _ => '"'
  | .array _ => '['
  | .object _ => '{'

/-- The first character of the form that a document with the given one has. -/
def opened (c : Char) : Char :=
  if c = 'f' then 't' else if c = '-' ∨ c.isDigit = true then '0' else c

theorem chars_cons (json : Json) : ∃ c text, json.chars = c :: text ∧ opened c = json.opening := by
  cases json with
  | int i =>
    cases i with
    | ofNat n =>
      obtain ⟨c,digits,written,digit⟩ := digits_cons n
      refine ⟨c,digits,written,?_⟩
      have letter : c ≠ 'f' := by
        rintro rfl
        exact absurd digit (by decide)
      rw [opened,if_neg letter,if_pos (.inr digit)]
      rfl
    | negSucc n => exact ⟨_,_,rfl,rfl⟩
  | bool b => cases b <;> exact ⟨_,_,rfl,rfl⟩
  | _ => exact ⟨_,_,rfl,rfl⟩

theorem opening_eq {json other : Json} (same : json.chars ++ rest = other.chars ++ more) :
    json.opening = other.opening := by
  obtain ⟨c,text,written,opens⟩ := chars_cons json
  obtain ⟨d,texts,writes,opensToo⟩ := chars_cons other
  rw [written,writes] at same
  rw [← opens,← opensToo,(List.cons.inj same).1]

theorem chars_append_ne (json : Json) : json.chars ++ rest ≠ ']' :: more := by
  intro same
  obtain ⟨c,text,written,opens⟩ := chars_cons json
  rw [written] at same
  obtain rfl : c = ']' := (List.cons.inj same).1
  cases json <;> exact absurd opens (by simp [opened,opening])

theorem itemChars_eq (items : List Json) : itemChars items = items.map chars := by
  induction items with
  | nil => rfl
  | cons item rest ih => rw [itemChars,ih,List.map_cons]

def memberText (member : String × Json) : List Char := quoted member.1 ++ ':' :: member.2.chars

theorem memberChars_eq (members : List (String × Json)) :
    memberChars members = members.map memberText := by
  induction members with
  | nil => rfl
  | cons member rest ih => rw [memberChars,ih,List.map_cons,memberText]

theorem readable_member {member : String × Json} (readable : Readable chars member.2) :
    Readable memberText member := by
  rintro ⟨name,value⟩ rest more ended other same
  simp only [memberText,List.append_assoc,List.cons_append] at same
  obtain ⟨names,texts⟩ := quoted_append_inj same
  obtain ⟨values,equal⟩ := readable value rest more ended other (List.cons.inj texts).2
  exact ⟨Prod.ext names values,equal⟩

/-- A document can be read off any text that begins with it and goes on without a digit. -/
theorem readable (json : Json) : Readable chars json := by
  induction json using Json.induction with
  | null =>
    intro other rest more _ _ same
    cases other with
    | null => exact ⟨rfl,List.append_cancel_left same⟩
    | _ => exact absurd (opening_eq same) (by simp [opening])
  | bool b =>
    intro other rest more _ _ same
    cases other with
    | bool c =>
      have equal : b = c := by cases b <;> cases c <;> simp_all [chars]
      subst equal
      exact ⟨rfl,List.append_cancel_left same⟩
    | _ => exact absurd (opening_eq same) (by simp [opening])
  | int i =>
    intro other rest more ended followed same
    cases other with
    | int j =>
      obtain ⟨rfl,equal⟩ := readable_integer i j rest more ended followed same
      exact ⟨rfl,equal⟩
    | _ => exact absurd (opening_eq same) (by simp [opening])
  | text s =>
    intro other rest more _ _ same
    cases other with
    | text t =>
      obtain ⟨rfl,equal⟩ := quoted_append_inj same
      exact ⟨rfl,equal⟩
    | _ => exact absurd (opening_eq same) (by simp [opening])
  | array items below =>
    intro other rest more _ _ same
    cases other with
    | array others =>
      simp only [chars,itemChars_eq,List.cons_append,List.append_assoc,List.nil_append] at same
      obtain ⟨rfl,equal⟩ := separated_inj (by decide) (by decide)
        (fun item _ _ => chars_append_ne item) below (List.cons.inj same).2
      exact ⟨rfl,equal⟩
    | _ => exact absurd (opening_eq same) (by simp [opening])
  | object members below =>
    intro other rest more _ _ same
    cases other with
    | object others =>
      simp only [chars,memberChars_eq,List.cons_append,List.append_assoc,List.nil_append] at same
      obtain ⟨rfl,equal⟩ := separated_inj (by decide) (by decide)
        (fun member _ _ impossible => absurd (List.cons.inj impossible).1 (by decide))
        (fun member inside => readable_member (below member inside)) (List.cons.inj same).2
      exact ⟨rfl,equal⟩
    | _ => exact absurd (opening_eq same) (by simp [opening])

/-- The compact text of a document determines the document. -/
theorem compact_injective : Function.Injective compact := by
  intro json other same
  have texts : json.chars ++ [] = other.chars ++ [] := by
    rw [List.append_nil,List.append_nil]
    exact String.ofList_injective same
  have ended : Ended [] := by simp [Ended]
  exact (readable json other [] [] ended ended texts).1

end Schemata.Json
