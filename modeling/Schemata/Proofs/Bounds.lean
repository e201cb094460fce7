import Mathlib.Data.List.Induction
import Schemata.Node.Building
import Schemata.Proofs.Amounts
import Schemata.Proofs.Pipeline
import Schemata.Proofs.Yielding

/-!
The bounds of a number. The last setting of a bound is the one in force, and whether the number has
to be whole does not come undone. What is accepted keeps to the bounds in force, with one exception:
a NaN is neither smaller nor bigger than any of them.
-/
namespace Schemata

namespace Limits

variable {β : Type}

def on (limits : Limits β) : Side → Option (Limit β)
  | .min => limits.least
  | .max => limits.greatest

theorem on_set (limits : Limits β) (limit : Limit β) (side other : Side) :
    (limits.set limit side).on other = if side = other then some limit else limits.on other := by
  cases side <;> cases other <;> rfl

end Limits

namespace Setting

variable {σ β : Type}

def bound? (side : Side) : Setting σ → Option Value
  | least bound _ => if side = .min then some bound else none
  | greatest bound _ => if side = .max then some bound else none
  | _ => none

def asksWhole : Setting σ → Bool
  | whole _ => true
  | _ => false

/-- What the last setting of its kind gives. -/
def latest (slot : Setting σ → Option β) (settings : List (Setting σ)) : Option β :=
  (settings.filterMap slot).getLast?

theorem latest_concat (slot : Setting σ → Option β) (settings : List (Setting σ))
    (setting : Setting σ) :
    latest slot (settings ++ [setting]) = (slot setting).or (latest slot settings) := by
  rw [latest,List.filterMap_append]
  rcases given : slot setting with _ | bound
  · simp [given,latest]
  · simp [given]

theorem exists_of_latest {slot : Setting σ → Option β} {settings : List (Setting σ)} {bound : β}
    (given : latest slot settings = some bound) : ∃ setting ∈ settings, slot setting = some bound :=
  List.mem_filterMap.mp (List.mem_of_getLast? given)

end Setting

theorem Number.toValue_injective : Function.Injective toValue := by
  intro m n same
  cases m <;> cases n <;> cases same <;> rfl

theorem Value.number?_eq_some_iff {value : Value} {n : Number} :
    value.number? = some n ↔ value = n.toValue := by
  cases n <;> cases value <;> simp [Value.number?,Number.toValue]

namespace Form

variable {σ α : Type}

/-- The form of a number with the bounds that the settings leave in force. -/
def Bounded (settings : List (Setting σ)) (form : Form σ α) : Prop :=
  ∃ whole limits, form = .number whole limits ∧ whole.isSome = settings.any Setting.asksWhole ∧
    ∀ side, (limits.on side).map (·.bound.toValue) = Setting.latest (Setting.bound? side) settings

theorem Bounded.unchanged {settings : List (Setting σ)} {form : Form σ α}
    (bounded : form.Bounded settings) {setting : Setting σ} (other : setting.asksWhole = false)
    (unbounded : ∀ side, setting.bound? side = none) : form.Bounded (settings ++ [setting]) := by
  obtain ⟨whole,limits,rfl,integral,bounds⟩ := bounded
  refine ⟨whole,limits,rfl,by simp [integral,other],?_⟩
  intro side
  rw [Setting.latest_concat,unbounded,Option.none_or,bounds]

theorem Bounded.bound {settings : List (Setting σ)} {form changed : Form σ α}
    (bounded : form.Bounded settings) {setting : Setting σ} {side : Side} {bound message : Value}
    (other : setting.asksWhole = false)
    (sets : ∀ place, setting.bound? place = if side = place then some bound else none)
    (done : form.bounded side bound message = .ok changed) :
    changed.Bounded (settings ++ [setting]) := by
  obtain ⟨whole,limits,rfl,integral,bounds⟩ := bounded
  simp only [Form.bounded] at done
  split at done
  · rename_i n number
    cases done
    refine ⟨whole,_,rfl,by simp [integral,other],?_⟩
    intro place
    rw [Setting.latest_concat,sets,Limits.on_set]
    split
    · rw [Option.some_or,Option.map_some,Value.number?_eq_some_iff.mp number]
    · rw [Option.none_or,bounds]
  · cases done

end Form

namespace Node

variable {σ α : Type} {node built : Node σ α} {settings : List (Setting σ)}

theorem bounded_configure {setting : Setting σ} (bounded : node.form.Bounded settings)
    (configured : node.configure setting = .ok built) :
    built.form.Bounded (settings ++ [setting]) := by
  rcases node with ⟨config,form⟩
  cases setting with
  | least bound message | greatest bound message =>
    refine bounded.bound rfl ?_ (bounded_ok configured).2
    intro place
    cases place <;> rfl
  | whole message =>
    obtain ⟨whole,limits,rfl,integral,bounds⟩ := bounded
    cases configured
    refine ⟨some message,limits,rfl,by simp [Setting.asksWhole],?_⟩
    intro side
    rw [Setting.latest_concat,bounds]
    rfl
  | required message =>
    simp only [configure] at configured
    split at configured
    · cases configured
      exact bounded.unchanged rfl fun _ => rfl
    · cases configured
  | refine stage | check stage message =>
    cases configured
    exact bounded.unchanged rfl fun _ => rfl
  | immediate enabled | strict enabled | pathed enabled =>
    obtain ⟨whole,limits,rfl,_⟩ := bounded
    cases configured

/-- A number schema that is made and then set holds the bounds of its last settings. -/
theorem configured_bounded {message : Value}
    (configured : settings.foldlM configure (number message) = .ok built) :
    built.form.Bounded settings := by
  -- From the last setting on, since it overrides the bounds of those before it.
  induction settings using List.reverseRecOn generalizing built with
  | nil =>
    cases configured
    refine ⟨none,.none,rfl,rfl,?_⟩
    intro side
    cases side <;> rfl
  | append_singleton settings setting ih =>
    rw [List.foldlM_append] at configured
    rcases before : settings.foldlM configure (number message) with error | node
    · rw [before] at configured
      cases configured
    · have last : [setting].foldlM configure node = .ok built := by rwa [before] at configured
      rw [List.foldlM_cons] at last
      exact bounded_configure (ih before) (by simpa using last)

end Node

namespace Scalar

variable {σ : Type} {config : Config σ} {whole : Option Value} {limits : Limits Number}
  {value output : Value}

theorem guard_outcome_output {β : Type} {limit : Option (Limit β)} {violated : β → Bool}
    {complaint : Complaint} {default : String} {next : Run (Except Issue Value)} :
    (Limit.guard limit violated complaint default next).outcome = .ok (.ok output) ↔
      Limit.Kept limit violated ∧ next.outcome = .ok (.ok output) := by
  constructor
  · exact Limit.guard_output
  · rintro ⟨kept,answered⟩
    rwa [Limit.guard_of_kept kept]

theorem kept_whole {n : Number} :
    Limit.Kept (whole.map (Limit.mk ())) (fun _ => !n.isWhole) ↔
      (whole.isSome = true → n.isWhole = true) := by
  cases whole <;> simp [Limit.Kept]

/-- A number is accepted, as it is, exactly when it violates nothing that is configured. -/
theorem number_outcome_output :
    (number config whole limits value).outcome = .ok (.ok output) ↔
      output = value ∧ ∃ n : Number, value = n.toValue ∧ (whole.isSome = true → n.isWhole = true) ∧
        Limit.Kept limits.least n.less ∧ Limit.Kept limits.greatest (·.less n) := by
  constructor
  · intro given
    refine ⟨number_output given,?_⟩
    unfold number at given
    split at given
    · exact (complain_rejects _ _ _ given).elim
    · split at given
      · exact (complain_rejects _ _ _ given).elim
      · rename_i n counted
        simp only [guard_outcome_output,kept_whole] at given
        exact ⟨n,Value.number?_eq_some_iff.mp counted,given.1,given.2.1,given.2.2.1⟩
  · rintro ⟨rfl,n,rfl,integral,least,greatest⟩
    have present : n.toValue.isAbsent = false := by cases n <;> rfl
    have counted : n.toValue.number? = some n := Value.number?_eq_some_iff.mpr rfl
    simp only [number,present,Bool.false_eq_true,if_false,counted,guard_outcome_output,kept_whole]
    exact ⟨integral,least,greatest,rfl⟩

end Scalar

/-- A bound that is no NaN is kept by a NaN, and by the numbers on its right side. -/
theorem Limit.kept_iff {limit : Option (Limit Number)} {given : Option Value}
    (bounds : limit.map (·.bound.toValue) = given) (proper : given ≠ some (.float .nan))
    {violated : Number → Bool} {n : Number} {within : Number → Prop}
    (keeps : ∀ m, violated m = false ↔ n = .float .nan ∨ m = .float .nan ∨ within m) :
    Kept limit violated ↔
      n = .float .nan ∨ ∀ bound ∈ given, ∃ m : Number, bound = m.toValue ∧ within m := by
  subst bounds
  rcases limit with _ | ⟨m,message⟩
  · simp [Kept]
  · have number : m ≠ .float .nan := fun same => proper (by rw [same]; rfl)
    simp [Kept,keeps,number,Number.toValue_injective.eq_iff]

namespace Schema

variable {content : Node Stage Schema} {value output : Value}

theorem safeParse_output_of_unrefined (unrefined : content.config.refines = [])
    (total : content.form.sentinel? = none) :
    ((Schema.node content).safeParse value).outcome = .ok (.ok output) ↔
      (content.structural 0 value).outcome = .ok (.ok output) ∧
        (content.checking 0 value output).outcome = .ok (.ok output) := by
  rw [safeParse,read_outcome_output,total]
  constructor
  · rintro (⟨_,impossible⟩ | ⟨current,entered,answered,passed⟩)
    · cases impossible
    · obtain rfl := entered.unrefined unrefined
      exact ⟨answered,passed⟩
  · rintro ⟨answered,passed⟩
    refine .inr ⟨value,⟨?_,by simp [total]⟩,answered,passed⟩
    rw [unrefined]
    rfl

/-- What a number schema without refinements accepts, it accepts as it is: an integer or a double
that is whole if it has to be, that is neither smaller nor bigger than the bounds in force unless it
is a NaN, and that the checks accept. -/
theorem safe_parse_bounded (message : Value) (settings : List (Setting Stage))
    (content : Node Stage Schema)
    (configured : settings.foldlM Node.configure (Node.number message) = .ok content)
    (unrefined : ∀ setting ∈ settings, setting.refinement? = none)
    (ordered : ∀ setting ∈ settings, ∀ side, setting.bound? side ≠ some (.float .nan))
    (value output : Value) :
    ((Schema.node content).safeParse value).outcome = .ok (.ok output) ↔
      output = value ∧ (content.checking 0 value value).outcome = .ok (.ok value) ∧
      ∃ n : Number, value = n.toValue ∧
        ((∃ message, .whole message ∈ settings) → ∃ i : Int, n.amount? = some (.ofRational i)) ∧
        (n = .float .nan ∨
          (∀ bound ∈ Setting.latest (Setting.bound? .min) settings,
            ∃ m : Number, bound = m.toValue ∧ m ≤ n) ∧
          ∀ bound ∈ Setting.latest (Setting.bound? .max) settings,
            ∃ m : Number, bound = m.toValue ∧ n ≤ m) := by
  obtain ⟨whole,limits,shape,integral,bounds⟩ := Node.configured_bounded configured
  have refines : content.config.refines = [] := by
    rw [(Node.configured_stages configured).1,List.filterMap_eq_nil_iff.mpr unrefined]
    rfl
  have proper (side : Side) : Setting.latest (Setting.bound? side) settings ≠ some (.float .nan) := by
    intro given
    obtain ⟨setting,member,bound⟩ := Setting.exists_of_latest given
    exact ordered setting member side bound
  have asked : settings.any Setting.asksWhole = true ↔ ∃ message, .whole message ∈ settings := by
    rw [List.any_eq_true]
    constructor
    · rintro ⟨setting,member,asks⟩
      cases setting with
      | whole message => exact ⟨message,member⟩
      | _ => cases asks
    · rintro ⟨message,member⟩
      exact ⟨_,member,rfl⟩
  have least (n : Number) : Limit.Kept limits.least n.less ↔ n = .float .nan ∨
      ∀ bound ∈ Setting.latest (Setting.bound? .min) settings,
        ∃ m : Number, bound = m.toValue ∧ m ≤ n :=
    Limit.kept_iff (bounds .min) (proper .min) fun _ => Number.not_less_iff
  have greatest (n : Number) : Limit.Kept limits.greatest (·.less n) ↔ n = .float .nan ∨
      ∀ bound ∈ Setting.latest (Setting.bound? .max) settings,
        ∃ m : Number, bound = m.toValue ∧ n ≤ m :=
    Limit.kept_iff (bounds .max) (proper .max) fun _ => Number.not_less_iff.trans or_left_comm
  rw [safeParse_output_of_unrefined refines (by rw [shape]; rfl)]
  have looks : content.structural 0 value = Scalar.number content.config whole limits value := by
    rw [Node.structural,shape]
    rfl
  simp only [looks,Scalar.number_outcome_output,integral,asked,Number.isWhole_iff,least,greatest,
    ← or_and_left]
  constructor
  · rintro ⟨⟨rfl,accepted⟩,passed⟩
    exact ⟨rfl,passed,accepted⟩
  · rintro ⟨rfl,passed,accepted⟩
    exact ⟨⟨rfl,accepted⟩,passed⟩

/-- Bounds of both types around an integer that no double is; the lower one was set anew. -/
theorem safe_parse_bounded_mixed :
    let low : Binary64 := .finite false (2 ^ 52) 1
    let settings : List (Setting Stage) :=
      [.least (.int 0) .null,.whole .null,.greatest (.int (2 ^ 53 + 2)) .null,
        .least (.float low) .null]
    let content : Node Stage Schema := ⟨.empty,
      .number (some .null) ⟨some ⟨.float low,.null⟩,some ⟨.int (2 ^ 53 + 2),.null⟩⟩⟩
    let value : Value := .int (2 ^ 53 + 1)
    settings.foldlM Node.configure (Node.number .null) = .ok content ∧
      (∀ setting ∈ settings, setting.refinement? = none) ∧
      (∀ setting ∈ settings, ∀ side, setting.bound? side ≠ some (.float .nan)) ∧
      ((Schema.node content).safeParse value).outcome = .ok (.ok value) ∧
      Number.float low ≤ .int (2 ^ 53 + 1) ∧ Number.int (2 ^ 53 + 1) ≤ .int (2 ^ 53 + 2) := by
  intro low settings content value
  have configured : settings.foldlM Node.configure (Node.number .null) = .ok content := rfl
  have unrefined : ∀ setting ∈ settings, setting.refinement? = none := by
    simp [settings,Setting.refinement?]
  have ordered : ∀ setting ∈ settings, ∀ side, setting.bound? side ≠ some (.float .nan) := by
    simp [settings,Setting.bound?,low]
  have accepted : ((Schema.node content).safeParse value).outcome = .ok (.ok value) := rfl
  obtain ⟨_,_,n,counted,_,within⟩ :=
    (safe_parse_bounded _ settings content configured unrefined ordered value value).mp accepted
  obtain rfl : n = .int (2 ^ 53 + 1) := Number.toValue_injective counted.symm
  rcases within with impossible | ⟨least,greatest⟩
  · cases impossible
  · obtain ⟨m,lower,above⟩ := least (.float low) rfl
    obtain rfl : m = .float low := Number.toValue_injective lower.symm
    obtain ⟨m,upper,below⟩ := greatest (.int (2 ^ 53 + 2)) rfl
    obtain rfl : m = .int (2 ^ 53 + 2) := Number.toValue_injective upper.symm
    exact ⟨configured,unrefined,ordered,accepted,above,below⟩

/-- Not every number that is accepted is at least the lower bound: a NaN is not. -/
theorem safe_parse_bounded_not_nan :
    ¬ ∀ (message : Value) (settings : List (Setting Stage)) (content : Node Stage Schema),
      settings.foldlM Node.configure (Node.number message) = .ok content →
      (∀ setting ∈ settings, setting.refinement? = none) →
      (∀ setting ∈ settings, ∀ side, setting.bound? side ≠ some (.float .nan)) →
      ∀ value, ((Schema.node content).safeParse value).outcome = .ok (.ok value) →
        ∃ n : Number, value = n.toValue ∧
          ∀ bound ∈ Setting.latest (Setting.bound? .min) settings,
            ∃ m : Number, bound = m.toValue ∧ m ≤ n := by
  intro within
  let settings : List (Setting Stage) := [.least (.int 0) .null]
  let content : Node Stage Schema := ⟨.empty,.number none ⟨some ⟨.int 0,.null⟩,none⟩⟩
  obtain ⟨n,counted,least⟩ := within .null settings content rfl
    (by simp [settings,Setting.refinement?]) (by simp [settings,Setting.bound?]) (.float .nan) rfl
  obtain rfl : n = .float .nan := Number.toValue_injective counted.symm
  obtain ⟨m,_,_,_,_,impossible,_⟩ := least (.int 0) rfl
  cases impossible

end Schema
end Schemata
