import Mathlib.Algebra.Order.Field.Rat
import Mathlib.Algebra.Order.Field.Power
import Mathlib.Order.WithBot
import Mathlib.Tactic.FieldSimp
import Mathlib.Tactic.Ring
import Schemata.Number

/-!
What numbers amount to. An integer amounts to itself and a finite double to a rational number, its
mantissa times a power of two; the infinities lie beyond all of these, and a NaN amounts to nothing.
Numbers are ordered as what they amount to, and a double has an integer exactly when it amounts to
one.
-/
namespace Schemata

/-- The rational numbers with an infinity at either end. -/
abbrev Amount := WithBot (WithTop ℚ)

def Amount.ofRational (q : ℚ) : Amount := ((q : WithTop ℚ) : WithBot (WithTop ℚ))

namespace Amount

theorem ofRational_strictMono : StrictMono ofRational :=
  WithBot.coe_strictMono.comp WithTop.coe_strictMono

def infinity (negative : Bool) : Amount := if negative then ⊥ else ⊤

/-- What a truth value counts as among numbers. -/
def ofTruth (b : Bool) : Amount := ofRational (if b then 1 else 0)

theorem compare_infinity (a b : Bool) : compare (infinity a) (infinity b) = compare b a := by
  cases a <;> cases b
  · exact compare_eq_iff_eq.mpr rfl
  · exact compare_gt_iff_gt.mpr bot_lt_top
  · exact compare_lt_iff_lt.mpr bot_lt_top
  · exact compare_eq_iff_eq.mpr rfl

theorem compare_infinity_ofRational (a : Bool) (q : ℚ) :
    compare (infinity a) (ofRational q) = if a then .lt else .gt := by
  cases a
  · exact compare_gt_iff_gt.mpr (WithBot.coe_lt_coe.mpr (WithTop.coe_lt_top q))
  · exact compare_lt_iff_lt.mpr (WithBot.bot_lt_coe _)

theorem compare_ofRational_infinity (q : ℚ) (b : Bool) :
    compare (ofRational q) (infinity b) = if b then .gt else .lt := by
  cases b
  · exact compare_lt_iff_lt.mpr (WithBot.coe_lt_coe.mpr (WithTop.coe_lt_top q))
  · exact compare_gt_iff_gt.mpr (WithBot.bot_lt_coe _)

theorem infinity_ne_ofRational (a : Bool) (q : ℚ) : infinity a ≠ ofRational q := by
  cases a
  · exact fun same => WithTop.coe_ne_top (WithBot.coe_injective same).symm
  · exact WithBot.bot_ne_coe

end Amount

namespace Binary64

def rational (negative : Bool) (mantissa : Nat) (exponent : Int) : ℚ :=
  (signed negative mantissa : ℚ) * 2 ^ exponent

def amount? : Binary64 → Option Amount
  | .nan => none
  | .infinite negative => some (.infinity negative)
  | .finite negative mantissa exponent => some (.ofRational (rational negative mantissa exponent))

theorem signed_cast (negative : Bool) (mantissa : Nat) :
    (signed negative mantissa : ℚ) = (if negative then -1 else 1) * mantissa := by
  cases negative <;> simp [signed]

theorem twoTo_cast {exponent : Int} (natural : 0 ≤ exponent) :
    (twoTo exponent : ℚ) = 2 ^ exponent := by
  rw [twoTo,Nat.pow_eq,Nat.cast_pow,Nat.cast_ofNat,← zpow_natCast,Int.toNat_of_nonneg natural]

/-- A mantissa may be written for any lower exponent. -/
theorem rational_eq_lowered (negative : Bool) (mantissa : Nat) {low exponent : Int}
    (lower : low ≤ exponent) :
    rational negative mantissa exponent =
      (signed negative (mantissa * twoTo (exponent - low)) : ℚ) * 2 ^ low := by
  have split : (2 : ℚ) ^ exponent = 2 ^ (exponent - low) * 2 ^ low := by
    rw [← zpow_add₀ two_ne_zero,sub_add_cancel]
  rw [rational,signed_cast,signed_cast,Nat.cast_mul,twoTo_cast (by omega),split]
  ring

theorem scaled_lt (low : Int) {i j : Int} (less : i < j) : (i : ℚ) * 2 ^ low < j * 2 ^ low :=
  mul_lt_mul_of_pos_right (Int.cast_lt.mpr less) (zpow_pos two_pos low)

/-- Doubles are ordered as what they amount to. -/
theorem order_eq_compare (x y : Binary64) :
    x.order y = Option.map₂ compare x.amount? y.amount? := by
  cases x with
  | nan => rw [order_nan_left,amount?,Option.map₂_none_left]
  | infinite a =>
    cases y with
    | nan => rfl
    | infinite b => exact congrArg some (Amount.compare_infinity a b).symm
    | finite b n f => exact congrArg some (Amount.compare_infinity_ofRational a _).symm
  | finite a m e =>
    cases y with
    | nan => rfl
    | infinite b => exact congrArg some (Amount.compare_ofRational_infinity _ b).symm
    | finite b n f =>
      -- Both are written for the lower exponent, where comparing the mantissas is enough.
      have mono : StrictMono fun i : Int => Amount.ofRational (i * 2 ^ min e f) :=
        fun _ _ less => Amount.ofRational_strictMono (scaled_lt (min e f) less)
      simp only [order,amount?,Option.map₂_some_some]
      rw [rational_eq_lowered a m (Int.min_le_left e f),
        rational_eq_lowered b n (Int.min_le_right e f),← cmp_eq_compare,← cmp_eq_compare]
      exact congrArg some (mono.cmp_map_eq _ _).symm

theorem ratio_pos (mantissa : Nat) (exponent : Int) : 0 < (ratio mantissa exponent).2 := by
  unfold ratio
  split
  · exact Nat.one_pos
  · exact Nat.pow_pos Nat.two_pos

theorem ratio_cast (mantissa : Nat) (exponent : Int) :
    ((ratio mantissa exponent).1 : ℚ) / (ratio mantissa exponent).2 = mantissa * 2 ^ exponent := by
  unfold ratio
  split
  · rename_i natural
    rw [Nat.cast_mul,twoTo_cast natural,Nat.cast_one,div_one]
  · rename_i fractional
    rw [twoTo_cast (by omega),zpow_neg,div_inv_eq_mul]

theorem dvd_signed {den num : Nat} {negative : Bool} :
    (den : Int) ∣ signed negative num ↔ den ∣ num := by
  cases negative <;> simp [signed,Int.natCast_dvd_natCast]

theorem signed_eq_mul_iff {negative : Bool} {num den : Nat} {i : Int} (positive : 0 < den) :
    signed negative num = i * den ↔ num % den = 0 ∧ signed negative (num / den) = i := by
  have scales (k : Nat) : signed negative (den * k) = signed negative k * den := by
    cases negative <;> simp [signed,mul_comm]
  have cancels (j : Int) : j * den = i * den ↔ j = i :=
    mul_left_inj' (Int.natCast_ne_zero.mpr positive.ne')
  rw [← Nat.dvd_iff_mod_eq_zero]
  constructor
  · intro same
    obtain ⟨k,rfl⟩ := dvd_signed.mp
      (show (den : Int) ∣ signed negative num from ⟨i,by rw [same,mul_comm]⟩)
    rw [Nat.mul_div_cancel_left k positive]
    exact ⟨dvd_mul_right den k,(cancels _).mp (by rw [← scales,same])⟩
  · rintro ⟨⟨k,rfl⟩,same⟩
    rw [Nat.mul_div_cancel_left k positive] at same
    rw [scales,same]

theorem rational_eq_intCast_iff (negative : Bool) (mantissa : Nat) (exponent i : Int) :
    rational negative mantissa exponent = i ↔
      (ratio mantissa exponent).1 % (ratio mantissa exponent).2 = 0 ∧
        signed negative ((ratio mantissa exponent).1 / (ratio mantissa exponent).2) = i := by
  have positive := ratio_pos mantissa exponent
  have quotient : rational negative mantissa exponent =
      (signed negative (ratio mantissa exponent).1 : ℚ) / (ratio mantissa exponent).2 := by
    rw [rational,signed_cast,signed_cast,mul_div_assoc,ratio_cast,mul_assoc]
  rw [← signed_eq_mul_iff positive,quotient,
    div_eq_iff (Nat.cast_ne_zero.mpr positive.ne')]
  exact_mod_cast Iff.rfl

theorem toInt?_eq_some_iff {x : Binary64} {i : Int} :
    x.toInt? = some i ↔ x.amount? = some (.ofRational i) := by
  cases x with
  | nan => simp [toInt?,amount?]
  | infinite negative => simp [toInt?,amount?,Amount.infinity_ne_ofRational]
  | finite negative mantissa exponent =>
    rw [amount?,Option.some.injEq,Amount.ofRational_strictMono.injective.eq_iff,
      rational_eq_intCast_iff,toInt?]
    simp

theorem isWhole_iff {x : Binary64} :
    x.isWhole = true ↔ ∃ i : Int, x.amount? = some (.ofRational i) := by
  simp only [isWhole,Option.isSome_iff_exists,toInt?_eq_some_iff]

theorem amount_exactInt (i : Int) : (exactInt i).amount? = some (.ofRational i) := by
  have whole : signed (i < 0) i.natAbs = i := by
    by_cases negative : i < 0
    · simp only [signed,negative,decide_true,if_true]
      omega
    · simp only [signed,negative,decide_false,Bool.false_eq_true,if_false]
      omega
  rw [exactInt,amount?,rational,whole,zpow_zero,mul_one]

end Binary64

namespace Number

def amount? : Number → Option Amount
  | int i => some (.ofRational i)
  | float x => x.amount?

theorem amount_exact (n : Number) : n.exact.amount? = n.amount? := by
  cases n with
  | int i => exact Binary64.amount_exactInt i
  | float x => rfl

theorem order_eq_compare (m n : Number) :
    m.order n = Option.map₂ compare m.amount? n.amount? := by
  rw [order,Binary64.order_eq_compare,amount_exact,amount_exact]

theorem less_iff {m n : Number} :
    m.less n = true ↔ ∃ a b, m.amount? = some a ∧ n.amount? = some b ∧ a < b := by
  simp only [less,order_eq_compare,beq_iff_eq,Option.map₂_eq_some_iff,Option.mem_def,
    compare_lt_iff_lt]

/-- Numbers compare as what they amount to; a NaN compares with nothing. -/
instance : LE Number := ⟨fun m n => ∃ a b, m.amount? = some a ∧ n.amount? = some b ∧ a ≤ b⟩

theorem amount_eq_none_iff {n : Number} : n.amount? = none ↔ n = .float .nan := by
  cases n with
  | int i => simp [amount?]
  | float x => cases x <;> simp [amount?,Binary64.amount?]

theorem order_eq_iff {m n : Number} :
    m.order n = some .eq ↔ ∃ a, m.amount? = some a ∧ n.amount? = some a := by
  simp only [order_eq_compare,Option.map₂_eq_some_iff,Option.mem_def,compare_eq_iff_eq]
  constructor
  · rintro ⟨a,b,first,second,rfl⟩
    exact ⟨a,first,second⟩
  · rintro ⟨a,first,second⟩
    exact ⟨a,a,first,second,rfl⟩

theorem le_iff {m n : Number} :
    m ≤ n ↔ ∃ a b, m.amount? = some a ∧ n.amount? = some b ∧ a ≤ b := Iff.rfl

/-- Of two numbers, neither of them a NaN, one that is not less is no smaller. -/
theorem not_less_iff {m n : Number} :
    m.less n = false ↔ m = .float .nan ∨ n = .float .nan ∨ n ≤ m := by
  rw [Bool.eq_false_iff,Ne,less_iff,le_iff,← amount_eq_none_iff,← amount_eq_none_iff]
  rcases m.amount? with _ | a
  · simp
  · rcases n.amount? with _ | b
    · simp
    · simp

theorem isWhole_iff {n : Number} :
    n.isWhole = true ↔ ∃ i : Int, n.amount? = some (.ofRational i) := by
  cases n with
  | int i => exact ⟨fun _ => ⟨i,rfl⟩,fun _ => rfl⟩
  | float x => exact Binary64.isWhole_iff

end Number
end Schemata
