import NodeProbe.Decimal
import Mathlib.Algebra.Ring.Nat

set_option autoImplicit false

namespace NodeProbe.Decimal

/-- The magnitude of a float is a significand times a power of two. Its bits tell both. -/
inductive Magnitude (x : Float) : Nat → Int → Prop
  | subnormal {sign fraction : Nat} : fraction < 2 ^ 52 → x.toBits.toNat = sign * 2 ^ 63 + fraction →
      Magnitude x fraction (-1074)
  | normal {sign biased fraction : Nat} : fraction < 2 ^ 52 → 0 < biased → biased < 2 ^ 11 →
      x.toBits.toNat = sign * 2 ^ 63 + biased * 2 ^ 52 + fraction → Magnitude x (2 ^ 52 + fraction) (biased - 1075)

/-- The whole number that is nearest to a fraction, and the even one of two that are equally near. -/
structure NearestEven (numerator denominator rounded : Nat) : Prop where
  above : 2 * numerator ≤ 2 * (rounded * denominator) + denominator
  below : 2 * (rounded * denominator) ≤ 2 * numerator + denominator
  tie : 2 * numerator = 2 * (rounded * denominator) + denominator ∨
    2 * (rounded * denominator) = 2 * numerator + denominator → rounded % 2 = 0

/-- A float that is written with so many digits behind its point. -/
def Fixed (places : Nat) (x : Float) (text : String) : Prop :=
  ∃ significand exponent rounded fraction, Magnitude x significand exponent ∧
    NearestEven (significand * 2 ^ exponent.toNat * 10 ^ places) (2 ^ (-exponent).toNat) rounded ∧
    (∀ c ∈ fraction, c.isDigit = true) ∧ fraction.length = places ∧
    Nat.ofDigitChars 10 fraction 0 = rounded % 10 ^ places ∧
    text = (if 2 ^ 63 ≤ x.toBits.toNat then "-" else "") ++ toString (rounded / 10 ^ places) ++ "." ++ String.ofList fraction

theorem float_magnitude (x : Float) : Magnitude x (Binary.ofFloat x).mantissa (Binary.ofFloat x).exponent := by
  have bound : x.toBits.toNat < 2 ^ 64 := x.toBits.toNat_lt
  have fraction : x.toBits.toNat % 2 ^ 52 < 2 ^ 52 := Nat.mod_lt _ (by decide)
  unfold Binary.ofFloat
  simp only [Nat.pow_eq]
  by_cases zero : x.toBits.toNat / 2 ^ 52 % 2 ^ 11 = 0
  · rw [if_pos zero]
    refine @Magnitude.subnormal x (x.toBits.toNat / 2 ^ 63) _ fraction ?_
    show x.toBits.toNat = x.toBits.toNat / 2 ^ 63 * 2 ^ 63 + x.toBits.toNat % 2 ^ 52
    omega
  · rw [if_neg zero]
    exact @Magnitude.normal x (x.toBits.toNat / 2 ^ 63) (x.toBits.toNat / 2 ^ 52 % 2 ^ 11) _ fraction (by omega)
      (by omega) (by omega)

theorem round_quotient_nearest (numerator denominator : Nat) (positive : 0 < denominator) :
    NearestEven numerator denominator (roundQuotient numerator denominator) := by
  have split := Nat.div_add_mod' numerator denominator
  have small := Nat.mod_lt numerator positive
  have next : (numerator / denominator + 1) * denominator = numerator / denominator * denominator + denominator :=
    Nat.succ_mul _ _
  unfold roundQuotient
  dsimp only
  by_cases below : 2 * (numerator % denominator) < denominator
  · rw [if_pos below]
    exact ⟨by omega, by omega, by omega⟩
  · rw [if_neg below]
    by_cases above : denominator < 2 * (numerator % denominator)
    · rw [if_pos above]
      exact ⟨by omega, by omega, by omega⟩
    · rw [if_neg above, Tie.choose]
      by_cases even : numerator / denominator % 2 = 0
      · rw [if_pos even]
        exact ⟨by omega, by omega, fun _ => even⟩
      · rw [if_neg even]
        exact ⟨by omega, by omega, by omega⟩

-- The last digits of a number, with zeros where it has too few.
def lastDigits : Nat → Nat → List Char
  | 0, _ => []
  | count + 1, value => lastDigits count (value / 10) ++ [Nat.digitChar (value % 10)]

theorem last_digits_length (count value : Nat) : (lastDigits count value).length = count := by
  induction count generalizing value with
  | zero => rfl
  | succ count ih => rw [lastDigits, List.length_append, ih, List.length_singleton]

theorem last_digits_digits (count value : Nat) : ∀ c ∈ lastDigits count value, c.isDigit = true := by
  induction count generalizing value with
  | zero => nofun
  | succ count ih =>
    refine List.forall_mem_append.mpr ⟨ih (value / 10), List.forall_mem_singleton.mpr ?_⟩
    rw [Nat.isDigit_digitChar]
    exact decide_eq_true (Nat.mod_lt value (by decide))

theorem last_digits_value (count value : Nat) : Nat.ofDigitChars 10 (lastDigits count value) 0 = value % 10 ^ count := by
  induction count generalizing value with
  | zero => rw [Nat.pow_zero, Nat.mod_one]; rfl
  | succ count ih =>
    have last := Nat.toNat_digitChar_sub_48_of_lt_ten (Nat.mod_lt value (by decide : 0 < 10))
    rw [lastDigits, Nat.ofDigitChars_append, ih, Nat.ofDigitChars_cons, Nat.ofDigitChars_nil, Nat.pow_succ', Nat.mod_mul,
      Nat.add_comm]
    exact congrArg (· + _) last

theorem padded_digits (count value : Nat) :
    List.replicate (count + 1 - (digits value).length) '0' ++ digits value =
      digits (value / 10 ^ count) ++ lastDigits count value := by
  induction count generalizing value with
  | zero =>
    have present : 0 < (digits value).length := Nat.length_toDigits_pos
    rw [Nat.zero_add, Nat.sub_eq_zero_of_le present, Nat.pow_zero, Nat.div_one]
    exact (List.append_nil _).symm
  | succ count ih =>
    have earlier := ih (value / 10)
    rw [Nat.div_div_eq_div_mul, ← Nat.pow_succ'] at earlier
    rw [lastDigits, ← List.append_assoc, ← earlier]
    by_cases small : value < 10
    · have none : value / 10 = 0 := Nat.div_eq_of_lt small
      rw [none, Nat.mod_eq_of_lt small, digits, digits, Nat.toDigits_of_lt_base small]
      show List.replicate (count + 1) '0' ++ [value.digitChar] = List.replicate count '0' ++ ['0'] ++ [value.digitChar]
      rw [List.replicate_succ']
    · rw [digits, Nat.toDigits_of_base_le (by decide) (Nat.le_of_not_lt small), List.length_append, List.length_singleton,
        ← List.append_assoc, Nat.add_sub_add_right]

theorem fixed_written (places : Nat) (positive : places ≠ 0) (x : Float) : Fixed places x (fixed places x) := by
  let binary := Binary.ofFloat x
  let rounded := roundQuotient (binary.mantissa * 2 ^ binary.exponent.toNat * 10 ^ places) (2 ^ (-binary.exponent).toNat)
  have long : (digits (rounded / 10 ^ places) ++ lastDigits places rounded).length - places =
      (digits (rounded / 10 ^ places)).length := by
    rw [List.length_append, last_digits_length, Nat.add_sub_cancel]
  have text : fixed places x =
      String.ofList (if isNegative x then '-' :: (digits (rounded / 10 ^ places) ++ '.' :: lastDigits places rounded)
        else digits (rounded / 10 ^ places) ++ '.' :: lastDigits places rounded) := by
    show String.ofList (if isNegative x then _ else _) = _
    simp only [Nat.pow_eq, if_neg positive]
    rw [padded_digits, long, List.take_left, List.drop_left]
  refine ⟨binary.mantissa, binary.exponent, rounded, lastDigits places rounded, float_magnitude x,
    round_quotient_nearest _ _ (Nat.pow_pos (by decide)), last_digits_digits places rounded,
    last_digits_length places rounded, last_digits_value places rounded, ?_⟩
  have whole : toString (rounded / 10 ^ places) = String.ofList (digits (rounded / 10 ^ places)) := rfl
  rw [text, whole, isNegative]
  simp only [decide_eq_true_eq, Nat.pow_eq]
  apply String.toList_inj.mp
  by_cases negative : 2 ^ 63 ≤ x.toBits.toNat
  · rw [if_pos negative, if_pos negative]
    simp
  · rw [if_neg negative, if_neg negative]
    simp

end NodeProbe.Decimal
