import NodeProbe.Json.Printer
import NodeProbe.Proofs.Decimal.Shortest
import NodeProbe.Proofs.Json.TypedMembers
import Mathlib.Data.List.DropRight

set_option autoImplicit false

namespace NodeProbe.Json

open Decimal

structure LeadingRun (run : List Char) : Prop where
  all : DigitRun run
  leads : run.head? ≠ some '0'

theorem digits_leading (value : Nat) (positive : 0 < value) : LeadingRun (digits value) := by
  obtain ⟨first, rest, same, onlyZero⟩ := digits_head value
  refine ⟨⟨?_, digits_all_digits value⟩, ?_⟩
  · rw [same]
    exact List.cons_ne_nil first rest
  · rw [same]
    intro zero
    exact Nat.ne_of_gt positive (onlyZero (Option.some.inj zero)).2

theorem leading_no_zero {run : List Char} (leading : LeadingRun run) : run.head? = some '0' → run = ['0'] :=
  fun zero => absurd zero leading.leads

theorem leading_front {run front tail : List Char} (leading : LeadingRun run) (same : run = front ++ tail)
    (present : front ≠ []) : LeadingRun front := by
  subst same
  refine ⟨⟨present, fun c early => leading.all.2 c (List.mem_append_left tail early)⟩, ?_⟩
  rw [← List.head?_append_of_ne_nil front present]
  exact leading.leads

theorem leading_append {run tail : List Char} (leading : LeadingRun run) (digits : ∀ c ∈ tail, c.isDigit = true) :
    LeadingRun (run ++ tail) := by
  refine ⟨⟨List.append_ne_nil_of_left_ne_nil leading.all.1 tail, ?_⟩, ?_⟩
  · exact fun c present => (List.mem_append.mp present).elim (leading.all.2 c) (digits c)
  · rw [List.head?_append_of_ne_nil run leading.all.1]
    exact leading.leads

theorem zeros_digits (count : Nat) : ∀ c ∈ zeros count, c.isDigit = true := by
  intro c present
  rw [List.eq_of_mem_replicate present]
  rfl

theorem trailing_zeros_leading {run : List Char} (leading : LeadingRun run) : LeadingRun (dropTrailingZeros run) := by
  have front : dropTrailingZeros run <+: run := List.rdropWhile_prefix _ run
  obtain ⟨tail, same⟩ := front
  refine leading_front leading same.symm ?_
  intro empty
  have allZeros := (List.rdropWhile_eq_nil_iff (p := fun c => decide (c = '0'))).mp empty
  obtain ⟨first, rest, rfl⟩ := List.exists_cons_of_ne_nil leading.all.1
  have zero := of_decide_eq_true (allZeros first List.mem_cons_self)
  exact leading.leads (congrArg some zero)

/-! Numerals by their parts -/

theorem zero_run : DigitRun ['0'] := ⟨List.cons_ne_nil _ _, List.forall_mem_singleton.mpr rfl⟩

def IsUnsigned (text : List Char) : Prop := ∃ numeral : Numeral, numeral.negative = false ∧ numeral.unsigned = text

theorem unsigned_point {whole fraction : List Char} (wholeRun : DigitRun whole)
    (noLeadingZero : whole.head? = some '0' → whole = ['0']) (fractionRun : DigitRun fraction) :
    IsUnsigned (whole ++ '.' :: fraction) := by
  have run : ∀ digits ∈ some fraction, DigitRun digits := fun _ same => Option.some.inj same ▸ fractionRun
  refine ⟨⟨false, whole, some fraction, none, wholeRun, noLeadingZero, run⟩, rfl, ?_⟩
  simp only [Numeral.unsigned, fractionText, exponentText, List.append_nil]

theorem unsigned_placed {run : List Char} (leading : LeadingRun run) (place : Int) :
    IsUnsigned (Layout.exponential.placePoint run place) := by
  rw [Layout.placePoint]
  split
  · refine unsigned_point zero_run (fun _ => rfl) ⟨List.append_ne_nil_of_right_ne_nil _ leading.all.1, ?_⟩
    exact fun c present => (List.mem_append.mp present).elim (zeros_digits _ c) (leading.all.2 c)
  · rename_i positive
    split
    · have whole := leading_append leading (zeros_digits (place.toNat - run.length))
      exact unsigned_point whole.all (leading_no_zero whole) zero_run
    · rename_i short
      have front : run.take place.toNat ≠ [] := by
        rw [Ne, List.take_eq_nil_iff]
        rintro (none | empty)
        · omega
        · exact leading.all.1 empty
      have whole := leading_front leading (List.take_append_drop place.toNat run).symm front
      refine unsigned_point whole.all (leading_no_zero whole)
        ⟨?_, fun c present => leading.all.2 c (List.mem_of_mem_drop present)⟩
      rw [Ne, List.drop_eq_nil_iff]
      exact short

theorem unsigned_exponent {run : List Char} (leading : LeadingRun run) (place : Int) :
    IsUnsigned (withExponent run place) := by
  have sign : ∀ c, c = '-' ∨ c = '+' → ([c] : List Char) = [] ∨ [c] = ['+'] ∨ [c] = ['-'] := by
    rintro c (rfl | rfl)
    · exact .inr (.inr rfl)
    · exact .inr (.inl rfl)
  have chosen : (if place - 1 < 0 then '-' else '+') = '-' ∨ (if place - 1 < 0 then '-' else '+') = '+' := by
    split
    · exact .inl rfl
    · exact .inr rfl
  obtain ⟨head, others, digitsSame, _⟩ := digits_head (place - 1).natAbs
  let exponent : Exponent := ⟨'e', [if place - 1 < 0 then '-' else '+'], digits (place - 1).natAbs, .inl rfl, sign _ chosen,
    digitsSame ▸ List.cons_ne_nil head others, digits_all_digits _⟩
  obtain ⟨first, rest, rfl⟩ := List.exists_cons_of_ne_nil leading.all.1
  have one := leading_front leading (rfl : first :: rest = [first] ++ rest) (List.cons_ne_nil first [])
  cases rest with
  | nil =>
    refine ⟨⟨false, [first], none, some exponent, one.all, leading_no_zero one, nofun⟩, rfl, ?_⟩
    rfl
  | cons second rest =>
    have tail : DigitRun (second :: rest) :=
      ⟨List.cons_ne_nil _ _, fun c present => leading.all.2 c (List.mem_cons_of_mem first present)⟩
    refine ⟨⟨false, [first], some (second :: rest), some exponent, one.all, leading_no_zero one,
      fun _ same => Option.some.inj same ▸ tail⟩, rfl, ?_⟩
    rfl

theorem float_magnitude_unsigned (x : Float) : IsUnsigned (Layout.exponential.magnitude (.ofFloat x)) := by
  rw [Layout.magnitude]
  split
  · exact unsigned_point zero_run (fun _ => rfl) zero_run
  · rename_i present
    have leading := trailing_zeros_leading (digits_leading _ (float_shortest_positive x Layout.exponential.tie present))
    dsimp only
    split
    · exact unsigned_placed leading _
    · exact unsigned_exponent leading _

theorem float_numeral (x : Float) : ∃ numeral : Numeral, numeral.text = Layout.exponential.write x := by
  obtain ⟨numeral, plain, unsigned⟩ := float_magnitude_unsigned x
  rw [Layout.write]
  split
  · refine ⟨{ numeral with negative := true }, ?_⟩
    rw [Numeral.text, if_pos rfl]
    exact congrArg ('-' :: ·) unsigned
  · refine ⟨numeral, ?_⟩
    rw [Numeral.text, plain]
    exact unsigned

theorem integer_numeral_text (i : Integer) :
    ∃ numeral : Numeral, numeral.text = signed i.value ∧ numeral.Spells i.value := by
  have whole : ∀ value, DigitRun (digits value) ∧ ((digits value).head? = some '0' → digits value = ['0']) := by
    intro value
    obtain ⟨first, rest, same, onlyZero⟩ := digits_head value
    refine ⟨⟨same ▸ List.cons_ne_nil first rest, digits_all_digits value⟩, ?_⟩
    rw [same]
    intro zero
    obtain ⟨alone, _⟩ := onlyZero (Option.some.inj zero)
    rw [alone, Option.some.inj zero]
  have value : ∀ value, Nat.ofDigitChars 10 (digits value) 0 = value := of_digits_digits
  cases i.value with
  | ofNat magnitude =>
    refine ⟨⟨false, digits magnitude, none, none, (whole _).1, (whole _).2, nofun⟩, ?_, rfl, rfl, ?_, ?_⟩
    · simp only [Numeral.text, Numeral.unsigned, fractionText, exponentText, List.append_nil, signed]
      rfl
    · exact fun both => Bool.false_ne_true both.1
    · exact congrArg Int.ofNat (value magnitude)
  | negSucc magnitude =>
    have read : (-Int.ofNat (Nat.ofDigitChars 10 (digits (magnitude + 1)) 0)) = Int.negSucc magnitude := by
      rw [value]
      rfl
    refine ⟨⟨true, digits (magnitude + 1), none, none, (whole _).1, (whole _).2, nofun⟩, ?_, rfl, rfl, ?_, read⟩
    · simp only [Numeral.text, Numeral.unsigned, fractionText, exponentText, List.append_nil, signed]
      rfl
    · rintro ⟨_, zero⟩
      cases read.symm.trans zero

end NodeProbe.Json
