import NodeProbe.Proofs.Json.Layout

set_option autoImplicit false

namespace NodeProbe.Json

open Decimal

theorem digit_char_not_zero : ∀ value < 10, value ≠ 0 → Nat.digitChar value ≠ '0' := by decide

theorem of_digits_cons (value : Nat) (c : Char) (rest : List Char) :
    Nat.ofDigitChars 10 (c :: rest) value = Nat.ofDigitChars 10 rest (10 * value + digitValue c) :=
  Nat.ofDigitChars_cons

theorem of_digits_ge (significand : Nat) (run : List Char) : significand ≤ Nat.ofDigitChars 10 run significand := by
  induction run generalizing significand with
  | nil => exact Nat.le_refl _
  | cons c rest ih =>
    have grown := ih (10 * significand + digitValue c)
    rw [of_digits_cons]
    omega

theorem digits_all_digits (value : Nat) : ∀ c ∈ digits value, c.isDigit = true :=
  fun _ => Nat.isDigit_of_mem_toDigits (by decide) (by decide)

theorem of_digits_digits (value : Nat) : Nat.ofDigitChars 10 (digits value) 0 = value :=
  Nat.ofDigitChars_toDigits (by decide) (by decide)

theorem digits_head (value : Nat) :
    ∃ first rest, digits value = first :: rest ∧ (first = '0' → rest = [] ∧ value = 0) := by
  induction value using Nat.strongRecOn with
  | _ value ih =>
    by_cases small : value < 10
    · refine ⟨_, [], Nat.toDigits_of_lt_base small, ?_⟩
      intro zero
      exact ⟨rfl, Decidable.byContradiction fun positive => digit_char_not_zero value small positive zero⟩
    · have large : 10 ≤ value := Nat.le_of_not_lt small
      obtain ⟨first, rest, same, onlyZero⟩ := ih (value / 10) (by omega)
      refine ⟨first, rest ++ [Nat.digitChar (value % 10)], ?_, ?_⟩
      · rw [digits, Nat.toDigits_of_base_le (by decide) large, ← digits, same, List.cons_append]
      · intro zero
        have := (onlyZero zero).2
        omega

def NoDigit (rest : List Char) : Prop := ∀ c ∈ rest.head?, c.isDigit = false

theorem no_digit_nil : NoDigit [] := nofun

theorem no_digit_cons (c : Char) (rest : List Char) (other : c.isDigit = false) : NoDigit (c :: rest) := by
  intro first same
  cases same
  exact other

theorem delimited_no_digit (rest : List Char) (delimited : Delimited rest) : NoDigit rest :=
  fun c first => (delimited c first).1

theorem skip_digits_apart (rest : List Char) (apart : NoDigit rest) : skipDigits rest = rest := by
  cases rest with
  | nil => rfl
  | cons c others => rw [skipDigits, List.dropWhile_cons_of_neg (by rw [apart c rfl]; exact Bool.false_ne_true)]

theorem take_while_apart (rest : List Char) (apart : NoDigit rest) : rest.takeWhile Char.isDigit = [] := by
  cases rest with
  | nil => rfl
  | cons c others => rw [List.takeWhile_cons_of_neg (by rw [apart c rfl]; exact Bool.false_ne_true)]

theorem starts_with_digit_apart (rest : List Char) (apart : NoDigit rest) : startsWithDigit rest = false := by
  cases rest with
  | nil => rfl
  | cons c others => exact apart c rfl

theorem take_digits_run (significand count : Nat) (run rest : List Char) (allDigits : ∀ c ∈ run, c.isDigit = true)
    (fits : Nat.ofDigitChars 10 run significand < 0x10000000000000000) (apart : NoDigit rest) :
    takeDigits significand count (run ++ rest) = ⟨Nat.ofDigitChars 10 run significand, count + run.length, rest⟩ := by
  induction run generalizing significand count with
  | nil =>
    cases rest with
    | nil => rfl
    | cons c others => simp [takeDigits, apart c rfl, Nat.ofDigitChars]
  | cons c others ih =>
    have digit := allDigits c List.mem_cons_self
    have below : 10 * significand + digitValue c < 0x10000000000000000 := Nat.lt_of_le_of_lt (of_digits_ge _ others) fits
    have inner := ih (10 * significand + digitValue c) (count + 1)
      (fun other present => allDigits other (List.mem_cons_of_mem c present)) fits
    rw [List.cons_append, takeDigits, if_pos ⟨digit, below⟩, inner, List.length_cons]
    simp only [of_digits_cons, Taken.mk.injEq, and_true, true_and]
    omega

theorem number_run (negative : Bool) (first : Char) (others rest : List Char)
    (allDigits : ∀ c ∈ first :: others, c.isDigit = true) (onlyZero : first = '0' → others = [])
    (fits : Nat.ofDigitChars 10 (first :: others) 0 < 0x10000000000000000) (delimited : Delimited rest) :
    number negative (first :: others ++ rest) = .ok (wholeNumber negative (Nat.ofDigitChars 10 (first :: others) 0), rest) := by
  have firstDigit := allDigits first List.mem_cons_self
  have apart := delimited_no_digit rest delimited
  have folded : Nat.ofDigitChars 10 others (digitValue first) = Nat.ofDigitChars 10 (first :: others) 0 := by
    simp only [of_digits_cons, Nat.mul_zero, Nat.zero_add]
  have taken := take_digits_run (digitValue first) 0 others rest
    (fun c present => allDigits c (List.mem_cons_of_mem first present)) (folded.symm ▸ fits) apart
  have noLeadingZero : ¬ (first = '0' ∧ startsWithDigit (others ++ rest) = true) := by
    rintro ⟨zero, more⟩
    rw [onlyZero zero, List.nil_append, starts_with_digit_apart rest apart] at more
    exact Bool.false_ne_true more
  rw [List.cons_append, number, if_neg (by simp [firstDigit]), if_neg noLeadingZero]
  simp only [taken, folded, skip_digits_apart rest apart, take_while_apart rest apart]
  cases rest with
  | nil => rfl
  | cons c remaining =>
    obtain ⟨_, notPoint, notLower, notUpper⟩ := delimited c rfl
    simp [notPoint, notLower, notUpper]

theorem number_digits (negative : Bool) (value : Nat) (rest : List Char) (fits : value < 0x10000000000000000)
    (delimited : Delimited rest) :
    number negative (digits value ++ rest) = .ok (wholeNumber negative value, rest) := by
  have allDigits := digits_all_digits value
  have folded := of_digits_digits value
  obtain ⟨first, others, same, onlyZero⟩ := digits_head value
  rw [same] at allDigits folded ⊢
  have read := number_run negative first others rest allDigits (fun zero => (onlyZero zero).1) (folded.symm ▸ fits) delimited
  rwa [folded] at read

theorem of_int_value (i : Integer) : Integer.ofInt? i.value = some i := dif_pos ⟨i.lower, i.upper⟩

theorem whole_number_integer (negative : Bool) (significand : Nat) (i : Integer)
    (value : (if negative then -Int.ofNat significand else Int.ofNat significand) = i.value)
    (signed : ¬ (negative = true ∧ significand = 0)) : wholeNumber negative significand = .integer i := by
  simp only [wholeNumber, if_neg signed, value, of_int_value]

def NumberStart (c : Char) : Prop := c = '-' ∨ c.isDigit = true

theorem digit_not_letter (c : Char) (digit : c.isDigit = true) :
    c ≠ 'n' ∧ c ≠ 't' ∧ c ≠ 'f' ∧ c ≠ '-' ∧ c ≠ '"' ∧ c ≠ '[' ∧ c ≠ '\x7b' ∧ c ≠ ']' ∧ c ≠ '\x7d' ∧
      isSpace c = false := by
  refine ⟨?_, ?_, ?_, ?_, ?_, ?_, ?_, ?_, ?_, ?_⟩
  case refine_10 =>
    cases space : isSpace c with
    | false => rfl
    | true => exact absurd digit (Bool.eq_false_iff.mp (space_delimits c space).1)
  all_goals
    rintro rfl
    exact absurd digit (by decide)

theorem scalar_integer (i : Integer) (rest : List Char) (delimited : Delimited rest) :
    scalar.run (signed i.value ++ rest) = .ok (.number (.integer i), rest) := by
  obtain ⟨value, lower, upper⟩ := i
  cases value with
  | ofNat value =>
    have fits : value < 0x10000000000000000 := by have := upper; simp only [Int.ofNat_eq_natCast] at this; omega
    have read := number_digits false value rest fits delimited
    rw [whole_number_integer false value ⟨Int.ofNat value, lower, upper⟩ rfl (by simp)] at read
    obtain ⟨first, others, same, _⟩ := digits_head value
    have digit := digits_all_digits value first (by rw [same]; exact List.mem_cons_self)
    obtain ⟨notN, notT, notF, notMinus, _⟩ := digit_not_letter first digit
    simp only [signed, same, List.cons_append] at read ⊢
    simp only [scalar, scalarBody, if_neg notN, if_neg notT, if_neg notF, if_neg notMinus, digit, if_true, read,
      Reading.map]
  | negSucc value =>
    have fits : value + 1 < 0x10000000000000000 := by have := lower; omega
    have read := number_digits true (value + 1) rest fits delimited
    rw [whole_number_integer true (value + 1) ⟨Int.negSucc value, lower, upper⟩ rfl (by simp)] at read
    simp only [signed, List.cons_append]
    rw [scalar]
    simp only [scalarBody, read, Reading.map]
    rfl

theorem signed_opens (i : Integer) : ∃ c rest, signed i.value = c :: rest ∧ NumberStart c := by
  cases i.value with
  | ofNat value =>
    obtain ⟨first, others, same, _⟩ := digits_head value
    exact ⟨first, others, same, Or.inr (digits_all_digits value first (by rw [same]; exact List.mem_cons_self))⟩
  | negSucc value => exact ⟨'-', digits (value + 1), rfl, Or.inl rfl⟩

end NodeProbe.Json
