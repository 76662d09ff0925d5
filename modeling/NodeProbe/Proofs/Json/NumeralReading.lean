import NodeProbe.Proofs.Json.Draft
import Mathlib.Data.List.TakeWhile

set_option autoImplicit false

namespace NodeProbe.Json

variable {α β : Type}

def Reading.outcome : Reading α → Except Cause α
  | .ok (value, _) => .ok value
  | .error fault => .error fault.cause

def Numeral.read (numeral : Numeral) : Except Cause Number := (number numeral.negative numeral.unsigned).outcome

theorem digit_run_cons (c : Char) (run : List Char) :
    DigitRun (c :: run) ↔ c.isDigit = true ∧ ∀ other ∈ run, other.isDigit = true := by
  rw [DigitRun, List.forall_mem_cons]
  exact and_iff_right (List.cons_ne_nil c run)

theorem digit_run_first {run : List Char} (digits : DigitRun run) :
    ∃ first others, run = first :: others ∧ first.isDigit = true ∧ ∀ c ∈ others, c.isDigit = true := by
  obtain ⟨first, others, rfl⟩ := List.exists_cons_of_ne_nil digits.1
  exact ⟨first, others, rfl, (digit_run_cons first others).mp digits⟩

theorem whole_first (numeral : Numeral) :
    ∃ first others, numeral.whole = first :: others ∧ first.isDigit = true ∧ (∀ c ∈ others, c.isDigit = true) ∧
      (first = '0' → others = []) := by
  obtain ⟨first, others, same, digit, otherDigits⟩ := digit_run_first numeral.wholeRun
  refine ⟨first, others, same, digit, otherDigits, ?_⟩
  rintro rfl
  have single := numeral.noLeadingZero (by rw [same]; rfl)
  rw [same] at single
  exact (List.cons.inj single).2

theorem unsigned_first (numeral : Numeral) :
    ∃ first behind, numeral.unsigned = first :: behind ∧ first.isDigit = true := by
  obtain ⟨first, others, same, digit, _⟩ := whole_first numeral
  exact ⟨first, _, by rw [Numeral.unsigned, same, List.cons_append], digit⟩

theorem no_leading_zero {first : Char} {others after : List Char} (onlyZero : first = '0' → others = [])
    (apart : NoDigit after) : ¬ (first = '0' ∧ startsWithDigit (others ++ after) = true) := by
  rintro ⟨zero, more⟩
  rw [onlyZero zero, List.nil_append, starts_with_digit_apart after apart] at more
  exact Bool.false_ne_true more

theorem exponent_no_digit (exponent : Option Exponent) (rest : List Char) (apart : NoDigit rest) :
    NoDigit (exponentText exponent ++ rest) := by
  cases exponent with
  | none => exact apart
  | some exponent =>
    have letter : exponent.letter.isDigit = false := by
      have lettered := exponent.lettered
      rcases lettered with lower | upper
      · rw [lower]
        rfl
      · rw [upper]
        rfl
    exact no_digit_cons _ _ letter

theorem skip_digits_frame (text rest : List Char) (apart : NoDigit rest) :
    skipDigits (text ++ rest) = skipDigits text ++ rest := by
  have behind : rest.dropWhile Char.isDigit = rest := skip_digits_apart rest apart
  rw [skipDigits, skipDigits, List.dropWhile_append, behind]
  split
  · rename_i nothing
    rw [List.isEmpty_iff.mp nothing, List.nil_append]
  · rfl

theorem take_while_frame (text rest : List Char) (apart : NoDigit rest) :
    (text ++ rest).takeWhile Char.isDigit = text.takeWhile Char.isDigit := by
  rw [List.takeWhile_append, take_while_apart rest apart, List.append_nil]
  split
  · rename_i whole
    exact ((List.takeWhile_prefix Char.isDigit).eq_of_length whole).symm
  · rfl

theorem skip_digits_run (run rest : List Char) (allDigits : ∀ c ∈ run, c.isDigit = true) (apart : NoDigit rest) :
    skipDigits (run ++ rest) = rest := by
  rw [skipDigits, List.dropWhile_append_of_pos allDigits]
  exact skip_digits_apart rest apart

theorem take_digits_frame (significand count : Nat) (text rest : List Char) (apart : NoDigit rest) :
    takeDigits significand count (text ++ rest) =
      { takeDigits significand count text with rest := (takeDigits significand count text).rest ++ rest } := by
  induction text generalizing significand count with
  | nil =>
    cases rest with
    | nil => rfl
    | cons c others => simp [takeDigits, apart c rfl]
  | cons c others ih =>
    rw [List.cons_append, takeDigits, takeDigits]
    split
    · exact ih _ _
    · rfl

theorem skip_taken_digits (significand count : Nat) (text : List Char) :
    skipDigits (takeDigits significand count text).rest = skipDigits text := by
  induction text generalizing significand count with
  | nil => rfl
  | cons c others ih =>
    rw [takeDigits]
    split
    · rename_i digit
      rw [ih, skipDigits, skipDigits, List.dropWhile_cons_of_pos digit.1]
    · rfl

theorem exponent_sign_run (sign run rest : List Char) (signed : sign = [] ∨ sign = ['+'] ∨ sign = ['-'])
    (digits : DigitRun run) :
    exponentSign (sign ++ (run ++ rest)) = (decide (sign = ['-']), run ++ rest) := by
  rcases signed with rfl | rfl | rfl
  · obtain ⟨first, others, rfl, digit, _⟩ := digit_run_first digits
    have notPlus : first ≠ '+' := by
      rintro rfl
      cases digit
    have notMinus : first ≠ '-' := by
      rintro rfl
      cases digit
    unfold exponentSign
    split <;> simp_all
  · rfl
  · rfl

theorem take_exponent_run (value : Nat) (run rest : List Char) (allDigits : ∀ c ∈ run, c.isDigit = true)
    (apart : NoDigit rest) :
    (∃ result, takeExponent value (run ++ rest) = (some result, rest) ∧ takeExponent value run = (some result, [])) ∨
      ∃ left, (∀ c ∈ left, c.isDigit = true) ∧ takeExponent value (run ++ rest) = (none, left ++ rest) ∧
        takeExponent value run = (none, left) := by
  induction run generalizing value with
  | nil =>
    refine .inl ⟨value, ?_, rfl⟩
    cases rest with
    | nil => rfl
    | cons c others => simp [takeExponent, apart c rfl]
  | cons c others ih =>
    have inner : ∀ other ∈ others, other.isDigit = true := fun other present => allDigits other (List.mem_cons_of_mem c present)
    have digit := allDigits c List.mem_cons_self
    rw [List.cons_append, takeExponent, takeExponent, if_pos digit, if_pos digit]
    by_cases small : 10 * value + Decimal.digitValue c < 0x80000000
    · rw [if_pos small, if_pos small]
      exact ih _ inner
    · rw [if_neg small, if_neg small]
      exact .inr ⟨others, inner, rfl, rfl⟩

theorem scaled_ends (significand : Nat) (exponent : Int) (rest left : List Char) :
    (scaled significand exponent rest).Ends rest (scaled significand exponent left).outcome := by
  unfold scaled
  cases scale? significand exponent with
  | none => exact ⟨_, rfl⟩
  | some x => rfl

theorem exponent_part_ends (significand : Nat) (power : Int) (exponent : Exponent) (rest : List Char)
    (apart : NoDigit rest) :
    (exponentPart significand power (exponent.sign ++ exponent.digits ++ rest)).Ends rest
      (exponentPart significand power (exponent.sign ++ exponent.digits)).outcome := by
  have signedLong := exponent_sign_run exponent.sign exponent.digits rest exponent.signed exponent.run
  have signedShort := exponent_sign_run exponent.sign exponent.digits [] exponent.signed exponent.run
  rw [List.append_nil] at signedShort
  obtain ⟨first, others, same, digit, otherDigits⟩ := digit_run_first exponent.run
  rw [same] at signedLong signedShort ⊢
  unfold exponentPart
  rw [List.append_assoc, signedLong, signedShort]
  dsimp only [List.cons_append]
  rw [if_pos digit, if_pos digit]
  rcases take_exponent_run (Decimal.digitValue first) others rest otherDigits apart with
    ⟨result, long, short⟩ | ⟨left, leftDigits, long, short⟩
  · rw [long, short]
    exact scaled_ends _ _ _ _
  · rw [long, short]
    dsimp only
    split
    · exact ⟨_, rfl⟩
    · rw [skip_digits_run left rest leftDigits apart]
      rfl

theorem float_tail_ends (significand : Nat) (power : Int) (exponent : Option Exponent) (rest : List Char)
    (delimited : Delimited rest) :
    (floatTail significand power (exponentText exponent ++ rest)).Ends rest
      (floatTail significand power (exponentText exponent)).outcome := by
  cases exponent with
  | none =>
    cases rest with
    | nil => exact scaled_ends _ _ _ _
    | cons c others =>
      obtain ⟨_, _, notLower, notUpper⟩ := delimited c rfl
      have ordinary : ¬ (c = 'e' ∨ c = 'E') := not_or.mpr ⟨notLower, notUpper⟩
      have long : floatTail significand power (c :: others) = scaled significand power (c :: others) := if_neg ordinary
      rw [exponentText, List.nil_append, long]
      exact scaled_ends _ _ _ _
  | some exponent =>
    have lettered := exponent.lettered
    rw [exponentText, Exponent.text, List.cons_append, floatTail, floatTail, if_pos lettered, if_pos lettered]
    exact exponent_part_ends significand power exponent rest (delimited_no_digit rest delimited)

theorem fraction_part_ends (significand dropped : Nat) (run : List Char) (digits : DigitRun run)
    (exponent : Option Exponent) (rest : List Char) (delimited : Delimited rest) :
    (fractionPart significand dropped (run ++ exponentText exponent ++ rest)).Ends rest
      (fractionPart significand dropped (run ++ exponentText exponent)).outcome := by
  obtain ⟨first, others, same, digit, _⟩ := digit_run_first digits
  have apart := delimited_no_digit rest delimited
  have behind : skipDigits (takeDigits significand 0 (run ++ exponentText exponent)).rest = exponentText exponent := by
    have noDigit := exponent_no_digit exponent [] no_digit_nil
    rw [List.append_nil] at noDigit
    rw [skip_taken_digits, skip_digits_run run _ digits.2 noDigit]
  have taken := take_digits_frame significand 0 (run ++ exponentText exponent) rest apart
  rw [same, List.cons_append, List.cons_append] at taken
  rw [same, List.cons_append] at behind
  rw [same, List.cons_append, List.cons_append, fractionPart, fractionPart, if_pos digit, if_pos digit, taken]
  dsimp only
  rw [skip_digits_frame _ rest apart, behind]
  exact float_tail_ends _ _ exponent rest delimited

theorem number_ends {reading short : Reading Float} {rest : List Char} (negative : Bool)
    (ends : reading.Ends rest short.outcome) :
    (Reading.number negative reading).Ends rest (Reading.number negative short).outcome := by
  cases short with
  | error fault =>
    obtain ⟨unread, same⟩ := ends
    exact ⟨unread, by rw [same]; rfl⟩
  | ok taken =>
    have same : reading = .ok (taken.1, rest) := ends
    rw [same]
    rfl

-- What follows the digits of the whole part decides what kind of number it is.
def afterWhole (negative : Bool) (significand dropped : Nat) (after : List Char) : Reading Number :=
  match after with
  | '.' :: fraction => Reading.number negative (fractionPart significand dropped fraction)
  | after =>
    if dropped = 0 ∧ !(after.head? = some 'e' ∨ after.head? = some 'E') then .ok (wholeNumber negative significand, after)
    else Reading.number negative (floatTail significand (Int.ofNat dropped) after)

theorem number_after_whole (negative : Bool) (first : Char) (rest : List Char) (digit : first.isDigit = true)
    (noLeadingZero : ¬ (first = '0' ∧ startsWithDigit rest = true)) :
    number negative (first :: rest) =
      afterWhole negative (takeDigits (Decimal.digitValue first) 0 rest).significand
        ((takeDigits (Decimal.digitValue first) 0 rest).rest.takeWhile Char.isDigit).length (skipDigits rest) := by
  rw [number, if_neg (by rw [digit]; exact Bool.false_ne_true), if_neg noLeadingZero]
  dsimp only
  rw [skip_taken_digits]
  rfl

theorem after_whole_plain (negative : Bool) (significand dropped : Nat) (after : List Char) (delimited : Delimited after) :
    afterWhole negative significand dropped after =
      if dropped = 0 then .ok (wholeNumber negative significand, after)
      else Reading.number negative (floatTail significand (Int.ofNat dropped) after) := by
  cases after with
  | nil => simp [afterWhole]
  | cons c others =>
    obtain ⟨_, notPoint, notLower, notUpper⟩ := delimited c rfl
    unfold afterWhole
    split
    · rename_i same
      exact absurd (List.cons.inj same).1 notPoint
    · simp [notLower, notUpper]

theorem after_whole_exponent (negative : Bool) (significand dropped : Nat) (letter : Char) (after : List Char)
    (lettered : letter = 'e' ∨ letter = 'E') :
    afterWhole negative significand dropped (letter :: after) =
      Reading.number negative (floatTail significand (Int.ofNat dropped) (letter :: after)) := by
  rcases lettered with rfl | rfl <;> simp [afterWhole]

theorem after_whole_ends (negative : Bool) (significand dropped : Nat) (fraction : Option (List Char))
    (runs : ∀ digits ∈ fraction, DigitRun digits) (exponent : Option Exponent) (rest : List Char)
    (delimited : Delimited rest) :
    (afterWhole negative significand dropped (fractionText fraction ++ exponentText exponent ++ rest)).Ends rest
      (afterWhole negative significand dropped (fractionText fraction ++ exponentText exponent)).outcome := by
  cases fraction with
  | some digits =>
    exact number_ends negative
      (fraction_part_ends significand dropped digits (runs digits rfl) exponent rest delimited)
  | none =>
    have tail := number_ends negative (float_tail_ends significand (Int.ofNat dropped) exponent rest delimited)
    cases exponent with
    | some exponent =>
      have lettered := exponent.lettered
      rw [fractionText, List.nil_append, exponentText, Exponent.text, List.cons_append,
        after_whole_exponent negative significand dropped _ _ lettered,
        after_whole_exponent negative significand dropped _ _ lettered]
      exact tail
    | none =>
      rw [fractionText, List.nil_append, exponentText, List.nil_append,
        after_whole_plain negative significand dropped rest delimited,
        after_whole_plain negative significand dropped [] delimited_nil]
      by_cases whole : dropped = 0
      · rw [if_pos whole, if_pos whole]
        rfl
      · rw [if_neg whole, if_neg whole]
        exact tail

theorem fraction_no_digit (fraction : Option (List Char)) (rest : List Char) (apart : NoDigit rest) :
    NoDigit (fractionText fraction ++ rest) := by
  cases fraction with
  | none => exact apart
  | some digits => exact no_digit_cons '.' _ rfl

theorem numeral_ends (numeral : Numeral) (rest : List Char) (delimited : Delimited rest) :
    (number numeral.negative (numeral.unsigned ++ rest)).Ends rest numeral.read := by
  obtain ⟨first, others, same, digit, otherDigits, onlyZero⟩ := whole_first numeral
  have apart := delimited_no_digit rest delimited
  -- With or without a rest behind it, the whole part ends where it ends, and has a leading zero or not.
  have tailApart : ∀ after, NoDigit after →
      NoDigit (fractionText numeral.fraction ++ exponentText numeral.exponent ++ after) := by
    intro after noDigit
    rw [List.append_assoc]
    exact fraction_no_digit _ _ (exponent_no_digit _ _ noDigit)
  have alone := tailApart [] no_digit_nil
  rw [List.append_nil] at alone
  have text : numeral.unsigned = first :: (others ++ (fractionText numeral.fraction ++ exponentText numeral.exponent)) := by
    rw [Numeral.unsigned, same, List.cons_append]
  have short := number_after_whole numeral.negative first _ digit (no_leading_zero onlyZero alone)
  have long := number_after_whole numeral.negative first _ digit (no_leading_zero onlyZero (tailApart rest apart))
  rw [Numeral.read, text, List.cons_append, List.append_assoc, short, long, skip_digits_run others _ otherDigits alone,
    skip_digits_run others _ otherDigits (tailApart rest apart), ← List.append_assoc, take_digits_frame _ _ _ rest apart]
  dsimp only
  rw [take_while_frame _ rest apart]
  exact after_whole_ends _ _ _ numeral.fraction numeral.fractionRun numeral.exponent rest delimited

theorem numeral_integer (numeral : Numeral) (integer : numeral.IsInteger) :
    numeral.read = .ok (.integer ⟨numeral.value, integer.2.2.2.1, integer.2.2.2.2⟩) := by
  obtain ⟨noFraction, noExponent, noSignedZero, lower, upper⟩ := integer
  obtain ⟨first, others, same, _, _, onlyZero⟩ := whole_first numeral
  have text : numeral.unsigned = first :: others ++ [] := by
    rw [Numeral.unsigned, noFraction, noExponent, same]
    rfl
  have value : (if numeral.negative then -Int.ofNat (Nat.ofDigitChars 10 (first :: others) 0)
      else Int.ofNat (Nat.ofDigitChars 10 (first :: others) 0)) = numeral.value := by
    rw [Numeral.value, same]
  have fits : Nat.ofDigitChars 10 (first :: others) 0 < 0x10000000000000000 := by
    rw [← value] at lower upper
    cases sign : numeral.negative with
    | true =>
      rw [sign, if_pos rfl, Int.ofNat_eq_natCast] at lower
      omega
    | false =>
      rw [sign, if_neg Bool.false_ne_true, Int.ofNat_eq_natCast] at upper
      omega
  have signed : ¬ (numeral.negative = true ∧ Nat.ofDigitChars 10 (first :: others) 0 = 0) := by
    rintro ⟨negative, zero⟩
    rw [← value, zero] at noSignedZero
    exact noSignedZero ⟨negative, by split <;> rfl⟩
  have read := number_run numeral.negative first others [] (same ▸ numeral.wholeRun.2) onlyZero fits delimited_nil
  rw [whole_number_integer numeral.negative _ ⟨numeral.value, lower, upper⟩ value signed] at read
  rw [Numeral.read, text, read]
  rfl

theorem take_digits_all (significand count : Nat) (run : List Char) (allDigits : ∀ c ∈ run, c.isDigit = true)
    (all : ((takeDigits significand count run).rest.takeWhile Char.isDigit).length = 0) :
    (takeDigits significand count run).significand = Nat.ofDigitChars 10 run significand := by
  induction run generalizing significand count with
  | nil => rfl
  | cons c others ih =>
    obtain ⟨digit, otherDigits⟩ := List.forall_mem_cons.mp allDigits
    rw [takeDigits] at all ⊢
    split at all
    · rename_i fits
      rw [if_pos fits]
      exact ih _ _ otherDigits all
    · rw [List.takeWhile_cons_of_pos digit] at all
      cases all

theorem integer_of_int (value : Int) (i : Integer) (given : Integer.ofInt? value = some i) : i.value = value := by
  unfold Integer.ofInt? at given
  split at given
  · exact (congrArg Integer.value (Option.some.inj given)).symm
  · cases given

theorem whole_number_value (negative : Bool) (significand : Nat) (i : Integer)
    (whole : wholeNumber negative significand = .integer i) :
    ¬ (negative = true ∧ significand = 0) ∧
      i.value = if negative then -Int.ofNat significand else Int.ofNat significand := by
  unfold wholeNumber at whole
  dsimp only at whole
  by_cases signed : negative = true ∧ significand = 0
  · rw [if_pos signed] at whole
    cases whole
  · rw [if_neg signed] at whole
    refine ⟨signed, ?_⟩
    cases given : Integer.ofInt? (if negative then -Int.ofNat significand else Int.ofNat significand) with
    | none =>
      rw [given] at whole
      cases whole
    | some own =>
      rw [given] at whole
      cases whole
      exact integer_of_int _ i given

theorem number_no_integer (negative : Bool) (reading : Reading Float) (i : Integer) :
    (Reading.number negative reading).outcome ≠ .ok (.integer i) := by
  cases reading <;> exact nofun

theorem integer_numeral (numeral : Numeral) (i : Integer) (read : numeral.read = .ok (.integer i)) :
    numeral.IsInteger ∧ i.value = numeral.value := by
  obtain ⟨first, others, same, digit, otherDigits, onlyZero⟩ := whole_first numeral
  have apart := fraction_no_digit numeral.fraction _ (exponent_no_digit numeral.exponent [] no_digit_nil)
  rw [List.append_nil] at apart
  rw [Numeral.read, Numeral.unsigned, same, List.cons_append, number_after_whole _ _ _ digit (no_leading_zero onlyZero apart),
    skip_digits_run others _ otherDigits apart] at read
  cases fraction : numeral.fraction with
  | some digits =>
    rw [fraction] at read
    exact absurd read (number_no_integer _ _ i)
  | none =>
    cases power : numeral.exponent with
    | some exponent =>
      have lettered := exponent.lettered
      rw [fraction, power, fractionText, List.nil_append, exponentText, Exponent.text,
        after_whole_exponent _ _ _ _ _ lettered] at read
      exact absurd read (number_no_integer _ _ i)
    | none =>
      rw [fraction, power, fractionText, exponentText, List.nil_append, List.append_nil,
        after_whole_plain _ _ _ [] delimited_nil] at read
      split at read
      · rename_i all
        have whole : wholeNumber numeral.negative (takeDigits (Decimal.digitValue first) 0 others).significand =
            .integer i := Except.ok.inj read
        have folded : Nat.ofDigitChars 10 others (Decimal.digitValue first) = Nat.ofDigitChars 10 numeral.whole 0 := by
          rw [same]
          simp only [of_digits_cons, Nat.mul_zero, Nat.zero_add]
        rw [take_digits_all _ _ _ otherDigits all, folded] at whole
        obtain ⟨unsigned, value⟩ := whole_number_value _ _ i whole
        have own : i.value = numeral.value := value
        refine ⟨⟨fraction, power, ?_, own ▸ i.lower, own ▸ i.upper⟩, own⟩
        rintro ⟨negative, zero⟩
        rw [Numeral.value, if_pos negative] at zero
        exact unsigned ⟨negative, Int.ofNat.inj (Int.neg_eq_zero.mp zero)⟩
      · exact absurd read (number_no_integer _ _ i)

/-! What is read of a number is a numeral. -/

theorem digits_split (text : List Char) : ∃ run, (∀ c ∈ run, c.isDigit = true) ∧ text = run ++ skipDigits text :=
  ⟨text.takeWhile Char.isDigit, fun _ present => List.mem_takeWhile_imp present, List.takeWhile_append_dropWhile.symm⟩

theorem exponent_sign_split (text : List Char) :
    ∃ sign, (sign = [] ∨ sign = ['+'] ∨ sign = ['-']) ∧ text = sign ++ (exponentSign text).2 := by
  unfold exponentSign
  split
  · exact ⟨['+'], .inr (.inl rfl), rfl⟩
  · exact ⟨['-'], .inr (.inr rfl), rfl⟩
  · exact ⟨[], .inl rfl, rfl⟩

theorem take_exponent_split (value : Nat) (text : List Char) :
    ∃ run, (∀ c ∈ run, c.isDigit = true) ∧ text = run ++ (takeExponent value text).2 := by
  induction text generalizing value with
  | nil => exact ⟨[], nofun, rfl⟩
  | cons c others ih =>
    rw [takeExponent]
    by_cases digit : c.isDigit = true
    · rw [if_pos digit]
      split
      · obtain ⟨run, allDigits, same⟩ := ih (10 * value + Decimal.digitValue c)
        exact ⟨c :: run, List.forall_mem_cons.mpr ⟨digit, allDigits⟩, congrArg (List.cons c) same⟩
      · exact ⟨[c], List.forall_mem_singleton.mpr digit, rfl⟩
    · rw [if_neg digit]
      exact ⟨[], nofun, rfl⟩

theorem exponent_part_split {significand : Nat} {power : Int} {text rest : List Char} {x : Float}
    (read : exponentPart significand power text = .ok (x, rest)) :
    ∃ sign run, (sign = [] ∨ sign = ['+'] ∨ sign = ['-']) ∧ DigitRun run ∧ text = sign ++ run ++ rest := by
  obtain ⟨sign, signed, same⟩ := exponent_sign_split text
  unfold exponentPart at read
  dsimp only at read
  cases unsigned : (exponentSign text).2 with
  | nil =>
    rw [unsigned] at read
    cases read
  | cons first others =>
    rw [unsigned] at read same
    by_cases digit : first.isDigit = true
    · dsimp only at read
      rw [if_pos digit] at read
      obtain ⟨run, allDigits, taken⟩ := take_exponent_split (Decimal.digitValue first) others
      have behind : ∃ more, (∀ c ∈ more, c.isDigit = true) ∧
          (takeExponent (Decimal.digitValue first) others).2 = more ++ rest := by
        cases exponent : takeExponent (Decimal.digitValue first) others with
        | mk result left =>
          rw [exponent] at read
          cases result with
          | some value => exact ⟨[], nofun, (scaled_rest read).symm⟩
          | none =>
            dsimp only at read
            split at read
            · cases read
            · obtain ⟨more, moreDigits, split⟩ := digits_split left
              cases read
              exact ⟨more, moreDigits, split⟩
      obtain ⟨more, moreDigits, left⟩ := behind
      refine ⟨sign, first :: (run ++ more), signed, (digit_run_cons _ _).mpr ⟨digit, ?_⟩, ?_⟩
      · exact List.forall_mem_append.mpr ⟨allDigits, moreDigits⟩
      · rw [same, taken, left]
        simp only [List.append_assoc, List.cons_append]
    · dsimp only at read
      rw [if_neg digit] at read
      cases read

theorem float_tail_split {significand : Nat} {power : Int} {text rest : List Char} {x : Float}
    (read : floatTail significand power text = .ok (x, rest)) : ∃ exponent, text = exponentText exponent ++ rest := by
  cases text with
  | nil => exact ⟨none, (scaled_rest read).symm⟩
  | cons c others =>
    by_cases lettered : c = 'e' ∨ c = 'E'
    · rw [floatTail, if_pos lettered] at read
      obtain ⟨sign, run, signed, digits, rfl⟩ := exponent_part_split read
      exact ⟨some ⟨c, sign, run, lettered, signed, digits⟩, rfl⟩
    · rw [floatTail, if_neg lettered] at read
      exact ⟨none, (scaled_rest read).symm⟩

theorem fraction_part_split {significand dropped : Nat} {text rest : List Char} {x : Float}
    (read : fractionPart significand dropped text = .ok (x, rest)) :
    ∃ run exponent, DigitRun run ∧ text = run ++ exponentText exponent ++ rest := by
  cases text with
  | nil => cases read
  | cons first others =>
    by_cases digit : first.isDigit = true
    · rw [fractionPart, if_pos digit] at read
      dsimp only at read
      rw [skip_taken_digits] at read
      obtain ⟨exponent, behind⟩ := float_tail_split read
      obtain ⟨run, allDigits, same⟩ := digits_split others
      have skipped : skipDigits (first :: others) = skipDigits others := List.dropWhile_cons_of_pos digit
      refine ⟨first :: run, exponent, (digit_run_cons first run).mpr ⟨digit, allDigits⟩, ?_⟩
      rw [List.append_assoc, ← behind, skipped, List.cons_append, ← same]
    · rw [fractionPart, if_neg digit] at read
      cases read

theorem after_whole_split {negative : Bool} {significand dropped : Nat} {after rest : List Char} {result : Number}
    (read : afterWhole negative significand dropped after = .ok (result, rest)) :
    ∃ fraction exponent, (∀ digits ∈ fraction, DigitRun digits) ∧
      after = fractionText fraction ++ exponentText exponent ++ rest := by
  unfold afterWhole at read
  split at read
  · obtain ⟨x, inner⟩ := Reading.number_ok read
    obtain ⟨run, exponent, digits, same⟩ := fraction_part_split inner
    refine ⟨some run, exponent, ?_, by rw [same]; rfl⟩
    intro own present
    cases present
    exact digits
  · split at read
    · cases read
      exact ⟨none, none, nofun, rfl⟩
    · obtain ⟨x, inner⟩ := Reading.number_ok read
      obtain ⟨exponent, same⟩ := float_tail_split inner
      exact ⟨none, exponent, nofun, same⟩

theorem numeral_behind_digit (negative : Bool) {first : Char} {others rest : List Char} (digit : first.isDigit = true)
    (noLeadingZero : ¬ (first = '0' ∧ startsWithDigit others = true)) {fraction : Option (List Char)}
    {exponent : Option Exponent} (runs : ∀ digits ∈ fraction, DigitRun digits)
    (behind : skipDigits others = fractionText fraction ++ exponentText exponent ++ rest) :
    ∃ numeral : Numeral, numeral.negative = negative ∧ first :: others = numeral.unsigned ++ rest := by
  obtain ⟨run, allDigits, same⟩ := digits_split others
  have wholeRun := (digit_run_cons first run).mpr ⟨digit, allDigits⟩
  refine ⟨⟨negative, first :: run, fraction, exponent, wholeRun, ?_, runs⟩, rfl, ?_⟩
  · intro zero
    cases run with
    | nil => exact congrArg (· :: []) (Option.some.inj zero)
    | cons second more =>
      have starts : startsWithDigit others = true := by
        rw [same]
        exact allDigits second List.mem_cons_self
      exact absurd ⟨Option.some.inj zero, starts⟩ noLeadingZero
  · rw [Numeral.unsigned, List.cons_append, List.cons_append, List.append_assoc, ← behind, ← same]

theorem number_split {negative : Bool} {text rest : List Char} {result : Number}
    (read : number negative text = .ok (result, rest)) :
    ∃ numeral : Numeral, numeral.negative = negative ∧ text = numeral.unsigned ++ rest := by
  cases text with
  | nil => cases read
  | cons first others =>
    by_cases digit : first.isDigit = true
    · by_cases leadingZero : first = '0' ∧ startsWithDigit others = true
      · rw [number, if_neg (by rw [digit]; exact Bool.false_ne_true), if_pos leadingZero] at read
        cases read
      · rw [number_after_whole negative first others digit leadingZero] at read
        obtain ⟨fraction, exponent, runs, behind⟩ := after_whole_split read
        exact numeral_behind_digit negative digit leadingZero runs behind
    · rw [number, if_pos (by simpa using digit)] at read
      cases read

end NodeProbe.Json
