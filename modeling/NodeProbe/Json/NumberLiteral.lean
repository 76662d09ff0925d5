import NodeProbe.Json.Reader
import NodeProbe.Json.Value

set_option autoImplicit false

namespace NodeProbe.Json

structure Taken where
  significand : Nat
  count : Nat
  rest : List Char

def takeDigits (significand count : Nat) : List Char → Taken
  | [] => ⟨significand, count, []⟩
  | c :: rest =>
    if c.isDigit ∧ 10 * significand + Decimal.digitValue c < 0x10000000000000000 then
      takeDigits (10 * significand + Decimal.digitValue c) (count + 1) rest
    else ⟨significand, count, c :: rest⟩

def skipDigits (text : List Char) : List Char := text.dropWhile Char.isDigit

def startsWithDigit : List Char → Bool
  | [] => false
  | c :: _ => c.isDigit

def powerOfTen (exponent : Nat) : Float := Float.ofScientific 1 false exponent

def shrink (x : Float) (places : Nat) : Float :=
  if places ≤ 308 then x / powerOfTen places
  else if x == 0 then x
  else shrink (x / powerOfTen 308) (places - 308)
termination_by places
decreasing_by omega

def scale? (significand : Nat) (exponent : Int) : Option Float :=
  let x := significand.toUInt64.toFloat
  if exponent < 0 then some (shrink x (-exponent).toNat)
  else if significand = 0 then some x
  else if exponent ≤ 308 then
    let product := x * powerOfTen exponent.toNat
    if product.isInf then none else some product
  else none

def scaled (significand : Nat) (exponent : Int) (rest : List Char) : Reading Float :=
  match scale? significand exponent with
  | some x => .ok (x, rest)
  | none => .error (.before .numberOutOfRange rest)

def takeExponent (value : Nat) : List Char → Option Nat × List Char
  | [] => (some value, [])
  | c :: rest =>
    if c.isDigit then
      if 10 * value + Decimal.digitValue c < 0x80000000 then takeExponent (10 * value + Decimal.digitValue c) rest
      else (none, rest)
    else (some value, c :: rest)

def exponentSign : List Char → Bool × List Char
  | '+' :: rest => (false, rest)
  | '-' :: rest => (true, rest)
  | text => (false, text)

def exponentPart (significand : Nat) (exponent : Int) (text : List Char) : Reading Float :=
  let signed := exponentSign text
  match signed.2 with
  | [] => .error (.before .unfinishedValue [])
  | c :: rest =>
    if c.isDigit then
      match takeExponent (Decimal.digitValue c) rest with
      | (some value, rest) =>
        scaled significand (if signed.1 then exponent - Int.ofNat value else exponent + Int.ofNat value) rest
      | (none, rest) =>
        if significand ≠ 0 ∧ !signed.1 then .error (.before .numberOutOfRange rest)
        else .ok (0, skipDigits rest)
    else .error (.within .invalidNumber (c :: rest))

def floatTail (significand : Nat) (exponent : Int) (text : List Char) : Reading Float :=
  match text with
  | [] => scaled significand exponent []
  | c :: rest =>
    if c = 'e' ∨ c = 'E' then exponentPart significand exponent rest
    else scaled significand exponent (c :: rest)

-- Reads a fraction after its point; `dropped` integer digits are not in the significand.
def fractionPart (significand dropped : Nat) (text : List Char) : Reading Float :=
  match text with
  | [] => .error (.within .unfinishedValue [])
  | c :: rest =>
    if c.isDigit then
      let taken := takeDigits significand 0 (c :: rest)
      floatTail taken.significand (Int.ofNat dropped - Int.ofNat taken.count) (skipDigits taken.rest)
    else .error (.within .invalidNumber (c :: rest))

def negateIf (negative : Bool) (x : Float) : Float := if negative then -x else x

def Reading.number (negative : Bool) (reading : Reading Float) : Reading Number :=
  match reading with
  | .error fault => .error fault
  | .ok (x, rest) => .ok (.float (negateIf negative x), rest)

-- An integer literal as a number; zero with a sign and what 64 bits cannot hold become floats.
def wholeNumber (negative : Bool) (significand : Nat) : Number :=
  let asFloat := Number.float (negateIf negative significand.toUInt64.toFloat)
  if negative ∧ significand = 0 then asFloat
  else
    match Integer.ofInt? (if negative then -Int.ofNat significand else Int.ofNat significand) with
    | some i => .integer i
    | none => asFloat

def number (negative : Bool) (text : List Char) : Reading Number :=
  match text with
  | [] => .error (.before .unfinishedValue [])
  | c :: rest =>
    if !c.isDigit then .error (.within .invalidNumber (c :: rest))
    else if c = '0' ∧ startsWithDigit rest then .error (.within .invalidNumber rest)
    else
      let taken := takeDigits (Decimal.digitValue c) 0 rest
      let dropped := (taken.rest.takeWhile Char.isDigit).length
      match skipDigits taken.rest with
      | '.' :: after => Reading.number negative (fractionPart taken.significand dropped after)
      | after =>
        if dropped = 0 ∧ !(after.head? = some 'e' ∨ after.head? = some 'E') then
          .ok (wholeNumber negative taken.significand, after)
        else Reading.number negative (floatTail taken.significand (Int.ofNat dropped) after)

theorem skipDigits_length (text : List Char) : (skipDigits text).length ≤ text.length :=
  (List.dropWhile_suffix Char.isDigit).length_le

theorem takeDigits_length (text : List Char) (significand count : Nat) :
    (takeDigits significand count text).rest.length ≤ text.length := by
  induction text generalizing significand count with
  | nil => simp [takeDigits]
  | cons c rest ih =>
    rw [takeDigits]
    split
    · exact Nat.le_succ_of_le (ih _ _)
    · simp

theorem takeExponent_length (text : List Char) (value : Nat) :
    (takeExponent value text).2.length ≤ text.length := by
  induction text generalizing value with
  | nil => simp [takeExponent]
  | cons c rest ih =>
    rw [takeExponent]
    split
    · split
      · exact Nat.le_succ_of_le (ih _)
      · simp
    · simp

theorem exponentSign_length (text : List Char) : (exponentSign text).2.length ≤ text.length := by
  unfold exponentSign
  split <;> simp

theorem scaled_rest {significand : Nat} {exponent : Int} {text : List Char} {x : Float}
    {rest : List Char} (read : scaled significand exponent text = .ok (x, rest)) : rest = text := by
  unfold scaled at read
  split at read <;> simp_all

theorem exponentPart_length {significand : Nat} {exponent : Int} {text : List Char} {x : Float}
    {rest : List Char} (read : exponentPart significand exponent text = .ok (x, rest)) :
    rest.length ≤ text.length := by
  have signLength := exponentSign_length text
  unfold exponentPart at read
  dsimp only at read
  split at read
  · simp at read
  · rename_i c after afterSign
    rw [afterSign, List.length_cons] at signLength
    split at read
    · have digitsLength := takeExponent_length after (Decimal.digitValue c)
      split at read
      · rename_i value remaining taken
        rw [taken] at digitsLength
        rw [scaled_rest read]
        simp only at digitsLength
        omega
      · rename_i remaining taken
        rw [taken] at digitsLength
        split at read
        · simp at read
        · simp only [Except.ok.injEq, Prod.mk.injEq] at read
          rw [← read.2]
          have := skipDigits_length remaining
          simp only at digitsLength
          omega
    · simp at read

theorem floatTail_length {significand : Nat} {exponent : Int} {text : List Char} {x : Float}
    {rest : List Char} (read : floatTail significand exponent text = .ok (x, rest)) :
    rest.length ≤ text.length := by
  unfold floatTail at read
  split at read
  · exact Nat.le_of_eq (congrArg List.length (scaled_rest read))
  · split at read
    · exact Nat.le_succ_of_le (exponentPart_length read)
    · exact Nat.le_of_eq (congrArg List.length (scaled_rest read))

theorem fractionPart_length {significand dropped : Nat} {text : List Char} {x : Float}
    {rest : List Char} (read : fractionPart significand dropped text = .ok (x, rest)) :
    rest.length ≤ text.length := by
  unfold fractionPart at read
  dsimp only at read
  split at read
  · simp at read
  · rename_i c after
    split at read
    · have := floatTail_length read
      have := skipDigits_length (takeDigits significand 0 (c :: after)).rest
      have := takeDigits_length (c :: after) significand 0
      omega
    · simp at read

theorem Reading.number_ok {negative : Bool} {reading : Reading Float} {result : Number}
    {rest : List Char} (read : Reading.number negative reading = .ok (result, rest)) :
    ∃ x, reading = .ok (x, rest) := by
  unfold Reading.number at read
  split at read
  · simp at read
  · simp only [Except.ok.injEq, Prod.mk.injEq] at read
    exact ⟨_, by rw [read.2]⟩

theorem number_shortens {negative : Bool} {text : List Char} {result : Number} {rest : List Char}
    (read : number negative text = .ok (result, rest)) : rest.length < text.length := by
  unfold number at read
  dsimp only at read
  split at read
  · simp at read
  · rename_i c after
    have takenLength := takeDigits_length after (Decimal.digitValue c) 0
    have skippedLength := skipDigits_length (takeDigits (Decimal.digitValue c) 0 after).rest
    rw [List.length_cons]
    split at read
    · simp at read
    · split at read
      · simp at read
      · split at read
        · rename_i remaining tail
          rw [tail, List.length_cons] at skippedLength
          obtain ⟨x, inner⟩ := Reading.number_ok read
          have := fractionPart_length inner
          omega
        · split at read
          · simp only [Except.ok.injEq, Prod.mk.injEq] at read
            rw [← read.2]
            omega
          · obtain ⟨x, inner⟩ := Reading.number_ok read
            have := floatTail_length inner
            omega

end NodeProbe.Json
