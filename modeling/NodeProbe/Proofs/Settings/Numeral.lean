import NodeProbe.Proofs.Json.Draft
import NodeProbe.Settings
import Mathlib.Data.List.Induction

set_option autoImplicit false

namespace NodeProbe

open Decimal Json

namespace Numeral

def limit : Nat := 0x10000000000000000

structure Legible (value : Nat) (run : List Char) : Prop where
  digits : ∀ c ∈ run, c.isDigit = true
  fits : Nat.ofDigitChars 10 run value < limit

-- Where reading on from a value stops: all is well in front of a character, and with it no longer.
inductive Stops (value : Nat) : List Char → NumeralFault → Prop
  | badDigit {before after : List Char} {c : Char} : Legible value before → c.isDigit = false →
      Stops value (before ++ c :: after) .badDigit
  | tooLarge {before after : List Char} {c : Char} : Legible value before → c.isDigit = true →
      limit ≤ Nat.ofDigitChars 10 (before ++ [c]) value → Stops value (before ++ c :: after) .tooLarge

theorem of_digits_snoc (value : Nat) (run : List Char) (c : Char) :
    Nat.ofDigitChars 10 (run ++ [c]) value = 10 * Nat.ofDigitChars 10 run value + (c.toNat - 48) :=
  Nat.ofDigitChars_append value

theorem stops_append {value : Nat} {text : List Char} {fault : NumeralFault} (stops : Stops value text fault)
    (more : List Char) : Stops value (text ++ more) fault := by
  cases stops with
  | badDigit legible other =>
    rw [List.append_assoc]
    exact .badDigit legible other
  | tooLarge legible digit past =>
    rw [List.append_assoc]
    exact .tooLarge legible digit past

theorem legible_or_stops (value : Nat) (text : List Char) (fits : value < limit) :
    Legible value text ∨ ∃ fault, Stops value text fault := by
  induction text using List.reverseRecOn with
  | nil => exact .inl ⟨nofun, fits⟩
  | append_singleton run c ih =>
    rcases ih with legible | ⟨fault, stops⟩
    · cases digit : c.isDigit with
      | false => exact .inr ⟨_, .badDigit legible digit⟩
      | true =>
        rcases Nat.lt_or_ge (Nat.ofDigitChars 10 (run ++ [c]) value) limit with small | past
        · exact .inl ⟨List.forall_mem_append.mpr ⟨legible.digits, List.forall_mem_singleton.mpr digit⟩, small⟩
        · exact .inr ⟨_, .tooLarge legible digit past⟩
    · exact .inr ⟨fault, stops_append stops [c]⟩

theorem read_other {c : Char} (value : Nat) (rest : List Char) (other : c.isDigit = false) :
    readDigits value (c :: rest) = .error .badDigit := by
  rw [readDigits, other, Bool.not_false, if_pos rfl]

theorem read_digit {c : Char} (value : Nat) (rest : List Char) (digit : c.isDigit = true) :
    readDigits value (c :: rest) =
      if 10 * value + (c.toNat - 48) < limit then readDigits (10 * value + (c.toNat - 48)) rest
      else .error .tooLarge := by
  rw [readDigits, digit, Bool.not_true, if_neg Bool.false_ne_true]
  rfl

theorem read_digits_legible {value : Nat} {run : List Char} (legible : Legible value run) (rest : List Char) :
    readDigits value (run ++ rest) = readDigits (Nat.ofDigitChars 10 run value) rest := by
  induction run generalizing value with
  | nil => rfl
  | cons c run ih =>
    obtain ⟨digit, others⟩ := List.forall_mem_cons.mp legible.digits
    have later : Legible (10 * value + (c.toNat - 48)) run := ⟨others, legible.fits⟩
    have small := Nat.lt_of_le_of_lt (of_digits_ge _ run) later.fits
    rw [List.cons_append, read_digit value _ digit, if_pos small, ih later]
    rfl

theorem read_digits_stops {value : Nat} {text : List Char} {fault : NumeralFault} (stops : Stops value text fault) :
    readDigits value text = .error fault := by
  cases stops with
  | badDigit legible other => rw [read_digits_legible legible, read_other _ _ other]
  | tooLarge legible digit past =>
    rw [of_digits_snoc] at past
    rw [read_digits_legible legible, read_digit _ _ digit, if_neg (Nat.not_lt_of_le past)]

theorem read_digits_all {value : Nat} {run : List Char} (legible : Legible value run) :
    readDigits value run = .ok (Nat.ofDigitChars 10 run value) := by
  have read := read_digits_legible legible []
  rwa [List.append_nil] at read

-- Digits with any number of zeros in front of them, and with or without a plus sign in front of it all.
def Spells (text : String) (value : Nat) : Prop :=
  ∃ sign run, (sign = [] ∨ sign = ['+']) ∧ text.toList = sign ++ run ∧ DigitRun run ∧ Nat.ofDigitChars 10 run 0 = value ∧
    value < limit

-- What is read as digits. A plus sign in front is left out, unless it is the whole text.
def behindPlus : List Char → List Char
  | '+' :: first :: rest => first :: rest
  | text => text

inductive Refused : String → NumeralFault → Prop
  | empty : Refused "" .empty
  | stops {text : String} {fault : NumeralFault} : text ≠ "" → Stops 0 (behindPlus text.toList) fault →
      Refused text fault

theorem read_unsigned_digits (text : List Char) (present : text ≠ []) :
    readUnsigned text = readDigits 0 (behindPlus text) := by
  unfold readUnsigned behindPlus
  split
  · exact absurd rfl present
  · rfl
  · rename_i digits lone
    cases digits with
    | nil => exact absurd rfl lone
    | cons first rest => rfl
  · rename_i empty lone plus
    split
    · exact absurd rfl (plus _)
    · rfl

theorem behind_plus_split (text : List Char) (present : text ≠ []) :
    ∃ sign, (sign = [] ∨ sign = ['+']) ∧ text = sign ++ behindPlus text ∧ behindPlus text ≠ [] := by
  unfold behindPlus
  split
  · exact ⟨['+'], .inr rfl, rfl, List.cons_ne_nil _ _⟩
  · exact ⟨[], .inl rfl, rfl, present⟩

theorem behind_plus_run {sign run : List Char} (signed : sign = [] ∨ sign = ['+']) (digits : DigitRun run) :
    behindPlus (sign ++ run) = run := by
  obtain ⟨first, rest, rfl⟩ := List.exists_cons_of_ne_nil digits.1
  rcases signed with rfl | rfl
  · have other : first ≠ '+' := by
      rintro rfl
      exact absurd (digits.2 '+' List.mem_cons_self) (by decide)
    rw [List.nil_append, behindPlus]
    rintro _ _ same
    exact other (List.cons.inj same).1
  · rfl

theorem spells_iff (text : String) (value : Nat) :
    Spells text value ↔ text ≠ "" ∧ Legible 0 (behindPlus text.toList) ∧
      Nat.ofDigitChars 10 (behindPlus text.toList) 0 = value := by
  constructor
  · rintro ⟨sign, run, signed, split, digits, rfl, fits⟩
    have read : behindPlus text.toList = run := by rw [split, behind_plus_run signed digits]
    rw [read]
    refine ⟨?_, ⟨digits.2, fits⟩, rfl⟩
    rintro rfl
    exact digits.1 (List.append_eq_nil_iff.mp split.symm).2
  · rintro ⟨present, legible, rfl⟩
    obtain ⟨sign, signed, split, filled⟩ :=
      behind_plus_split text.toList fun empty => present (String.toList_eq_nil_iff.mp empty)
    exact ⟨sign, _, signed, split, ⟨filled, legible.digits⟩, rfl, legible.fits⟩

theorem read_unsigned_ok_iff (text : String) (value : Nat) :
    readUnsigned text.toList = .ok value ↔ Spells text value := by
  rw [spells_iff]
  by_cases present : text = ""
  · subst present
    exact ⟨nofun, fun spells => absurd rfl spells.1⟩
  · rw [read_unsigned_digits _ fun empty => present (String.toList_eq_nil_iff.mp empty)]
    rcases legible_or_stops 0 (behindPlus text.toList) (by decide) with legible | ⟨fault, stops⟩
    · rw [read_digits_all legible, Except.ok.injEq]
      exact ⟨fun same => ⟨present, legible, same⟩, fun spells => spells.2.2⟩
    · rw [read_digits_stops stops]
      refine ⟨nofun, ?_⟩
      rintro ⟨_, legible, _⟩
      cases (read_digits_stops stops).symm.trans (read_digits_all legible)

theorem read_unsigned_error_iff (text : String) (fault : NumeralFault) :
    readUnsigned text.toList = .error fault ↔ Refused text fault := by
  by_cases present : text = ""
  · subst present
    constructor
    · intro same
      cases same
      exact .empty
    · rintro (_ | ⟨present, _⟩)
      · rfl
      · exact absurd rfl present
  · rw [read_unsigned_digits _ fun empty => present (String.toList_eq_nil_iff.mp empty)]
    constructor
    · intro failed
      rcases legible_or_stops 0 (behindPlus text.toList) (by decide) with legible | ⟨own, stops⟩
      · cases failed.symm.trans (read_digits_all legible)
      · cases failed.symm.trans (read_digits_stops stops)
        exact .stops present stops
    · rintro (_ | ⟨_, stops⟩)
      · exact absurd rfl present
      · exact read_digits_stops stops

theorem parse_ok_iff (text : String) (word : UInt64) : parse text = .ok word ↔ Spells text word.toNat := by
  rw [← read_unsigned_ok_iff, parse]
  cases read : readUnsigned text.toList with
  | error fault => exact ⟨nofun, nofun⟩
  | ok value =>
    obtain ⟨_, _, _, _, _, _, fits⟩ := (read_unsigned_ok_iff text value).mp read
    have back : (UInt64.ofNat value).toNat = value := UInt64.toNat_ofNat_of_lt' fits
    constructor
    · intro same
      cases same
      rw [back]
    · intro same
      cases same
      exact congrArg Except.ok UInt64.ofNat_toNat

theorem parse_error_iff (text : String) (fault : NumeralFault) : parse text = .error fault ↔ Refused text fault := by
  rw [← read_unsigned_error_iff, parse]
  cases readUnsigned text.toList with
  | error own => exact Iff.rfl.trans (by rw [Except.map, Except.error.injEq, Except.error.injEq])
  | ok value => exact ⟨nofun, nofun⟩

example : parse "+18446744073709551615x0" = .error .badDigit := by decide +kernel

end Numeral

end NodeProbe
