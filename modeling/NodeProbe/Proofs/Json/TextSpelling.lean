import NodeProbe.Json.Printer
import NodeProbe.Proofs.Json.Layout

set_option autoImplicit false

namespace NodeProbe.Json

def shortEscapes : List (Char × Char) :=
  [('"', '"'), ('\\', '\\'), ('/', '/'), ('b', '\x08'), ('f', '\x0c'), ('n', '\n'), ('r', '\r'), ('t', '\t')]

-- Four hexadecimal digits, upper or lower case, for a 16-bit unit.
inductive UnitSpelling : Nat → List Char → Prop
  | digits {a b c d : Char} {first second third fourth : Nat} : hexValue a = some first →
      hexValue b = some second → hexValue c = some third → hexValue d = some fourth →
      UnitSpelling (4096 * first + 256 * second + 16 * third + fourth) [a, b, c, d]

inductive CharSpelling : Char → List Char → Prop
  | plain {c : Char} : c ≠ '"' → c ≠ '\\' → ¬ c.toNat < 32 → CharSpelling c [c]
  | short {letter c : Char} : (letter, c) ∈ shortEscapes → CharSpelling c ['\\', letter]
  | unit {unit : Nat} {text : List Char} : UnitSpelling unit text → ¬ isTrailing unit → ¬ isLeading unit →
      CharSpelling (Char.ofNat unit) ('\\' :: 'u' :: text)
  | pair {leading trailing : Nat} {first second : List Char} : UnitSpelling leading first →
      UnitSpelling trailing second → isLeading leading → isTrailing trailing →
      CharSpelling (pairChar leading trailing) ('\\' :: 'u' :: (first ++ '\\' :: 'u' :: second))

inductive TextSpelling : List Char → List Char → Prop
  | nil : TextSpelling [] []
  | cons {c : Char} {chars spelled text : List Char} : CharSpelling c spelled → TextSpelling chars text →
      TextSpelling (c :: chars) (spelled ++ text)

theorem hex_unit_spelling {unit : Nat} {text : List Char} (spelled : UnitSpelling unit text) (rest : List Char) :
    hexUnit (text ++ rest) = .ok (unit, rest) := by
  cases spelled with
  | @digits a b c d first second third fourth readA readB readC readD =>
    have fourBytes : ¬ byteLength [a, b, c, d] < 4 := by
      have := a.utf8Size_pos
      have := b.utf8Size_pos
      have := c.utf8Size_pos
      have := d.utf8Size_pos
      simp only [byteLength, List.foldl_cons, List.foldl_nil]
      omega
    simp only [hexUnit, List.cons_append, List.nil_append, List.take_succ_cons, List.take_zero, if_neg fourBytes,
      readA, readB, readC, readD]

theorem leading_not_trailing (unit : Nat) (leading : isLeading unit) : ¬ isTrailing unit := by
  intro trailing
  have := leading.2
  have := trailing.1
  omega

theorem escape_short (letter c : Char) (short : (letter, c) ∈ shortEscapes) (rest : List Char) :
    escape (letter :: rest) = .ok (c, rest) := by
  simp only [shortEscapes, List.mem_cons, Prod.mk.injEq, List.not_mem_nil, or_false] at short
  rcases short with ⟨rfl, rfl⟩ | ⟨rfl, rfl⟩ | ⟨rfl, rfl⟩ | ⟨rfl, rfl⟩ | ⟨rfl, rfl⟩ | ⟨rfl, rfl⟩ | ⟨rfl, rfl⟩ | ⟨rfl, rfl⟩ <;>
    rfl

theorem escape_unit (text : List Char) :
    escape ('u' :: text) =
      match hexUnit text with
      | .error fault => .error fault
      | .ok (unit, rest) =>
        if isTrailing unit then .error (.before .loneSurrogate rest)
        else if isLeading unit then trailingUnit unit rest
        else .ok (Char.ofNat unit, rest) := rfl

theorem char_spelling_read {c : Char} {spelled : List Char} (spelling : CharSpelling c spelled) (before rest : List Char) :
    textBody before (spelled ++ rest) = textBody (c :: before) rest := by
  have escaped : ∀ text, escape (text ++ rest) = .ok (c, rest) →
      textBody before ('\\' :: (text ++ rest)) = textBody (c :: before) rest := by
    intro text read
    rw [textBody, if_neg (by decide), if_pos rfl]
    split
    · simp_all
    · simp_all
  cases spelling with
  | plain notQuote notBackslash visible =>
    simp only [List.cons_append, List.nil_append]
    rw [textBody, if_neg notQuote, if_neg notBackslash, if_neg visible]
  | @short letter _ short => exact escaped [letter] (escape_short letter c short rest)
  | @unit unit text spelledUnit notTrailing notLeading =>
    apply escaped ('u' :: text)
    simp only [List.cons_append, escape_unit, hex_unit_spelling spelledUnit, if_neg notTrailing, if_neg notLeading]
  | @pair leading trailing first second spelledFirst spelledSecond isFirst isSecond =>
    apply escaped ('u' :: (first ++ '\\' :: 'u' :: second))
    simp only [List.cons_append, List.append_assoc, escape_unit, hex_unit_spelling spelledFirst,
      if_neg (leading_not_trailing leading isFirst), if_pos isFirst, trailingUnit, hex_unit_spelling spelledSecond,
      if_pos isSecond]

theorem text_spelling_read {chars text : List Char} (spelling : TextSpelling chars text) (before rest : List Char) :
    textBody before (text ++ '"' :: rest) = .ok (String.ofList (before.reverse ++ chars), rest) := by
  induction spelling generalizing before with
  | nil =>
    rw [List.nil_append, textBody, if_pos rfl, List.append_nil]
  | @cons c chars spelled text spelling _ ih =>
    rw [List.append_assoc, char_spelling_read spelling, ih, List.reverse_cons, List.append_assoc, List.singleton_append]

theorem text_literal_read {text : String} {spelled : List Char} (spelling : TextSpelling text.toList spelled)
    (rest : List Char) : textLiteral.run (spelled ++ '"' :: rest) = .ok (text, rest) := by
  have read := text_spelling_read spelling [] rest
  rw [List.reverse_nil, List.nil_append, String.ofList_toList] at read
  exact read

theorem hex_value_digit : ∀ value < 16, hexValue (hexDigit value) = some value := by decide

theorem control_char_spelling (c : Char) (control : c.toNat < 32) :
    CharSpelling c ['\\', 'u', '0', '0', hexDigit (c.toNat / 16), hexDigit (c.toNat % 16)] := by
  have spelled : UnitSpelling (4096 * 0 + 256 * 0 + 16 * (c.toNat / 16) + c.toNat % 16)
      ['0', '0', hexDigit (c.toNat / 16), hexDigit (c.toNat % 16)] :=
    .digits rfl rfl (hex_value_digit _ (by omega)) (hex_value_digit _ (Nat.mod_lt _ (by decide)))
  have same : 4096 * 0 + 256 * 0 + 16 * (c.toNat / 16) + c.toNat % 16 = c.toNat := by omega
  rw [same] at spelled
  have spelling := CharSpelling.unit spelled (fun trailing => by have := trailing.1; omega)
    (fun leading => by have := leading.1; omega)
  rwa [Char.ofNat_toNat] at spelling

theorem escape_char_spelling (c : Char) : CharSpelling c (escapeChar c) := by
  rw [escapeChar]
  split
  · rename_i marked
    rcases marked with rfl | rfl <;> exact .short (by decide)
  split
  · subst c; exact .short (by decide)
  split
  · subst c; exact .short (by decide)
  split
  · subst c; exact .short (by decide)
  split
  · subst c; exact .short (by decide)
  split
  · subst c; exact .short (by decide)
  split
  · rename_i control
    exact control_char_spelling c control
  · rename_i notMarked _ _ _ _ _ visible
    obtain ⟨notQuote, notBackslash⟩ := not_or.mp notMarked
    exact .plain notQuote notBackslash visible

theorem escape_chars_spelling (chars : List Char) : TextSpelling chars (chars.flatMap escapeChar) := by
  induction chars with
  | nil => exact .nil
  | cons c rest ih => exact .cons (escape_char_spelling c) ih

end NodeProbe.Json
