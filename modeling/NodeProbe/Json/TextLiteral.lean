import NodeProbe.Json.Reader

set_option autoImplicit false

namespace NodeProbe.Json

def hexValue (c : Char) : Option Nat :=
  if '0' ≤ c ∧ c ≤ '9' then some (c.toNat - 48)
  else if 'a' ≤ c ∧ c ≤ 'f' then some (c.toNat - 87)
  else if 'A' ≤ c ∧ c ≤ 'F' then some (c.toNat - 55)
  else none

-- The unit that four hexadecimal digits name, and the text after them. Other characters are refused once
-- the four bytes are read.
def hexUnit (text : List Char) : Reading Nat :=
  if byteLength (text.take 4) < 4 then .error (.before .unfinishedText [])
  else
    match text with
    | a :: b :: c :: d :: rest =>
      match hexValue a, hexValue b, hexValue c, hexValue d with
      | some a, some b, some c, some d => .ok (4096 * a + 256 * b + 16 * c + d, rest)
      | _, _, _, _ => .error ⟨.invalidEscape, byteLength text - 4⟩
    | _ => .error ⟨.invalidEscape, byteLength text - 4⟩

def isLeading (unit : Nat) : Prop := 0xD800 ≤ unit ∧ unit < 0xDC00

def isTrailing (unit : Nat) : Prop := 0xDC00 ≤ unit ∧ unit < 0xE000

instance (unit : Nat) : Decidable (isLeading unit) := inferInstanceAs (Decidable (_ ∧ _))

instance (unit : Nat) : Decidable (isTrailing unit) := inferInstanceAs (Decidable (_ ∧ _))

def pairChar (leading trailing : Nat) : Char :=
  Char.ofNat (0x10000 + 0x400 * (leading - 0xD800) + (trailing - 0xDC00))

def trailingUnit (leading : Nat) (text : List Char) : Reading Char :=
  match text with
  | [] => .error (.before .unfinishedText [])
  | '\\' :: [] => .error (.before .unfinishedText [])
  | '\\' :: 'u' :: rest =>
    match hexUnit rest with
    | .error fault => .error fault
    | .ok (trailing, rest) =>
      if isTrailing trailing then .ok (pairChar leading trailing, rest)
      else .error (.before .loneSurrogate rest)
  | '\\' :: other => .error (.within .unfinishedSurrogate other)
  | other => .error (.within .unfinishedSurrogate other)

def escape (text : List Char) : Reading Char :=
  match text with
  | [] => .error (.before .unfinishedText [])
  | c :: rest =>
    if c = '"' ∨ c = '\\' ∨ c = '/' then .ok (c, rest)
    else if c = 'b' then .ok ('\x08', rest)
    else if c = 'f' then .ok ('\x0c', rest)
    else if c = 'n' then .ok ('\n', rest)
    else if c = 'r' then .ok ('\r', rest)
    else if c = 't' then .ok ('\t', rest)
    else if c = 'u' then
      match hexUnit rest with
      | .error fault => .error fault
      | .ok (unit, rest) =>
        if isTrailing unit then .error (.before .loneSurrogate rest)
        else if isLeading unit then trailingUnit unit rest
        else .ok (Char.ofNat unit, rest)
    else .error (.within .invalidEscape (c :: rest))

theorem hexUnit_shortens {text : List Char} {unit : Nat} {rest : List Char}
    (read : hexUnit text = .ok (unit, rest)) : rest.length < text.length := by
  unfold hexUnit at read
  split at read
  · simp at read
  · split at read
    · split at read
      · simp only [Except.ok.injEq, Prod.mk.injEq] at read
        rw [← read.2]
        simp only [List.length_cons]
        omega
      · simp at read
    · simp at read

theorem trailingUnit_shortens {leading : Nat} {text : List Char} {value : Char} {rest : List Char}
    (read : trailingUnit leading text = .ok (value, rest)) : rest.length < text.length := by
  unfold trailingUnit at read
  split at read
  · simp at read
  · simp at read
  · split at read
    · simp at read
    · rename_i second
      have shorter := hexUnit_shortens second
      split at read
      · simp only [Except.ok.injEq, Prod.mk.injEq] at read
        rw [← read.2]
        simp only [List.length_cons]
        omega
      · simp at read
  · simp at read
  · simp at read

theorem escape_shortens {text : List Char} {value : Char} {rest : List Char}
    (read : escape text = .ok (value, rest)) : rest.length < text.length := by
  unfold escape at read
  split at read
  · simp at read
  · rename_i c after
    have shortened {unit : Char} (same : (.ok (unit, after) : Reading Char) = .ok (value, rest)) :
        rest.length < (c :: after).length := by
      simp only [Except.ok.injEq, Prod.mk.injEq] at same
      rw [← same.2]
      simp
    split at read; · exact shortened read
    split at read; · exact shortened read
    split at read; · exact shortened read
    split at read; · exact shortened read
    split at read; · exact shortened read
    split at read; · exact shortened read
    split at read
    · split at read
      · simp at read
      · rename_i first
        have shorter := hexUnit_shortens first
        rw [List.length_cons]
        split at read
        · simp at read
        · split at read
          · have := trailingUnit_shortens read
            omega
          · simp only [Except.ok.injEq, Prod.mk.injEq] at read
            rw [← read.2]
            omega
    · simp at read

def textBody (before : List Char) (text : List Char) : Reading String :=
  match text with
  | [] => .error (.before .unfinishedText [])
  | c :: rest =>
    if c = '"' then .ok (String.ofList before.reverse, rest)
    else if c = '\\' then
      match _escape : escape rest with
      | .error fault => .error fault
      | .ok (value, after) => textBody (value :: before) after
    else if c.toNat < 32 then .error (.within .controlCharacter (c :: rest))
    else textBody (c :: before) rest
termination_by text.length
decreasing_by
  · have := escape_shortens _escape
    simp only [List.length_cons]
    omega
  · simp

theorem textBody_shortens {before text : List Char} {value : String} {rest : List Char}
    (read : textBody before text = .ok (value, rest)) : rest.length < text.length := by
  fun_induction textBody before text with
  | case1 => simp at read
  | case2 before after =>
    simp only [Except.ok.injEq, Prod.mk.injEq] at read
    rw [← read.2]
    simp
  | case3 => simp at read
  | case4 =>
    rename_i escaped _ ih
    have := ih read
    have := escape_shortens escaped
    simp only [List.length_cons]
    omega
  | case5 => simp at read
  | case6 =>
    rename_i ih
    have := ih read
    simp only [List.length_cons]
    omega

def textLiteral : Reader String := ⟨textBody [], textBody_shortens⟩

end NodeProbe.Json
