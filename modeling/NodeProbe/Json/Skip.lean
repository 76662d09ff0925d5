import NodeProbe.Json.Document

set_option autoImplicit false

namespace NodeProbe.Json

inductive Bracket
  | list
  | object
deriving DecidableEq

def Bracket.enclosure : Bracket → Enclosure
  | .list => .list
  | .object => .object

def skipExponent (text : List Char) : Except Fault (List Char) :=
  match (exponentSign text).2 with
  | [] => .error (.before .invalidNumber [])
  | c :: rest =>
    if c.isDigit then .ok (skipDigits rest) else .error (.within .invalidNumber (c :: rest))

def skipFraction (text : List Char) : Except Fault (List Char) :=
  if startsWithDigit text then
    match skipDigits text with
    | [] => .ok []
    | c :: rest => if c = 'e' ∨ c = 'E' then skipExponent rest else .ok (c :: rest)
  else .error (.within .invalidNumber text)

def skipNumber (text : List Char) : Except Fault (List Char) :=
  match text with
  | [] => .error (.before .invalidNumber [])
  | c :: rest =>
    if !c.isDigit then .error (.within .invalidNumber (c :: rest))
    else if c = '0' ∧ startsWithDigit rest then .error (.within .invalidNumber rest)
    else
      match skipDigits rest with
      | [] => .ok []
      | d :: after =>
        if d = '.' then skipFraction after
        else if d = 'e' ∨ d = 'E' then skipExponent after
        else .ok (d :: after)

def skipEscape (text : List Char) : Except Fault (List Char) :=
  match text with
  | [] => .error (.before .unfinishedText [])
  | c :: rest =>
    if c = 'u' then
      match hexUnit rest with
      | .error fault => .error fault
      | .ok (_, after) => .ok after
    else if c ∈ ['"', '\\', '/', 'b', 'f', 'n', 'r', 't'] then .ok rest
    else .error (.within .invalidEscape (c :: rest))

theorem skipExponent_length {text rest : List Char} (read : skipExponent text = .ok rest) :
    rest.length ≤ text.length := by
  have signLength := exponentSign_length text
  unfold skipExponent at read
  split at read
  · simp at read
  · rename_i c after signed
    rw [signed, List.length_cons] at signLength
    split at read
    · have := skipDigits_length after
      simp only [Except.ok.injEq] at read
      rw [← read]
      omega
    · simp at read

theorem skipFraction_length {text rest : List Char} (read : skipFraction text = .ok rest) :
    rest.length ≤ text.length := by
  have digitsLength := skipDigits_length text
  unfold skipFraction at read
  split at read
  · split at read
    · simp only [Except.ok.injEq] at read
      rw [← read]
      simp
    · rename_i tail
      rw [tail, List.length_cons] at digitsLength
      split at read
      · have := skipExponent_length read
        omega
      · simp only [Except.ok.injEq] at read
        rw [← read, List.length_cons]
        omega
  · simp at read

theorem skipNumber_shortens {text rest : List Char} (read : skipNumber text = .ok rest) :
    rest.length < text.length := by
  unfold skipNumber at read
  split at read
  · simp at read
  · rename_i c after
    have digitsLength := skipDigits_length after
    rw [List.length_cons]
    split at read
    · simp at read
    · split at read
      · simp at read
      · split at read
        · simp only [Except.ok.injEq] at read
          rw [← read]
          simp
        · rename_i tail
          rw [tail, List.length_cons] at digitsLength
          split at read
          · have := skipFraction_length read
            omega
          · split at read
            · have := skipExponent_length read
              omega
            · simp only [Except.ok.injEq] at read
              rw [← read, List.length_cons]
              omega

theorem skipEscape_shortens {text rest : List Char} (read : skipEscape text = .ok rest) :
    rest.length < text.length := by
  unfold skipEscape at read
  split at read
  · simp at read
  · rw [List.length_cons]
    split at read
    · split at read
      · simp at read
      · rename_i unit
        simp only [Except.ok.injEq] at read
        have := hexUnit_shortens unit
        rw [← read]
        omega
    · split at read
      · simp only [Except.ok.injEq] at read
        rw [← read]
        omega
      · simp at read

def skipText (text : List Char) : Except Fault (List Char) :=
  match text with
  | [] => .error (.before .unfinishedText [])
  | c :: rest =>
    if c = '"' then .ok rest
    else if c = '\\' then
      match _escape : skipEscape rest with
      | .error fault => .error fault
      | .ok after => skipText after
    else if c.toNat < 32 then .error (.before .controlCharacter (c :: rest))
    else skipText rest
termination_by text.length
decreasing_by
  · have := skipEscape_shortens _escape
    simp only [List.length_cons]
    omega
  · simp

theorem skipText_shortens {text rest : List Char} (read : skipText text = .ok rest) :
    rest.length < text.length := by
  fun_induction skipText text with
  | case1 => simp at read
  | case2 =>
    simp only [Except.ok.injEq] at read
    rw [← read]
    simp
  | case3 => simp at read
  | case4 =>
    rename_i escaped _ ih
    have := ih read
    have := skipEscape_shortens escaped
    simp only [List.length_cons]
    omega
  | case5 => simp at read
  | case6 =>
    rename_i ih
    have := ih read
    simp only [List.length_cons]
    omega

def skipScalar (text : List Char) : Except Fault (List Char) :=
  match text with
  | [] => .error (.within .unfinishedValue [])
  | c :: rest =>
    if c = 'n' then literal ['u', 'l', 'l'] rest
    else if c = 't' then literal ['r', 'u', 'e'] rest
    else if c = 'f' then literal ['a', 'l', 's', 'e'] rest
    else if c = '-' then skipNumber rest
    else if c.isDigit then skipNumber (c :: rest)
    else if c = '"' then skipText rest
    else .error (.within .expectedValue (c :: rest))

theorem skipScalar_shortens {text rest : List Char} (read : skipScalar text = .ok rest) :
    rest.length < text.length := by
  unfold skipScalar at read
  split at read
  · simp at read
  · rw [List.length_cons]
    split at read
    · exact Nat.lt_succ_of_le (literal_length read)
    split at read
    · exact Nat.lt_succ_of_le (literal_length read)
    split at read
    · exact Nat.lt_succ_of_le (literal_length read)
    split at read
    · exact Nat.lt_succ_of_lt (skipNumber_shortens read)
    split at read
    · exact skipNumber_shortens read
    split at read
    · exact Nat.lt_succ_of_lt (skipText_shortens read)
    · simp at read

def skipName : Reader Unit :=
  (Reader.expect '"' .unfinishedObject .expectedName).afterSpace.bind fun _ =>
    (Reader.ofSkip skipText skipText_shortens).bind fun _ => colon

-- Where a walk over a value stands: in front of a value, in front of an item, just after an opening
-- bracket, or just after a value.
inductive Place
  | value
  | item (bracket : Bracket)
  | opened (bracket : Bracket)
  | closed

def Place.rank : Place → Nat
  | .value => 0
  | .item _ => 1
  | .opened _ => 2
  | .closed => 0

def skipFrom (place : Place) (outer : List Bracket) (text : List Char) : Except Fault (List Char) :=
  match place with
  | .value =>
    match _value : skipSpace text with
    | '[' :: rest => skipFrom (.opened .list) outer rest
    | '\x7b' :: rest => skipFrom (.opened .object) outer rest
    | other =>
      match _scalar : skipScalar other with
      | .error fault => .error fault
      | .ok rest => skipFrom .closed outer rest
  | .item .list => skipFrom .value (.list :: outer) text
  | .item .object =>
    match _name : skipName.run text with
    | .error fault => .error fault
    | .ok (_, rest) => skipFrom .value (.object :: outer) rest
  | .opened bracket =>
    match _first : skipSpace text with
    | [] => .error (.within bracket.enclosure.unfinished [])
    | c :: rest =>
      if c = bracket.enclosure.close then skipFrom .closed outer rest
      else skipFrom (.item bracket) outer (c :: rest)
  | .closed =>
    match outer with
    | [] => .ok text
    | bracket :: outer =>
      match _next : skipSpace text with
      | [] => .error (.within bracket.enclosure.unfinished [])
      | c :: rest =>
        if c = ',' then skipFrom (.item bracket) outer rest
        else if c = bracket.enclosure.close then skipFrom .closed outer rest
        else .error (.within bracket.enclosure.unseparated (c :: rest))
termination_by 3 * text.length + place.rank
decreasing_by
  all_goals
    have bound := skipSpace_length text
    simp only [Place.rank]
  · rw [_value, List.length_cons] at bound
    omega
  · rw [_value, List.length_cons] at bound
    omega
  · have := skipScalar_shortens _scalar
    simp_all only
    omega
  · omega
  · have := skipName.shortens _name
    omega
  · rw [_first, List.length_cons] at bound
    omega
  · rw [_first] at bound
    omega
  · rw [_next, List.length_cons] at bound
    omega
  · rw [_next, List.length_cons] at bound
    omega

theorem skipFrom_length {place : Place} {outer : List Bracket} {text rest : List Char}
    (read : skipFrom place outer text = .ok rest) :
    rest.length ≤ text.length ∧ (place = .value → rest.length < text.length) := by
  fun_induction skipFrom place outer text with
  | case1 outer text after spaced ih =>
    have bound := skipSpace_length text
    rw [spaced, List.length_cons] at bound
    have := (ih read).1
    omega
  | case2 outer text after spaced ih =>
    have bound := skipSpace_length text
    rw [spaced, List.length_cons] at bound
    have := (ih read).1
    omega
  | case3 => simp at read
  | case4 outer text after _ _ plain ih =>
    have bound := skipSpace_length text
    have := skipScalar_shortens plain
    have := (ih read).1
    omega
  | case5 outer text ih => exact ⟨(ih read).1, nofun⟩
  | case6 => simp at read
  | case7 outer text _ after named ih =>
    have := skipName.shortens named
    have := (ih read).1
    exact ⟨by omega, nofun⟩
  | case8 => simp at read
  | case9 outer text bracket after spaced ih =>
    have bound := skipSpace_length text
    rw [spaced, List.length_cons] at bound
    have := (ih read).1
    exact ⟨by omega, nofun⟩
  | case10 outer text bracket c after spaced _ ih =>
    have bound := skipSpace_length text
    rw [spaced] at bound
    have := (ih read).1
    exact ⟨by omega, nofun⟩
  | case11 =>
    simp only [Except.ok.injEq] at read
    exact ⟨Nat.le_of_eq (congrArg List.length read.symm), nofun⟩
  | case12 => simp at read
  | case13 text bracket outer after spaced ih =>
    have bound := skipSpace_length text
    rw [spaced, List.length_cons] at bound
    have := (ih read).1
    exact ⟨by omega, nofun⟩
  | case14 text bracket outer after spaced _ ih =>
    have bound := skipSpace_length text
    rw [spaced, List.length_cons] at bound
    have := (ih read).1
    exact ⟨by omega, nofun⟩
  | case15 => simp at read

def skip : Reader Unit :=
  .ofSkip (skipFrom .value []) fun read => (skipFrom_length read).2 rfl

end NodeProbe.Json
