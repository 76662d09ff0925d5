import NodeProbe.Json.NumberLiteral
import NodeProbe.Json.TextLiteral

set_option autoImplicit false

namespace NodeProbe.Json

inductive Scalar
  | null
  | boolean (value : Bool)
  | number (value : Number)
  | text (value : String)
deriving DecidableEq

def Scalar.toValue : Scalar → Value
  | .null => .null
  | .boolean value => .boolean value
  | .number value => .number value
  | .text value => .text value

def literal : List Char → List Char → Except Fault (List Char)
  | [], text => .ok text
  | _ :: _, [] => .error (.before .unfinishedValue [])
  | expected :: word, c :: rest =>
    if c = expected then literal word rest else .error (.within .expectedLiteral (c :: rest))

def literalAs {α : Type} (value : α) (word text : List Char) : Reading α :=
  match literal word text with
  | .error fault => .error fault
  | .ok rest => .ok (value, rest)

def Reading.map {α β : Type} (f : α → β) : Reading α → Reading β
  | .error fault => .error fault
  | .ok (value, rest) => .ok (f value, rest)

def scalarBody (text : List Char) : Reading Scalar :=
  match text with
  | [] => .error (.within .unfinishedValue [])
  | c :: rest =>
    if c = 'n' then literalAs .null ['u', 'l', 'l'] rest
    else if c = 't' then literalAs (.boolean true) ['r', 'u', 'e'] rest
    else if c = 'f' then literalAs (.boolean false) ['a', 'l', 's', 'e'] rest
    else if c = '-' then Reading.map .number (number true rest)
    else if c.isDigit then Reading.map .number (number false (c :: rest))
    else if c = '"' then Reading.map .text (textLiteral.run rest)
    else .error (.within .expectedValue (c :: rest))

theorem literal_length {word text rest : List Char} (read : literal word text = .ok rest) :
    rest.length ≤ text.length := by
  induction word generalizing text with
  | nil =>
    simp only [literal, Except.ok.injEq] at read
    exact Nat.le_of_eq (congrArg List.length read.symm)
  | cons expected word ih =>
    cases text with
    | nil => simp [literal] at read
    | cons c after =>
      simp only [literal] at read
      split at read
      · exact Nat.le_succ_of_le (ih read)
      · simp at read

theorem literalAs_length {α : Type} {value result : α} {word text rest : List Char}
    (read : literalAs value word text = .ok (result, rest)) : rest.length ≤ text.length := by
  unfold literalAs at read
  split at read
  · simp at read
  · rename_i inner
    simp only [Except.ok.injEq, Prod.mk.injEq] at read
    exact read.2 ▸ literal_length inner

theorem Reading.map_ok {α β : Type} {f : α → β} {reading : Reading α} {result : β}
    {rest : List Char} (read : Reading.map f reading = .ok (result, rest)) :
    ∃ value, reading = .ok (value, rest) ∧ f value = result := by
  unfold Reading.map at read
  split at read
  · simp at read
  · simp only [Except.ok.injEq, Prod.mk.injEq] at read
    exact ⟨_, by rw [read.2], read.1⟩

theorem scalarBody_shortens {text : List Char} {value : Scalar} {rest : List Char}
    (read : scalarBody text = .ok (value, rest)) : rest.length < text.length := by
  unfold scalarBody at read
  split at read
  · simp at read
  · rename_i c after
    rw [List.length_cons]
    split at read
    · exact Nat.lt_succ_of_le (literalAs_length read)
    split at read
    · exact Nat.lt_succ_of_le (literalAs_length read)
    split at read
    · exact Nat.lt_succ_of_le (literalAs_length read)
    split at read
    · obtain ⟨_, inner, _⟩ := Reading.map_ok read
      exact Nat.lt_succ_of_lt (number_shortens inner)
    split at read
    · obtain ⟨_, inner, _⟩ := Reading.map_ok read
      exact number_shortens inner
    split at read
    · obtain ⟨_, inner, _⟩ := Reading.map_ok read
      exact Nat.lt_succ_of_lt (textLiteral.shortens inner)
    · simp at read

def scalar : Reader Scalar := ⟨scalarBody, scalarBody_shortens⟩


def memberName : Reader String :=
  (Reader.expect '"' .unfinishedValue .expectedName).bind fun _ => textLiteral

def colon : Reader Unit := (Reader.expect ':' .unfinishedObject .expectedColon).afterSpace

def Reader.afterColon {α : Type} (value : Reader α) : Reader α := colon.bind fun _ => value.afterSpace

def listItems {α : Type} (item : Reader α) : Reader (List α) :=
  (Enclosure.list.reader (fun before => item.afterSpace.map (· :: before)) []).map List.reverse

def objectItems (value : Reader Value) : Reader Members :=
  Enclosure.object.reader
    (fun members => memberName.bind fun name => value.afterColon.map fun value => members.insert name value) []

def level (inner : Option (Reader Value)) : Reader Value :=
  .choose '[' ((Reader.bracketed (inner.map listItems)).map .list)
    (.choose '\x7b' ((Reader.bracketed (inner.map objectItems)).map .object) (scalar.map Scalar.toValue))

def value : Nat → Reader Value
  | 0 => (level none).afterSpace
  | depth + 1 => (level (some (value depth))).afterSpace

def depthLimit : Nat := 127

def parse (text : String) : Except Refusal Value := (value depthLimit).document text.toList

end NodeProbe.Json
