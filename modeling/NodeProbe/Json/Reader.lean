import NodeProbe.Json.Fault

set_option autoImplicit false

namespace NodeProbe.Json

abbrev Reading (α : Type) := Except Fault (α × List Char)

structure Reader (α : Type) where
  run : List Char → Reading α
  shortens : ∀ {text : List Char} {value : α} {rest : List Char},
    run text = .ok (value, rest) → rest.length < text.length

def isSpace (c : Char) : Bool := c = ' ' || c = '\t' || c = '\n' || c = '\r'

def skipSpace (text : List Char) : List Char := text.dropWhile isSpace

theorem skipSpace_length (text : List Char) : (skipSpace text).length ≤ text.length :=
  (List.dropWhile_suffix isSpace).length_le

def Reader.afterSpace {α : Type} (reader : Reader α) : Reader α where
  run text := reader.run (skipSpace text)
  shortens read := Nat.lt_of_lt_of_le (reader.shortens read) (skipSpace_length _)

def Reader.map {α β : Type} (f : α → β) (reader : Reader α) : Reader β where
  run text :=
    match reader.run text with
    | .error fault => .error fault
    | .ok (value, rest) => .ok (f value, rest)
  shortens {text value rest} read := by
    cases inner : reader.run text with
    | error fault => simp [inner] at read
    | ok result =>
      obtain ⟨first, remaining⟩ := result
      simp only [inner, Except.ok.injEq, Prod.mk.injEq] at read
      exact read.2 ▸ reader.shortens inner

def Reader.bind {α β : Type} (first : Reader α) (second : α → Reader β) : Reader β where
  run text :=
    match first.run text with
    | .error fault => .error fault
    | .ok (value, rest) => (second value).run rest
  shortens {text value rest} read := by
    cases inner : first.run text with
    | error fault => simp [inner] at read
    | ok result =>
      obtain ⟨middle, remaining⟩ := result
      simp only [inner] at read
      exact Nat.lt_trans ((second middle).shortens read) (first.shortens inner)

def Reader.check {α β : Type} (judge : α → Except Cause β) (reader : Reader α) : Reader β where
  run text :=
    match reader.run text with
    | .error fault => .error fault
    | .ok (value, rest) =>
      match judge value with
      | .error cause => .error (.before cause rest)
      | .ok result => .ok (result, rest)
  shortens {text value rest} read := by
    cases inner : reader.run text with
    | error fault => simp [inner] at read
    | ok result =>
      obtain ⟨first, remaining⟩ := result
      simp only [inner] at read
      split at read
      · simp at read
      · simp only [Except.ok.injEq, Prod.mk.injEq] at read
        exact read.2 ▸ reader.shortens inner

def Reader.fail {α : Type} (fault : List Char → Fault) : Reader α where
  run text := .error (fault text)
  shortens read := nomatch read

def Reader.choose {α : Type} (first : Char) (matching other : Reader α) : Reader α where
  run text := if text.head? = some first then matching.run text else other.run text
  shortens {text value rest} read := by
    split at read
    · exact matching.shortens read
    · exact other.shortens read

def Reader.expect (expected : Char) (unfinished mismatch : Cause) : Reader Unit where
  run
    | [] => .error (.within unfinished [])
    | c :: rest => if c = expected then .ok ((), rest) else .error (.within mismatch (c :: rest))
  shortens {text value rest} read := by
    split at read
    · simp at read
    · split at read
      · simp only [Except.ok.injEq, Prod.mk.injEq] at read
        rw [← read.2]
        simp
      · simp at read

def Reader.ofSkip (skip : List Char → Except Fault (List Char))
    (shortens : ∀ {text rest : List Char}, skip text = .ok rest → rest.length < text.length) :
    Reader Unit where
  run text :=
    match skip text with
    | .error fault => .error fault
    | .ok rest => .ok ((), rest)
  shortens {text value rest} read := by
    split at read
    · simp at read
    · rename_i inner
      simp only [Except.ok.injEq, Prod.mk.injEq] at read
      exact read.2 ▸ shortens inner

-- What stands between brackets, read from the opening one; `none` if too many are open already.
def Reader.bracketed {α : Type} (content : Option (Reader α)) : Reader α where
  run
    | [] => .error (.within .unfinishedValue [])
    | c :: rest =>
      match content with
      | none => .error (.within .tooDeep (c :: rest))
      | some reader => reader.run rest
  shortens {text value rest} read := by
    split at read
    · simp at read
    · split at read
      · simp at read
      · rename_i reader
        exact Nat.lt_succ_of_lt (reader.shortens read)

structure Enclosure where
  close : Char
  unfinished : Cause
  unseparated : Cause

def Enclosure.list : Enclosure := ⟨']', .unfinishedList, .expectedListSeparator⟩

def Enclosure.object : Enclosure := ⟨'\x7d', .unfinishedObject, .expectedObjectSeparator⟩

def Enclosure.more {σ : Type} (enclosure : Enclosure) (item : σ → Reader σ) (state : σ)
    (text : List Char) : Reading σ :=
  match _separator : skipSpace text with
  | [] => .error (.within enclosure.unfinished [])
  | c :: rest =>
    if c = enclosure.close then .ok (state, rest)
    else if c = ',' then
      match skipSpace rest with
      | [] => .error (.within .unfinishedValue [])
      | d :: after =>
        if d = enclosure.close then .error (.within .trailingComma (d :: after))
        else
          match _item : (item state).afterSpace.run rest with
          | .error fault => .error fault
          | .ok (next, remaining) => enclosure.more item next remaining
    else .error (.within enclosure.unseparated (c :: rest))
termination_by text.length
decreasing_by
  have shorter := (item state).afterSpace.shortens _item
  have bound := skipSpace_length text
  rw [_separator, List.length_cons] at bound
  omega

def Enclosure.items {σ : Type} (enclosure : Enclosure) (item : σ → Reader σ) (state : σ)
    (text : List Char) : Reading σ :=
  match skipSpace text with
  | [] => .error (.within enclosure.unfinished [])
  | c :: rest =>
    if c = enclosure.close then .ok (state, rest)
    else
      match (item state).run (c :: rest) with
      | .error fault => .error fault
      | .ok (next, remaining) => enclosure.more item next remaining

theorem Enclosure.more_shortens {σ : Type} (enclosure : Enclosure) (item : σ → Reader σ) (state : σ)
    {text : List Char} {result : σ} {rest : List Char}
    (read : enclosure.more item state text = .ok (result, rest)) : rest.length < text.length := by
  induction size : text.length using Nat.strongRecOn generalizing text state with
  | _ size ih =>
    have bound := skipSpace_length text
    rw [Enclosure.more] at read
    split at read
    · simp at read
    · rename_i c after spaced
      rw [spaced, List.length_cons] at bound
      split at read
      · simp only [Except.ok.injEq, Prod.mk.injEq] at read
        rw [← read.2]
        omega
      · split at read
        · split at read
          · simp at read
          · split at read
            · simp at read
            · split at read
              · simp at read
              · rename_i next remaining inner
                have shorter := (item state).afterSpace.shortens inner
                have := ih remaining.length (by omega) next read rfl
                omega
        · simp at read

theorem Enclosure.items_shortens {σ : Type} (enclosure : Enclosure) (item : σ → Reader σ) (state : σ)
    {text : List Char} {result : σ} {rest : List Char}
    (read : enclosure.items item state text = .ok (result, rest)) : rest.length < text.length := by
  have bound := skipSpace_length text
  rw [Enclosure.items] at read
  split at read
  · simp at read
  · rename_i c after spaced
    rw [spaced, List.length_cons] at bound
    split at read
    · simp only [Except.ok.injEq, Prod.mk.injEq] at read
      rw [← read.2]
      omega
    · split at read
      · simp at read
      · rename_i next remaining inner
        have shorter := (item state).shortens inner
        have := enclosure.more_shortens item next read
        rw [List.length_cons] at shorter
        omega

def Enclosure.reader {σ : Type} (enclosure : Enclosure) (item : σ → Reader σ) (state : σ) : Reader σ :=
  ⟨enclosure.items item state, enclosure.items_shortens item state⟩

def Reader.document {α : Type} (reader : Reader α) (text : List Char) : Except Refusal α :=
  match reader.run text with
  | .error fault => .error (fault.locate text)
  | .ok (value, rest) =>
    match skipSpace rest with
    | [] => .ok value
    | after => .error ((Fault.within .trailingCharacters after).locate text)

end NodeProbe.Json
