import NodeProbe.Json.Shape
import NodeProbe.Json.Skip

set_option autoImplicit false

namespace NodeProbe.Json

def Scalar.found : Scalar → Found
  | .null => .null
  | .boolean value => .boolean value
  | .number (.integer value) => .integer value.value
  | .number (.float value) => .float value
  | .text value => .text value

-- A scalar of one kind. Another scalar is refused after it, a bracket where it stands.
def scalarAs {α : Type} (expected : String) (accept : Scalar → Except Cause α) : Reader α :=
  .choose '[' (.fail fun text => .before (.wrongType .list expected) text)
    (.choose '\x7b' (.fail fun text => .before (.wrongType .object expected) text) (scalar.check accept))

def refuse {α : Type} (expected : String) : Reader α :=
  scalarAs expected fun found => .error (.wrongType found.found expected)

def readText (expected : String) : Reader String :=
  scalarAs expected fun
    | .text value => .ok value
    | other => .error (.wrongType other.found expected)

def readBoolean (expected : String) : Reader Bool :=
  scalarAs expected fun
    | .boolean value => .ok value
    | other => .error (.wrongType other.found expected)

def readWord {α : Type} (kind : Word α) (expected : String) : Reader α :=
  scalarAs expected fun
    | .number (.integer value) =>
      match kind.ofInt? value.value with
      | some word => .ok word
      | none => .error (.wrongValue (.integer value.value) expected)
    | other => .error (.wrongType other.found expected)

def Absence.value? {α : Type} : Absence α → Option α
  | .refused => none
  | .unset value => some value
  | .default value => some value

def Fields.Slots : {β : Type} → Fields β → Type
  | _, .done => Unit
  | _, @Fields.field α _ _ _ _ rest => Option α × rest.Slots

def Fields.empty : {β : Type} → (fields : Fields β) → fields.Slots
  | _, .done => ()
  | _, .field _ _ _ rest => (none, rest.empty)

def Fields.collect : {β : Type} → (fields : Fields β) → fields.Slots → Except Cause β
  | _, .done, _ => .ok ()
  | _, .field name _ absence rest, slots =>
    match slots.1.or absence.value?, rest.collect slots.2 with
    | none, _ => .error (.missingField name)
    | some _, .error cause => .error cause
    | some value, .ok others => .ok (value, others)

-- A second member with the same name is refused after its name, or after the object if that ends there.
def repeated {α : Type} (name : String) : Reader α :=
  .fail fun text =>
    match skipSpace text with
    | '\x7d' :: rest => .before (.duplicateField name) rest
    | rest => .before (.duplicateField name) rest

def listEndBody (text : List Char) : Reading Unit :=
  match skipSpace text with
  | [] => .error (.within .unfinishedList [])
  | c :: rest =>
    if c = ']' then .ok ((), rest)
    else if c = ',' then
      match skipSpace rest with
      | ']' :: after => .error (.within .trailingComma (']' :: after))
      | after => .error (.within .trailingCharacters after)
    else .error (.within .trailingCharacters (c :: rest))

theorem listEndBody_shortens {text : List Char} {value : Unit} {rest : List Char}
    (read : listEndBody text = .ok (value, rest)) : rest.length < text.length := by
  have bound := skipSpace_length text
  unfold listEndBody at read
  split at read
  · simp at read
  · rename_i spaced
    rw [spaced, List.length_cons] at bound
    split at read
    · simp only [Except.ok.injEq, Prod.mk.injEq] at read
      rw [← read.2]
      omega
    · split at read
      · split at read <;> simp at read
      · simp at read

def listEnd : Reader Unit := ⟨listEndBody, listEndBody_shortens⟩

def elementBody {α β : Type} (first : Bool) (missing : Except Cause α) (element : Reader α)
    (others : Reader β) (text : List Char) : Reading (α × β) :=
  match skipSpace text with
  | [] => .error (.within .unfinishedList [])
  | c :: rest =>
    if c = ']' then
      match missing with
      | .error cause => .error (.before cause rest)
      | .ok value => (others.map (value, ·)).run (c :: rest)
    else if first then (element.bind fun value => others.map (value, ·)).run (c :: rest)
    else if c = ',' then
      match skipSpace rest with
      | [] => .error (.within .unfinishedValue [])
      | d :: after =>
        if d = ']' then .error (.within .trailingComma (d :: after))
        else (element.bind fun value => others.map (value, ·)).run (d :: after)
    else .error (.within .expectedListSeparator (c :: rest))

theorem elementBody_shortens {α β : Type} {first : Bool} {missing : Except Cause α}
    {element : Reader α} {others : Reader β} {text : List Char} {value : α × β} {rest : List Char}
    (read : elementBody first missing element others text = .ok (value, rest)) :
    rest.length < text.length := by
  have bound := skipSpace_length text
  unfold elementBody at read
  split at read
  · simp at read
  · rename_i c after spaced
    rw [spaced] at bound
    split at read
    · split at read
      · simp at read
      · exact Nat.lt_of_lt_of_le (Reader.shortens _ read) bound
    · split at read
      · exact Nat.lt_of_lt_of_le (Reader.shortens _ read) bound
      · split at read
        · split at read
          · simp at read
          · split at read
            · simp at read
            · rename_i d remaining next _
              have inner := skipSpace_length after
              have := Reader.shortens _ read
              rw [List.length_cons] at bound
              rw [next] at inner
              omega
        · simp at read

def element {α β : Type} (first : Bool) (missing : Except Cause α) (element : Reader α)
    (others : Reader β) : Reader (α × β) :=
  ⟨elementBody first missing element others, elementBody_shortens⟩

def Absence.inList {α : Type} (absence : Absence α) (cause : Cause) : Except Cause α :=
  match absence with
  | .default value => .ok value
  | _ => .error cause

def deeper {α : Type} (depth : Nat) (content : Reader α) : Option (Reader α) :=
  if depth = 0 then none else some content

mutual
def Shape.reader (depth : Nat) : {α : Type} → Shape α → Reader α
  | _, .text => (readText "a string").afterSpace
  | _, .path => (readText "path string").afterSpace
  | _, .boolean => (readBoolean "a boolean").afterSpace
  | _, .word kind => (readWord kind kind.label).afterSpace
  | _, .optional inner =>
    (Reader.choose 'n' (scalar.map fun _ => none) ((inner.reader depth).map some)).afterSpace
  | _, .list item =>
    (Reader.choose '[' (.bracketed (deeper depth (listItems (item.reader (depth - 1)))))
      (refuse "a sequence")).afterSpace
  | _, .members =>
    (Reader.choose '\x7b' (.bracketed (deeper depth (objectItems (value (depth - 1)))))
      (refuse "a map")).afterSpace
  | _, .record name fields build _ =>
    (Reader.choose '[' (.bracketed (deeper depth
        ((fields.elements (depth - 1) (fun read => .wrongLength read name fields.count) 0).map build)))
      (.choose '\x7b' (.bracketed (deeper depth
          ((Enclosure.object.reader
            (fun slots => memberName.bind fun key =>
              (fields.member (depth - 1) key slots).getD (skip.afterColon.map fun _ => slots))
            fields.empty).check fields.collect |>.map build)))
        (refuse ("struct " ++ name)))).afterSpace

def Fields.member (depth : Nat) : {β : Type} → (fields : Fields β) → String → fields.Slots →
    Option (Reader fields.Slots)
  | _, .done, _, _ => none
  | _, .field name shape _ rest, key, slots =>
    if key = name then
      some (if slots.1.isSome then repeated name
        else (shape.reader depth).afterColon.map fun value => (some value, slots.2))
    else (rest.member depth key slots.2).map fun reader => reader.map fun others => (slots.1, others)

def Fields.elements (depth : Nat) (tooShort : Nat → Cause) (read : Nat) : {β : Type} → Fields β → Reader β
  | _, .done => listEnd
  | _, .field _ shape absence rest =>
    element (read = 0) (absence.inList (tooShort read)) (shape.reader depth)
      (rest.elements depth tooShort (read + 1))
end

def Shape.decode {α : Type} (shape : Shape α) (text : String) : Except Refusal α :=
  (shape.reader depthLimit).document text.toList

end NodeProbe.Json
