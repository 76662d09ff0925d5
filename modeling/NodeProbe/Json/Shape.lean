import NodeProbe.Json.Value

set_option autoImplicit false

namespace NodeProbe.Json

inductive Word : Type → Type
  | int32 : Word Int32
  | int64 : Word Int64
  | uint32 : Word UInt32
  | uint64 : Word UInt64
  | size : Word UInt64

def Word.label {α : Type} : Word α → String
  | .int32 => "i32"
  | .int64 => "i64"
  | .uint32 => "u32"
  | .uint64 => "u64"
  | .size => "usize"

def Word.ofInt? {α : Type} : Word α → Int → Option α
  | .int32, i => if -0x80000000 ≤ i ∧ i < 0x80000000 then some (.ofInt i) else none
  | .int64, i => if -0x8000000000000000 ≤ i ∧ i < 0x8000000000000000 then some (.ofInt i) else none
  | .uint32, i => if 0 ≤ i ∧ i < 0x100000000 then some (.ofNat i.toNat) else none
  | .uint64, i => if 0 ≤ i ∧ i < 0x10000000000000000 then some (.ofNat i.toNat) else none
  | .size, i => if 0 ≤ i ∧ i < 0x10000000000000000 then some (.ofNat i.toNat) else none

theorem unsigned_bounds (word : UInt64) : -0x8000000000000000 ≤ (word.toNat : Int) ∧ (word.toNat : Int) < 0x10000000000000000 := by
  have := word.toNat_lt
  omega

def Word.toInteger {α : Type} : Word α → α → Integer
  | .int32, word => ⟨word.toInt, by have := word.le_toInt; omega, by have := word.toInt_lt; omega⟩
  | .int64, word => ⟨word.toInt, word.le_toInt, by have := word.toInt_lt; omega⟩
  | .uint32, word => ⟨word.toNat, by omega, by have := word.toNat_lt; omega⟩
  | .uint64, word => ⟨word.toNat, (unsigned_bounds word).1, (unsigned_bounds word).2⟩
  | .size, word => ⟨word.toNat, (unsigned_bounds word).1, (unsigned_bounds word).2⟩

theorem Word.ofInt?_toInteger {α : Type} (kind : Word α) (word : α) :
    kind.ofInt? (kind.toInteger word).value = some word := by
  cases kind with
  | int32 =>
    have := word.le_toInt
    have := word.toInt_lt
    simp [ofInt?, toInteger]
    omega
  | int64 =>
    have := word.le_toInt
    have := word.toInt_lt
    simp [ofInt?, toInteger]
    omega
  | uint32 =>
    have := word.toNat_lt
    simp [ofInt?, toInteger]
    omega
  | uint64 =>
    have := word.toNat_lt
    simp [ofInt?, toInteger]
    omega
  | size =>
    have := word.toNat_lt
    simp [ofInt?, toInteger]
    omega


inductive Absence (α : Type)
  | refused
  -- An object may leave the member out, a list of all members may not.
  | unset (value : α)
  -- Either form may leave it out.
  | default (value : α)

mutual
inductive Shape : Type → Type 1
  | text : Shape String
  | path : Shape String
  | boolean : Shape Bool
  | word {α : Type} (kind : Word α) : Shape α
  | optional {α : Type} (inner : Shape α) : Shape (Option α)
  | list {α : Type} (item : Shape α) : Shape (List α)
  | members : Shape Members
  | record {α β : Type} (name : String) (fields : Fields β) (build : β → α) (parts : α → β) : Shape α

inductive Fields : Type → Type 1
  | done : Fields Unit
  | field {α β : Type} (name : String) (shape : Shape α) (absence : Absence α) (rest : Fields β) :
      Fields (α × β)
end

def Fields.count : {α : Type} → Fields α → Nat
  | _, .done => 0
  | _, .field _ _ _ rest => rest.count + 1

mutual
def Shape.encode : {α : Type} → Shape α → α → Value
  | _, .text, s => .text s
  | _, .path, s => .text s
  | _, .boolean, b => .boolean b
  | _, .word kind, word => .number (.integer (kind.toInteger word))
  | _, .optional _, none => .null
  | _, .optional inner, some value => inner.encode value
  | _, .list item, values => .list (values.map item.encode)
  | _, .members, members => .object members
  | _, .record _ fields _ parts, value => .object (fields.encode (parts value))

def Fields.encode : {α : Type} → Fields α → α → List (String × Value)
  | _, .done, _ => []
  | _, .field name shape _ rest, (first, others) => (name, shape.encode first) :: rest.encode others
end

end NodeProbe.Json
