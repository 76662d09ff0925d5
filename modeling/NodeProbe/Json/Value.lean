import NodeProbe.Decimal

set_option autoImplicit false

namespace NodeProbe.Json

structure Integer where
  value : Int
  lower : -0x8000000000000000 ≤ value := by decide
  upper : value < 0x10000000000000000 := by decide
deriving DecidableEq

def Integer.ofInt? (value : Int) : Option Integer :=
  if bounds : -0x8000000000000000 ≤ value ∧ value < 0x10000000000000000 then some ⟨value, bounds.1, bounds.2⟩ else none

inductive Number
  | integer (value : Integer)
  | float (value : Float)
deriving DecidableEq

inductive Value
  | null
  | boolean (value : Bool)
  | number (value : Number)
  | text (value : String)
  | list (items : List Value)
  | object (members : List (String × Value))
deriving Inhabited

-- Named values; each name occurs once, and names ascend by code points.
abbrev Members := List (String × Value)

def Members.insert (name : String) (value : Value) : Members → Members
  | [] => [(name, value)]
  | member :: rest =>
    if name < member.1 then (name, value) :: member :: rest
    else if member.1 < name then member :: insert name value rest
    else (name, value) :: rest

def Members.ofList (members : List (String × Value)) : Members :=
  members.foldl (fun sorted member => Members.insert member.1 member.2 sorted) []

mutual
def Value.sorted : Value → Value
  | .list items => .list (sortedItems items)
  | .object members => .object (Members.ofList (sortedMembers members))
  | scalar => scalar

def sortedItems : List Value → List Value
  | [] => []
  | item :: rest => item.sorted :: sortedItems rest

def sortedMembers : List (String × Value) → List (String × Value)
  | [] => []
  | (name, value) :: rest => (name, value.sorted) :: sortedMembers rest
end

end NodeProbe.Json
