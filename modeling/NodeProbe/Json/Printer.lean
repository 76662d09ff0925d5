import NodeProbe.Decimal
import NodeProbe.Json.Value
import NodeProbe.Response
import NodeProbe.Text.Quoted

set_option autoImplicit false

namespace NodeProbe

abbrev Bytes := List UInt8

def utf8 (text : String) : Bytes := text.toUTF8.toList

structure Output where
  printed : Bytes
  -- How many more bytes fit; without it, any number does.
  room : Option Nat
deriving DecidableEq, Repr

namespace Output

def unlimited : Output := ⟨[], none⟩

def limited (room : Nat) : Output := ⟨[], some room⟩

def write (output : Output) (bytes : Bytes) : Bool × Output :=
  match output.room with
  | none => (true, { output with printed := output.printed ++ bytes })
  | some room =>
    (decide (bytes.length ≤ room), ⟨output.printed ++ bytes.take room, some (room - bytes.length)⟩)

end Output

end NodeProbe

namespace NodeProbe.Json

def escapeChar (c : Char) : List Char :=
  if c = '"' ∨ c = '\\' then ['\\', c]
  else if c = '\x08' then ['\\', 'b']
  else if c = '\t' then ['\\', 't']
  else if c = '\n' then ['\\', 'n']
  else if c = '\x0c' then ['\\', 'f']
  else if c = '\r' then ['\\', 'r']
  else if c.toNat < 32 then ['\\', 'u', '0', '0', hexDigit (c.toNat / 16), hexDigit (c.toNat % 16)]
  else [c]

def quote (text : String) : List Char :=
  '"' :: text.toList.flatMap escapeChar ++ ['"']

def Number.write : Number → List Char
  | .integer i => Decimal.signed i.value
  | .float x => Decimal.Layout.exponential.write x

def writeBoolean : Bool → List Char
  | true => ['t', 'r', 'u', 'e']
  | false => ['f', 'a', 'l', 's', 'e']

def writeNull : List Char := ['n', 'u', 'l', 'l']

mutual
def Value.write : Value → List Char
  | .null => writeNull
  | .boolean b => writeBoolean b
  | .number n => n.write
  | .text s => quote s
  | .list [] => ['[', ']']
  | .list (item :: rest) => '[' :: item.write ++ writeItems rest
  | .object [] => ['\x7b', '\x7d']
  | .object ((name, value) :: rest) => '\x7b' :: quote name ++ ':' :: value.write ++ writeMembers rest

def writeItems : List Value → List Char
  | [] => [']']
  | item :: rest => ',' :: item.write ++ writeItems rest

def writeMembers : List (String × Value) → List Char
  | [] => ['\x7d']
  | (name, value) :: rest => ',' :: quote name ++ ':' :: value.write ++ writeMembers rest
end

def lineBreak (depth : Nat) : List Char := '\n' :: List.replicate (4 * depth) ' '

mutual
def Value.writePretty (depth : Nat) : Value → List Char
  | .null => writeNull
  | .boolean b => writeBoolean b
  | .number n => n.write
  | .text s => quote s
  | .list [] => ['[', ']']
  | .list (item :: rest) =>
    '[' :: lineBreak (depth + 1) ++ item.writePretty (depth + 1) ++ prettyItems depth rest
  | .object [] => ['\x7b', '\x7d']
  | .object ((name, value) :: rest) =>
    '\x7b' :: lineBreak (depth + 1) ++ quote name ++ ':' :: ' ' :: value.writePretty (depth + 1) ++
      prettyMembers depth rest

def prettyItems (depth : Nat) : List Value → List Char
  | [] => lineBreak depth ++ [']']
  | item :: rest =>
    ',' :: lineBreak (depth + 1) ++ item.writePretty (depth + 1) ++ prettyItems depth rest

def prettyMembers (depth : Nat) : List (String × Value) → List Char
  | [] => lineBreak depth ++ ['\x7d']
  | (name, value) :: rest =>
    ',' :: lineBreak (depth + 1) ++ quote name ++ ':' :: ' ' :: value.writePretty (depth + 1) ++
      prettyMembers depth rest
end

def Value.compact (value : Value) : String := String.ofList value.write

def Value.pretty (value : Value) : String := String.ofList (value.writePretty 0)


-- Escapes are chosen byte by byte; the bytes of a longer character stand for themselves.
def escapeByte (byte : UInt8) : Bytes :=
  if byte.toNat < 128 then utf8 (String.ofList (escapeChar (Char.ofNat byte.toNat))) else [byte]

def quotePieces (text : String) : List Bytes :=
  utf8 "\"" :: (utf8 text).map escapeByte ++ [utf8 "\""]

def indentPieces (depth : Nat) : List Bytes := List.replicate depth (utf8 "    ")

mutual
def Value.pieces (depth : Nat) : Value → List Bytes
  | .null => [utf8 "null"]
  | .boolean b => [utf8 (String.ofList (writeBoolean b))]
  | .number n => [utf8 (String.ofList n.write)]
  | .text content => quotePieces content
  | .list [] => [utf8 "[", utf8 "]"]
  | .list (item :: rest) =>
    utf8 "[" :: utf8 "\n" :: indentPieces (depth + 1) ++ item.pieces (depth + 1) ++ itemPieces depth rest
  | .object [] => [utf8 "\x7b", utf8 "\x7d"]
  | .object ((name, value) :: rest) =>
    utf8 "\x7b" :: utf8 "\n" :: indentPieces (depth + 1) ++ quotePieces name ++ utf8 ": " :: value.pieces (depth + 1) ++
      memberPieces depth rest

def itemPieces (depth : Nat) : List Value → List Bytes
  | [] => utf8 "\n" :: indentPieces depth ++ [utf8 "]"]
  | item :: rest => utf8 ",\n" :: indentPieces (depth + 1) ++ item.pieces (depth + 1) ++ itemPieces depth rest

def memberPieces (depth : Nat) : List (String × Value) → List Bytes
  | [] => utf8 "\n" :: indentPieces depth ++ [utf8 "\x7d"]
  | (name, value) :: rest =>
    utf8 ",\n" :: indentPieces (depth + 1) ++ quotePieces name ++ utf8 ": " :: value.pieces (depth + 1) ++
      memberPieces depth rest
end

def writeAll : List Bytes → Output → Bool × Output
  | [], output => (true, output)
  | piece :: rest, output =>
    match output.write piece with
    | (true, after) => writeAll rest after
    | (false, after) => (false, after)

def Value.render (value : Value) : Except Failure String :=
  match writeAll (value.pieces 0) .unlimited with
  | (false, _) => .error (.decode "failed to write whole buffer")
  | (true, output) =>
    match String.fromUTF8? output.printed.toByteArray with
    | none => .error (.decode "invalid utf-8 sequence")
    | some rendered => .ok rendered

end NodeProbe.Json
