import NodeProbe.Decimal
import NodeProbe.Text.Quoted

set_option autoImplicit false

namespace NodeProbe

def byteLength (text : List Char) : Nat := text.foldl (fun length c => length + c.utf8Size) 0

-- A line, counted from one, and the number of bytes since its start.
structure Position where
  line : Nat
  column : Nat
deriving DecidableEq, Repr

def Position.start : Position := ⟨1, 0⟩

def Position.advance (position : Position) : List Char → Nat → Position
  | [], _ => position
  | _, 0 => position
  | c :: rest, count =>
    if c = '\n' then Position.advance ⟨position.line + 1, 0⟩ rest (count - 1)
    else Position.advance ⟨position.line, position.column + min count c.utf8Size⟩ rest (count - c.utf8Size)

end NodeProbe

namespace NodeProbe.Json

inductive Found
  | null
  | boolean (value : Bool)
  | integer (value : Int)
  | float (value : Float)
  | text (value : String)
  | list
  | object
deriving DecidableEq

inductive Cause
  | unfinishedValue
  | unfinishedText
  | unfinishedList
  | unfinishedObject
  | expectedValue
  | expectedLiteral
  | expectedColon
  | expectedListSeparator
  | expectedObjectSeparator
  | expectedName
  | trailingComma
  | trailingCharacters
  | invalidNumber
  | numberOutOfRange
  | invalidEscape
  | loneSurrogate
  | unfinishedSurrogate
  | controlCharacter
  | tooDeep
  | wrongType (found : Found) (expected : String)
  | wrongValue (found : Found) (expected : String)
  | wrongLength (length : Nat) (record : String) (fields : Nat)
  | missingField (name : String)
  | duplicateField (name : String)
deriving DecidableEq

def Found.describe : Found → String
  | .null => "null"
  | .boolean true => "boolean `true`"
  | .boolean false => "boolean `false`"
  | .integer value => "integer `" ++ toString value ++ "`"
  | .float value => "floating point `" ++ String.ofList (Decimal.Layout.exponential.write value) ++ "`"
  | .text value => "string " ++ String.ofList (Quoted.encode value.toList)
  | .list => "sequence"
  | .object => "map"

def Cause.describe : Cause → String
  | .unfinishedValue => "EOF while parsing a value"
  | .unfinishedText => "EOF while parsing a string"
  | .unfinishedList => "EOF while parsing a list"
  | .unfinishedObject => "EOF while parsing an object"
  | .expectedValue => "expected value"
  | .expectedLiteral => "expected ident"
  | .expectedColon => "expected `:`"
  | .expectedListSeparator => "expected `,` or `]`"
  | .expectedObjectSeparator => "expected `,` or `\x7d`"
  | .expectedName => "key must be a string"
  | .trailingComma => "trailing comma"
  | .trailingCharacters => "trailing characters"
  | .invalidNumber => "invalid number"
  | .numberOutOfRange => "number out of range"
  | .invalidEscape => "invalid escape"
  | .loneSurrogate => "lone leading surrogate in hex escape"
  | .unfinishedSurrogate => "unexpected end of hex escape"
  | .controlCharacter => "control character (\\u0000-\\u001F) found while parsing a string"
  | .tooDeep => "recursion limit exceeded"
  | .wrongType found expected => "invalid type: " ++ found.describe ++ ", expected " ++ expected
  | .wrongValue found expected => "invalid value: " ++ found.describe ++ ", expected " ++ expected
  | .wrongLength length record fields =>
    "invalid length " ++ toString length ++ ", expected struct " ++ record ++ " with " ++
      toString fields ++ (if fields = 1 then " element" else " elements")
  | .missingField name => "missing field `" ++ name ++ "`"
  | .duplicateField name => "duplicate field `" ++ name ++ "`"

structure Fault where
  cause : Cause
  unread : Nat
deriving DecidableEq

def Fault.before (cause : Cause) (rest : List Char) : Fault := ⟨cause, byteLength rest⟩

-- A fault seen in the first byte of the rest of the text, which counts as read.
def Fault.within (cause : Cause) (rest : List Char) : Fault := ⟨cause, byteLength rest - 1⟩

structure Refusal where
  cause : Cause
  position : Position
deriving DecidableEq

def Fault.locate (fault : Fault) (text : List Char) : Refusal :=
  ⟨fault.cause, Position.start.advance text (byteLength text - fault.unread)⟩

def Refusal.message (refusal : Refusal) : String :=
  refusal.cause.describe ++ " at line " ++ toString refusal.position.line ++
    " column " ++ toString refusal.position.column

end NodeProbe.Json
