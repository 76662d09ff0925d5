import NodeProbe.Text.Classes

set_option autoImplicit false

namespace NodeProbe

abbrev Environment := List (String × ByteArray)

def Environment.bytes? (environment : Environment) (name : String) : Option ByteArray :=
  (environment.find? fun entry => entry.1 = name).map (·.2)

-- The text of a variable; one that is not text counts as unset.
def Environment.get? (environment : Environment) (name : String) : Option String :=
  (environment.bytes? name).bind String.fromUTF8?

def valueBehind? (key : List Char) (value : String) : Option String :=
  if (key ++ ['=']).isPrefixOf value.toList then some (String.ofList (value.toList.drop (key.length + 1)))
  else none

-- The text that a reference stands for. Variables are kept as `NAME=VALUE` and found by what stands in
-- front of an equals sign, so that a reference may reach into a value: where `A` is `B=C`, the reference
-- `A=B` stands for `C`.
def Environment.refer? (environment : Environment) (reference : String) : Option String :=
  match reference.toList.dropWhile (· ≠ '=') with
  | [] => environment.get? reference
  | _ :: key =>
    (environment.get? (String.ofList (reference.toList.takeWhile (· ≠ '=')))).bind (valueBehind? key)

def Environment.set (environment : Environment) (name value : String) : Environment :=
  (name, value.toUTF8) :: environment

def Environment.setUnset (environment : Environment) (name value : String) : Environment :=
  match environment.get? name with
  | some _ => environment
  | none => environment.set name value

namespace Dotenv

def isNameStart (c : Char) : Bool := c.isAlpha || c = '_'

def isNamePart (c : Char) : Bool := c.isAlphanum || c = '_' || c = '.'

def skipBlank (text : List Char) : List Char := text.dropWhile isBlank

def trimEnd (text : List Char) : List Char := (text.reverse.dropWhile isBlank).reverse

inductive Mode
  | plain
  | escaped
  | literal
  | reference (name : List Char)
  | braced (name : List Char)
  | ended
  | comment
deriving DecidableEq

structure Scan where
  mode : Mode
  quoted : Bool
  text : List Char
deriving DecidableEq

def Scan.start : Scan := ⟨.plain, false, []⟩

def Scan.push (scan : Scan) (c : Char) : Scan := ⟨.plain, scan.quoted, c :: scan.text⟩

def Scan.substitute (scan : Scan) (lookup : String → Option String) (name : List Char) : Scan :=
  ⟨.plain, scan.quoted, ((lookup (String.ofList name.reverse)).getD "").toList.reverse ++ scan.text⟩

def Scan.stepPlain (scan : Scan) (c : Char) : Scan :=
  if c = '$' then { scan with mode := .reference [] }
  else if c = '\\' then { scan with mode := .escaped }
  else if c = '"' then { scan with quoted := !scan.quoted }
  else if scan.quoted then scan.push c
  else if c = '\'' then { scan with mode := .literal }
  else if c = ' ' ∨ c = '\t' then { scan with mode := .ended }
  else scan.push c

def Scan.step (lookup : String → Option String) (scan : Scan) (c : Char) : Option Scan :=
  match scan.mode with
  | .plain => some (scan.stepPlain c)
  | .escaped =>
    if c ∈ ['\\', '\'', '"', '$', ' '] then some (scan.push c)
    else if c = 'n' then some (scan.push '\n')
    else none
  | .literal =>
    if c = '\'' then some { scan with mode := .plain }
    else some { scan with text := c :: scan.text }
  | .reference name =>
    if isAlphanumeric c then some { scan with mode := .reference (c :: name) }
    else if c = '\x7b' ∧ name = [] then some { scan with mode := .braced [] }
    else if c = '$' then some { scan.substitute lookup name with mode := .reference [] }
    else some ((scan.substitute lookup name).push c)
  | .braced name =>
    if c = '\x7d' then some (scan.substitute lookup name)
    else some { scan with mode := .braced (c :: name) }
  | .ended =>
    if c = ' ' ∨ c = '\t' then some scan
    else if c = '#' then some { scan with mode := .comment }
    else none
  | .comment => some scan

def Scan.finish (lookup : String → Option String) (scan : Scan) : Option String :=
  let complete (scan : Scan) := if scan.quoted then none else some (String.ofList scan.text.reverse)
  match scan.mode with
  | .literal => none
  | .braced _ => none
  | .reference name => complete (scan.substitute lookup name)
  | _ => complete scan

def parseValue (lookup : String → Option String) (text : List Char) : Option String :=
  (text.foldlM (Scan.step lookup) Scan.start).bind (Scan.finish lookup)

inductive Line
  | blank
  | binding (name value : String)
  | malformed
deriving DecidableEq, Repr

def takeName (text : List Char) : Option (List Char × List Char) :=
  match text with
  | [] => none
  | c :: rest =>
    if isNameStart c then some (c :: rest.takeWhile isNamePart, rest.dropWhile isNamePart) else none

def takeEquals (text : List Char) : Option (List Char) :=
  match skipBlank text with
  | '=' :: rest => some rest
  | _ => none

def takeTarget (text : List Char) : Option (List Char × List Char) :=
  match takeName text with
  | none => none
  | some (name, rest) =>
    match takeEquals rest with
    | some value => some (name, value)
    | none =>
      if name = "export".toList then
        match takeName (skipBlank rest) with
        | none => none
        | some (name, rest) => (takeEquals rest).map (name, ·)
      else none

def startsComment (text : List Char) : Bool := text.isEmpty || text.head? = some '#'

def parseLine (lookup : String → Option String) (line : List Char) : Line :=
  let text := skipBlank (trimEnd line)
  if startsComment text then .blank
  else
    match takeTarget text with
    | none => .malformed
    | some (name, rest) =>
      let value := skipBlank rest
      if startsComment value then .binding (String.ofList name) ""
      else
        match parseValue lookup value with
        | some value => .binding (String.ofList name) value
        | none => .malformed

-- Sets the variables of the lines one by one, up to the first malformed line. A variable that has a text
-- keeps it.
def loadLines (environment : Environment) : List (List Char) → Environment
  | [] => environment
  | line :: rest =>
    match parseLine environment.refer? line with
    | .blank => loadLines environment rest
    | .binding name value => loadLines (environment.setUnset name value) rest
    | .malformed => environment

def lines (text : List Char) : List (List Char) := text.splitOn '\n'

def load (environment : Environment) (content : String) : Environment :=
  loadLines environment (lines content.toList)

def loaded (environment : Environment) (content : Option String) : Environment :=
  (content.map (load environment)).getD environment

end Dotenv

end NodeProbe
