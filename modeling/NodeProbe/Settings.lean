import NodeProbe.Json.Typed
import NodeProbe.Rosetta.Types
import NodeProbe.Settings.Dotenv

set_option autoImplicit false

namespace NodeProbe

inductive NumeralFault
  | empty
  | badDigit
  | tooLarge
deriving DecidableEq, Repr

def NumeralFault.message : NumeralFault → String
  | .empty => "cannot parse integer from empty string"
  | .badDigit => "invalid digit found in string"
  | .tooLarge => "number too large to fit in target type"

namespace Numeral

-- Reads on from a value; the first character that is no digit or passes the limit decides.
def readDigits (value : Nat) : List Char → Except NumeralFault Nat
  | [] => .ok value
  | c :: rest =>
    if !c.isDigit then .error .badDigit
    else if 10 * value + (c.toNat - 48) < 0x10000000000000000 then readDigits (10 * value + (c.toNat - 48)) rest
    else .error .tooLarge

def readUnsigned (text : List Char) : Except NumeralFault Nat :=
  match text with
  | [] => .error .empty
  | ['+'] => .error .badDigit
  | '+' :: digits => readDigits 0 digits
  | digits => readDigits 0 digits

def parse (text : String) : Except NumeralFault UInt64 :=
  (readUnsigned text.toList).map UInt64.ofNat

end Numeral

namespace Path

-- An absolute name stands for itself; any other one goes into the directory, with one slash between.
def join (directory name : String) : String :=
  if name.toList.head? = some '/' ∨ directory = "" then name
  else if directory.toList.getLast? = some '/' then directory ++ name
  else directory ++ "/" ++ name

end Path

structure Settings where
  apiUrl : String
  network : Rosetta.NetworkIdentifier
  timeoutSecs : UInt64
  requestCount : UInt64
  outputDir : String
deriving DecidableEq, Repr

structure SettingsFault where
  name : String
  raw : String
  cause : NumeralFault
deriving DecidableEq, Repr

def SettingsFault.message (fault : SettingsFault) : String :=
  fault.name ++ " is not a number: " ++ fault.raw

def SettingsFault.chain (fault : SettingsFault) : List String := [fault.message, fault.cause.message]

namespace Settings

def standard : Settings := ⟨"http://localhost:8080", .main, 30, 1500, "."⟩

def trimSlashes (url : String) : String :=
  String.ofList (url.toList.reverse.dropWhile (· = '/')).reverse

def number (lookup : String → Option String) (name : String) (standard : UInt64) :
    Except SettingsFault UInt64 :=
  match lookup name with
  | none => .ok standard
  | some raw =>
    match Numeral.parse raw with
    | .ok value => .ok value
    | .error cause => .error ⟨name, raw, cause⟩

def ofLookup (lookup : String → Option String) : Except SettingsFault Settings := do
  let timeoutSecs ← number lookup "PROBE_TIMEOUT_SECS" standard.timeoutSecs
  let requestCount ← number lookup "PROBE_REQUESTS" standard.requestCount
  return {
    apiUrl := ((lookup "ROSETTA_API_URL").map trimSlashes).getD standard.apiUrl
    network := {
      blockchain := (lookup "ROSETTA_BLOCKCHAIN").getD standard.network.blockchain
      network := (lookup "ROSETTA_NETWORK").getD standard.network.network }
    timeoutSecs
    requestCount
    outputDir := (lookup "PROBE_OUTPUT_DIR").getD standard.outputDir }

-- The settings of a process, with the variables of a file for those that are unset.
def ofEnvironment (environment : Environment) (dotenv : Option String) : Except SettingsFault Settings :=
  ofLookup (Dotenv.loaded environment dotenv).get?

def outputPath (settings : Settings) (name : String) : String := Path.join settings.outputDir name

open Json

def shape : Shape Settings :=
  .record "ProbeConfig"
    (.field "api_url" .text .refused <|
      .field "network" Rosetta.NetworkIdentifier.shape .refused <|
      .field "timeout_secs" (.word .uint64) .refused <|
      .field "request_count" (.word .size) .refused <|
      .field "output_dir" .path .refused .done)
    (fun parts => ⟨parts.1, parts.2.1, parts.2.2.1, parts.2.2.2.1, parts.2.2.2.2.1⟩)
    (fun settings => (settings.apiUrl, settings.network, settings.timeoutSecs, settings.requestCount,
      settings.outputDir, ()))

end Settings

end NodeProbe
