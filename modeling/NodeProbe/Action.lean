import NodeProbe.Disk
import NodeProbe.Json.Printer
import NodeProbe.Response
import NodeProbe.Rosetta.Types

set_option autoImplicit false

namespace NodeProbe

open Json Rosetta

inductive Level
  | info
  | warn
deriving DecidableEq, Repr

def Level.name : Level → String
  | .info => "info"
  | .warn => "warn"

inductive Event
  | saved (path : String)
  | apiError (status : UInt16) (error : ApiError)
  | batchStarted (requests : Nat) (path : String)
  | requestFailed (slot : Nat) (failure : Failure)
  | batchComplete (requests succeeded failed : Nat)
deriving DecidableEq

namespace Event

def level : Event → Level
  | .apiError _ _ => .warn
  | .requestFailed _ _ => .warn
  | _ => .info

-- A failed request is told by the body that came with it, if one came.
def message : Event → String
  | .saved _ => "Saved response"
  | .apiError _ error => "API error: " ++ error.message
  | .batchStarted _ _ => "Starting batch"
  | .requestFailed _ (.status _ body) => "Request failed: " ++ body
  | .requestFailed _ failure => "Request failed: " ++ failure.message
  | .batchComplete _ _ _ => "Batch complete"

def countValue (count : Nat) : Value :=
  if small : count < 0x10000000000000000 then .number (.integer ⟨count, by omega, by omega⟩) else .null

def statusValue (status : UInt16) : Value := countValue status.toNat

def fields : Event → List (String × Value)
  | .saved path => [("path", .text path)]
  | .apiError status error =>
    [("status", statusValue status), ("code", .number (.integer (Word.int32.toInteger error.code))),
      ("retriable", .boolean error.retriable)]
  | .batchStarted requests path => [("requests", countValue requests), ("path", .text path)]
  | .requestFailed slot (.status code _) => [("slot", countValue slot), ("status", statusValue code)]
  | .requestFailed slot _ => [("slot", countValue slot)]
  | .batchComplete requests succeeded failed =>
    [("requests", countValue requests), ("succeeded", countValue succeeded), ("failed", countValue failed)]

end Event


structure World where
  output : Output
  disk : Disk
  log : List Event

def Action (α : Type) : Type := World → Except Failure α × World

namespace Action

def run {α : Type} (action : Action α) (world : World) : Except Failure α × World := action world

instance : Monad Action where
  pure value := fun world => (.ok value, world)
  bind action next := fun world =>
    match action world with
    | (.ok value, after) => next value after
    | (.error failure, after) => (.error failure, after)

def fail {α : Type} (failure : Failure) : Action α := fun world => (.error failure, world)

def ofResult {α : Type} (result : Except Failure α) : Action α := fun world => (result, world)

def log (event : Event) : Action Unit := fun world =>
  (.ok (), { world with log := world.log ++ [event] })

def printLine (text : String) : Action Unit := fun world =>
  match world.output.write (utf8 (text ++ "\n")) with
  | (true, output) => (.ok (), { world with output })
  | (false, output) => (.error (.io .outputFull), { world with output })

def writeFile (path content : String) : Action Unit := fun world =>
  match world.disk.write path content with
  | .ok disk => (.ok (), { world with disk })
  | .error fault => (.error (.io fault), world)

end Action

end NodeProbe
