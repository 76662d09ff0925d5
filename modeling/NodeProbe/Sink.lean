import NodeProbe.Action
import NodeProbe.Json.Document
import NodeProbe.Json.Printer
import NodeProbe.Response

set_option autoImplicit false

namespace NodeProbe

open Json Rosetta

def persist (path : String) (value : Value) : Action Unit := do
  let text ← Action.ofResult value.render
  Action.writeFile path text
  Action.log (.saved path)

inductive Outcome
  | success (value : Value)
  | failure (status : UInt16) (body : String)

structure Sink where
  heading : String
  outputPath : Option String
  timing : Bool
deriving DecidableEq, Repr

namespace Sink

def reportSuccess (sink : Sink) (value : Value) : Action Outcome := do
  Action.printLine sink.heading
  let text ← Action.ofResult value.render
  Action.printLine text
  match sink.outputPath with
  | some path => persist path value
  | none => pure ()
  pure (.success value)

def reportFailure (status : UInt16) (body : String) : Action Outcome := do
  match ApiError.parse? body with
  | some error => Action.log (.apiError status error)
  | none => pure ()
  Action.printLine ("Error: " ++ toString status.toNat)
  Action.printLine body
  pure (.failure status body)

def judge (sink : Sink) (response : Response) : Action Outcome :=
  if response.isOk then
    match Json.parse response.body with
    | .error refusal => Action.fail (.decode refusal.message)
    | .ok value => sink.reportSuccess value
  else reportFailure response.status response.body

def timingLine (elapsed : Duration) : String := "Time taken: " ++ plainFloat elapsed.seconds ++ " seconds"

def report (sink : Sink) (response : Response) : Action Outcome := do
  let outcome ← sink.judge response
  if sink.timing then Action.printLine (timingLine response.elapsed)
  pure outcome

end Sink

end NodeProbe
