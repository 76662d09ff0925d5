import NodeProbe.Action
import NodeProbe.Client
import NodeProbe.Response

set_option autoImplicit false

namespace NodeProbe

open Json Rosetta

-- A unit of work that is not ready for so many polls and then has its outcome.
structure Work where
  pending : Nat
  outcome : Except Failure Value

inductive Slot
  | running (work : Work)
  | done (result : Option Value)

def Slot.start (work : Work) : Slot := .running work

def Slot.left : Slot → Nat
  | .running work => work.pending + 1
  | .done _ => 0

def Slot.result : Slot → Option Value
  | .running _ => none
  | .done result => result

def Slot.poll (index : Nat) : Slot → Slot × List Event
  | .done result => (.done result, [])
  | .running ⟨0, .ok value⟩ => (.done (some value), [])
  | .running ⟨0, .error failure⟩ => (.done none, [.requestFailed index failure])
  | .running ⟨pending + 1, outcome⟩ => (.running ⟨pending, outcome⟩, [])

theorem Slot.left_poll (index : Nat) (slot : Slot) : (slot.poll index).1.left = slot.left - 1 := by
  cases slot with
  | done result => rfl
  | running work =>
    obtain ⟨pending, outcome⟩ := work
    cases pending with
    | zero => cases outcome <;> rfl
    | succ pending => rfl

namespace Batch

def round (index : Nat) : List Slot → List Slot × List Event
  | [] => ([], [])
  | slot :: rest =>
    let polled := slot.poll index
    let others := round (index + 1) rest
    (polled.1 :: others.1, polled.2 ++ others.2)

def left : List Slot → Nat
  | [] => 0
  | slot :: rest => slot.left + left rest

theorem left_round (slots : List Slot) (index : Nat) :
    left (round index slots).1 ≤ left slots ∧ (left slots ≠ 0 → left (round index slots).1 < left slots) := by
  induction slots generalizing index with
  | nil => simp [round, left]
  | cons slot rest ih =>
    have others := ih (index + 1)
    have first := Slot.left_poll index slot
    simp only [left, round] at others ⊢
    omega

def run (slots : List Slot) : List Slot × List Event :=
  if left slots = 0 then (slots, [])
  else
    let polled := round 0 slots
    let finished := run polled.1
    (finished.1, polled.2 ++ finished.2)
termination_by left slots
decreasing_by exact (left_round slots 0).2 (by assumption)

end Batch

structure Report where
  results : List (Option Value)
  elapsed : Duration

namespace Report

def size (report : Report) : Nat := report.results.length

def isEmpty (report : Report) : Bool := report.results.isEmpty

def succeeded (report : Report) : Nat := report.results.countP Option.isSome

def failed (report : Report) : Nat := report.size - report.succeeded

def first (report : Report) : Option Value := report.results.head?.join

def requestsPerSecond (report : Report) : Float :=
  let seconds := report.elapsed.seconds
  if report.isEmpty ∨ seconds == 0 then 0
  else report.size.toUInt64.toFloat / seconds

end Report

def runBatch (units : List Work) (elapsed : Duration) : Report × List Event :=
  let finished := Batch.run (units.map Slot.start)
  let report : Report := ⟨finished.1.map Slot.result, elapsed⟩
  (report, finished.2 ++ [.batchComplete report.size report.succeeded report.failed])


namespace Load

/-- The outcome of each request, with its slot, in the order in which the requests are sent. -/
def exchange (web : Web) (client : Client) (request : Request) :
    List Nat → List Exchange → List (Nat × Except Failure Value) × List Exchange
  | [], history => ([], history)
  | slot :: order, history =>
    let first := client.postJson web request history
    let others := exchange web client request order first.2
    ((slot, first.1) :: others.1, others.2)

-- A slot is ready once its own reply has come; replies come in the order of the requests.
def work (outcomes : List (Nat × Except Failure Value)) (slot : Nat) : Option Work :=
  (outcomes.findIdx? fun outcome => outcome.1 = slot).bind fun rank =>
    outcomes[rank]?.map fun outcome => ⟨rank, outcome.2⟩

def fire (web : Web) (client : Client) (request : Request) (count : Nat) (order : List Nat) (elapsed : Duration)
    (history : List Exchange) : Report × List Event × List Exchange :=
  let exchanged := exchange web client request order history
  let batch := runBatch ((List.range count).filterMap (work exchanged.1)) elapsed
  (batch.1, .batchStarted count request.endpoint.path :: batch.2, exchanged.2)

end Load

end NodeProbe
