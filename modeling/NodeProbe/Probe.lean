import NodeProbe.Decimal
import NodeProbe.Load
import NodeProbe.Sink

set_option autoImplicit false

namespace NodeProbe

open Json Rosetta

structure Inquiry where
  query : Query
  heading : String
  outputFile : Option String
  timing : Bool

inductive Probe
  | inquiry (inquiry : Inquiry)
  -- Many requests at once; the first result goes to a file.
  | load (query : Query) (outputFile : String)

namespace Probe

def blockIndex : Int64 := 607885

def blockHash : String := "0x46b7a0d3cc9e274ded3b940337d70bc045fb62440b638c61f8806ea11c198a13"

def transactionHash : String := "0x8c83f6b6b53ad70959016dbe08da2238ff9c6925980a9018cde8b28f454cf053"

def account : String := "0x042069420694206942069420"

def loadAccount : String := "0x22581339fdaed9c4942edc58a17ef9b6f03f9a13"

def block : Probe := .inquiry ⟨.blockByIndex blockIndex, "Response JSON:", none, false⟩

def blockByHash : Probe := .inquiry ⟨.blockByHash blockHash, "Block Data:", some "output.json", false⟩

-- The block is left open: no index and an empty hash.
def blockTransaction : Probe :=
  .inquiry ⟨.blockTransaction ⟨none, some ""⟩ transactionHash, "Block Data:", some "output.json", true⟩

def accountBalance : Probe := .inquiry ⟨.accountBalance account, "Response JSON:", none, true⟩

def constructionPreprocess : Probe :=
  .inquiry ⟨.constructionPreprocess [.transfer 0 account "-100" .native] [], "Response JSON:", none, true⟩

def networkStatus : Probe := .inquiry ⟨.networkStatus, "Response JSON:", none, true⟩

def mempool : Probe := .inquiry ⟨.mempool, "Response JSON:", none, true⟩

def spamBalance : Probe := .load (.accountBalance loadAccount) "balance_output.json"

def all : List (String × Probe) :=
  [("account_balance", accountBalance), ("block", block), ("block_by_hash", blockByHash),
   ("block_transaction", blockTransaction), ("construction_preprocess", constructionPreprocess),
   ("mempool", mempool), ("network_status", networkStatus), ("spam_balance", spamBalance)]

def named? (name : String) : Option Probe := (all.find? fun entry => entry.1 = name).map (·.2)

inductive Trouble
  | settings (fault : SettingsFault)
  | failure (failure : Failure)
deriving DecidableEq, Repr

def Trouble.message : Trouble → String
  | .settings fault => fault.message
  | .failure reason => reason.message

def Trouble.cause? : Trouble → Option String
  | .settings fault => some fault.cause.message
  | .failure reason => reason.cause?

def Trouble.text (trouble : Trouble) : String :=
  match trouble.cause? with
  | none => trouble.message
  | some cause => trouble.message ++ "\n\nCaused by:\n    " ++ cause

/-- All that a run can see and change. What the web does hangs on the variables of the process, since they name proxies. -/
structure Surroundings where
  environment : Environment
  disk : Disk
  network : Environment → Web
  elapsed : Duration
  -- The order in which the requests of a load probe are sent.
  order : Nat → List Nat

structure Run where
  trouble : Option Trouble
  printed : Bytes
  log : List Event
  disk : Disk
  exchanges : List Exchange

def Run.exitCode (run : Run) : Nat := if run.trouble.isSome then 1 else 0

def Surroundings.loaded (surroundings : Surroundings) : Environment :=
  Dotenv.loaded surroundings.environment (surroundings.disk.findAbove ".env")

def Surroundings.settings (surroundings : Surroundings) : Except SettingsFault Settings :=
  Settings.ofEnvironment surroundings.environment (surroundings.disk.findAbove ".env")

def Surroundings.web (surroundings : Surroundings) : Web := surroundings.network surroundings.loaded

def Run.stopped (trouble : Trouble) (surroundings : Surroundings) (exchanges : List Exchange) : Run :=
  ⟨some trouble, [], [], surroundings.disk, exchanges⟩

def Run.ofAction {α : Type} (action : Action α) (disk : Disk) (log : List Event) (exchanges : List Exchange) : Run :=
  let result := action.run ⟨.unlimited, disk, log⟩
  let trouble := match result.1 with
    | .ok _ => none
    | .error failure => some (.failure failure)
  ⟨trouble, result.2.output.printed, result.2.log, result.2.disk, exchanges⟩

end Probe

open Probe

def Inquiry.sink (inquiry : Inquiry) (settings : Settings) : Sink :=
  ⟨inquiry.heading, inquiry.outputFile.map settings.outputPath, inquiry.timing⟩

def Inquiry.run (inquiry : Inquiry) (settings : Settings) (client : Client) (surroundings : Surroundings) : Run :=
  let request := inquiry.query.request settings.network
  match client.post surroundings.web surroundings.elapsed request [] with
  | (.error failure, exchanges) => .stopped (.failure failure) surroundings exchanges
  | (.ok response, exchanges) =>
    .ofAction ((inquiry.sink settings).report response) surroundings.disk [] exchanges

namespace Probe

def summary (report : Report) : List String :=
  ["Time taken for " ++ toString report.size ++ " concurrent balance requests: " ++
      Decimal.fixed 2 report.elapsed.seconds ++ " seconds",
    "Succeeded: " ++ toString report.succeeded ++ ", failed: " ++ toString report.failed ++
      ", " ++ Decimal.fixed 1 report.requestsPerSecond ++ " requests/s"]

def reportLoad (path : String) (report : Report) : Action Unit := do
  match report.first with
  | some value => persist path value
  | none => pure ()
  (summary report).forM Action.printLine

def runLoad (query : Query) (outputFile : String) (settings : Settings) (client : Client)
    (surroundings : Surroundings) : Run :=
  let request := query.request settings.network
  let count := settings.requestCount.toNat
  let fired := Load.fire surroundings.web client request count (surroundings.order count) surroundings.elapsed []
  .ofAction (reportLoad (settings.outputPath outputFile) fired.1) surroundings.disk fired.2.1 fired.2.2

def run (probe : Probe) (surroundings : Surroundings) : Run :=
  match surroundings.settings with
  | .error fault => .stopped (.settings fault) surroundings []
  | .ok settings =>
    match Client.create surroundings.web settings with
    | .error failure => .stopped (.failure failure) surroundings []
    | .ok client =>
      match probe with
      | .inquiry single => single.run settings client surroundings
      | .load query outputFile => runLoad query outputFile settings client surroundings

end Probe

end NodeProbe
