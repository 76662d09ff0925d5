import NodeProbe.Probe
import NodeProbe.Proofs.Disk
import NodeProbe.Proofs.Settings.Precedence
import NodeProbe.Proofs.Sink.Prints
import Mathlib.Data.List.Permutation

set_option autoImplicit false

namespace NodeProbe.Probe

open Json Rosetta Settings

structure Run.Ends (run : Run) (exitCode : Nat) (printed : Bytes) (disk : Disk) : Prop where
  exitCode : run.exitCode = exitCode
  printed : run.printed = printed
  disk : run.disk = disk

/-- The variables that a run goes by: those of the process, and behind them those of the nearest `.env` file. -/
inductive Surroundings.Knows (surroundings : Surroundings) : (String → Option String) → Prop
  | process : surroundings.disk.Nearest ".env" surroundings.disk.working none →
      Knows surroundings surroundings.environment.get?
  | file {content : String} {bindings : List (String × List Dotenv.Piece)} :
      surroundings.disk.Nearest ".env" surroundings.disk.working (some content) →
      Dotenv.Written (Dotenv.lines content.toList) bindings →
      Knows surroundings (Dotenv.known surroundings.environment bindings)

/-- A run that stops before its first request, unless its settings are valid and it has a client. -/
structure Begins (surroundings : Surroundings) (loaded : Environment) (run : Run) (goes : Settings → Prop) : Prop where
  known : surroundings.Knows loaded.get?
  invalid : ¬ (Readable loaded.get? "PROBE_TIMEOUT_SECS" ∧ Readable loaded.get? "PROBE_REQUESTS") →
    run.Ends 1 [] surroundings.disk ∧ run.exchanges = []
  refused : (surroundings.network loaded).refusal ≠ none → run.Ends 1 [] surroundings.disk ∧ run.exchanges = []
  valid : Readable loaded.get? "PROBE_TIMEOUT_SECS" → Readable loaded.get? "PROBE_REQUESTS" →
    (surroundings.network loaded).refusal = none → ∃ settings, Configured loaded.get? settings ∧ goes settings

/-- A document that is sent to a node. -/
structure Question where
  path : String
  document : NetworkIdentifier → Value

def Question.message (question : Question) (settings : Settings) : Message :=
  ⟨.post, settings.apiUrl ++ question.path, some "application/json", (question.document settings.network).compact⟩

def networkDocument (network : NetworkIdentifier) : Value :=
  .object [("blockchain", .text network.blockchain), ("network", .text network.network)]

structure Asks (query : Query) (question : Question) : Prop where
  path : query.endpoint.path = question.path
  body : ∀ network, (query.request network).body = (question.document network).compact

theorem asks_message {query : Query} {question : Question} (asks : Asks query question) {settings : Settings}
    (bare : trimSlashes settings.apiUrl = settings.apiUrl) :
    (Client.ofSettings settings).message (query.request settings.network) = question.message settings := by
  rw [Client.message, Client.requestUrl, Client.ofSettings, Client.ofUrl, bare, Question.message, asks.body, ← asks.path]
  rfl

def seconds (elapsed : Duration) : Float :=
  elapsed.secs.toFloat + elapsed.nanos.toNat.toUInt64.toFloat / 1000000000

theorem named_listed {name : String} {probe : Probe} (listed : (name, probe) ∈ all) : named? name = some probe := by
  simp only [all, List.mem_cons, List.not_mem_nil, or_false, Prod.mk.injEq] at listed
  rcases listed with ⟨rfl, rfl⟩ | ⟨rfl, rfl⟩ | ⟨rfl, rfl⟩ | ⟨rfl, rfl⟩ | ⟨rfl, rfl⟩ | ⟨rfl, rfl⟩ | ⟨rfl, rfl⟩ | ⟨rfl, rfl⟩
  all_goals simp [named?, all]

variable {α : Type} {action : Action α} {disk after : Disk} {log events : List Event} {bytes : Bytes}

theorem action_ends {result : Except Failure α} (prints : action.Prints disk log bytes result after events)
    (exchanges : List Exchange) :
    (Run.ofAction action disk log exchanges).Ends (if result.isOk then 0 else 1) bytes after := by
  rw [Run.ofAction, Output.unlimited, prints.free []]
  cases result with
  | ok value => exact ⟨rfl, rfl, rfl⟩
  | error failure => exact ⟨rfl, rfl, rfl⟩

theorem loaded_known (surroundings : Surroundings) : surroundings.Knows surroundings.loaded.get? := by
  have nearest := surroundings.disk.find_above_nearest ".env"
  unfold Surroundings.loaded Dotenv.loaded
  cases found : surroundings.disk.findAbove ".env" with
  | none => exact .process (found ▸ nearest)
  | some content =>
    obtain ⟨bindings, written⟩ := Dotenv.written_exist (Dotenv.lines content.toList)
    rw [Option.map_some, Option.getD_some, Dotenv.load_assign content written]
    exact .file (found ▸ nearest) written

theorem knows_process {surroundings : Surroundings} {lookup : String → Option String} (knows : surroundings.Knows lookup)
    (none : surroundings.disk.findAbove ".env" = none) : lookup = surroundings.environment.get? := by
  cases knows with
  | process _ => rfl
  | file nearest _ => cases (Disk.find_above_once nearest).trans none

/-- What a probe does with valid settings and a client. -/
def goesOn (probe : Probe) (settings : Settings) (surroundings : Surroundings) : Run :=
  match probe with
  | .inquiry single => single.run settings (.ofSettings settings) surroundings
  | .load query outputFile => runLoad query outputFile settings (.ofSettings settings) surroundings

theorem stopped_ends (trouble : Trouble) (surroundings : Surroundings) :
    (Run.stopped trouble surroundings []).Ends 1 [] surroundings.disk ∧
      (Run.stopped trouble surroundings []).exchanges = [] :=
  ⟨⟨rfl, rfl, rfl⟩, rfl⟩

theorem run_goes_on (probe : Probe) (surroundings : Surroundings) {settings : Settings}
    (valid : surroundings.settings = .ok settings) (agreed : surroundings.web.refusal = none) :
    probe.run surroundings = probe.goesOn settings surroundings := by
  rw [run, valid]
  dsimp only
  rw [Client.create, agreed]
  cases probe <;> rfl

theorem run_begins (probe : Probe) (surroundings : Surroundings) (goes : Settings → Prop)
    (onward : ∀ settings, surroundings.web.refusal = none → trimSlashes settings.apiUrl = settings.apiUrl →
      probe.run surroundings = probe.goesOn settings surroundings → goes settings) :
    Begins surroundings surroundings.loaded (probe.run surroundings) goes where
  known := loaded_known surroundings
  invalid unreadable := by
    have readable := of_lookup_ok_readable surroundings.loaded.get?
    cases loads : surroundings.settings with
    | ok settings => exact absurd (readable.mp ⟨settings, loads⟩) unreadable
    | error fault =>
      rw [run, loads]
      exact stopped_ends _ surroundings
  refused refuses := by
    obtain ⟨reason, refusal⟩ := Option.ne_none_iff_exists'.mp refuses
    cases loads : surroundings.settings with
    | error fault =>
      rw [run, loads]
      exact stopped_ends _ surroundings
    | ok settings =>
      rw [run, loads]
      dsimp only
      rw [Client.create, Surroundings.web, refusal]
      exact stopped_ends _ surroundings
  valid timeoutReadable countReadable agreed := by
    obtain ⟨settings, loads⟩ := (of_lookup_ok_readable surroundings.loaded.get?).mpr ⟨timeoutReadable, countReadable⟩
    have configured := of_lookup_configured loads
    exact ⟨settings, configured, onward settings agreed (configured_bare configured)
      (run_goes_on probe surroundings loads agreed)⟩

end NodeProbe.Probe
