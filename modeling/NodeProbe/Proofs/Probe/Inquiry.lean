import NodeProbe.Proofs.Client.Exchange
import NodeProbe.Proofs.Probe.Setup
import NodeProbe.Proofs.Sink.Outcome

set_option autoImplicit false

namespace NodeProbe.Probe

open Json Rosetta Settings

/-- What a probe asks, and what it does with the answer. -/
structure Task extends Question where
  heading : String
  saved : Bool
  timed : Bool

def whole (value : Int) (lower : -0x8000000000000000 ≤ value := by decide)
    (upper : value < 0x10000000000000000 := by decide) : Value :=
  .number (.integer ⟨value, lower, upper⟩)

def tasks : List (String × Task) :=
  [("block", {
      path := "/block"
      document := fun network => .object [
        ("block_identifier", .object [("hash", .null), ("index", whole 607885)]),
        ("network_identifier", networkDocument network)]
      heading := "Response JSON:", saved := false, timed := false }),
   ("block_by_hash", {
      path := "/block"
      document := fun network => .object [
        ("block_identifier", .object [
          ("hash", .text "0x46b7a0d3cc9e274ded3b940337d70bc045fb62440b638c61f8806ea11c198a13"), ("index", .null)]),
        ("network_identifier", networkDocument network)]
      heading := "Block Data:", saved := true, timed := false }),
   ("block_transaction", {
      path := "/block/transaction"
      document := fun network => .object [
        ("block_identifier", .object [("hash", .text ""), ("index", .null)]),
        ("network_identifier", networkDocument network),
        ("transaction_identifier", .object [
          ("hash", .text "0x8c83f6b6b53ad70959016dbe08da2238ff9c6925980a9018cde8b28f454cf053")])]
      heading := "Block Data:", saved := true, timed := true }),
   ("account_balance", {
      path := "/account/balance"
      document := fun network => .object [
        ("account_identifier", .object [("address", .text "0x042069420694206942069420")]),
        ("network_identifier", networkDocument network)]
      heading := "Response JSON:", saved := false, timed := true }),
   ("construction_preprocess", {
      path := "/construction/preprocess"
      document := fun network => .object [
        ("metadata", .object []),
        ("network_identifier", networkDocument network),
        ("operations", .list [.object [
          ("account", .object [("address", .text "0x042069420694206942069420")]),
          ("amount", .object [
            ("currency", .object [("decimals", whole 9), ("symbol", .text "MCM")]), ("value", .text "-100")]),
          ("operation_identifier", .object [("index", whole 0)]),
          ("type", .text "TRANSFER")]])]
      heading := "Response JSON:", saved := false, timed := true }),
   ("network_status", {
      path := "/network/status"
      document := fun network => .object [("network_identifier", networkDocument network)]
      heading := "Response JSON:", saved := false, timed := true }),
   ("mempool", {
      path := "/mempool"
      document := fun network => .object [("network_identifier", networkDocument network)]
      heading := "Response JSON:", saved := false, timed := true })]

def Task.timing (task : Task) (elapsed : Duration) : Bytes :=
  if task.timed then line ("Time taken: " ++ plainFloat (seconds elapsed) ++ " seconds") else []

/-- What a probe does with the reply to its request. -/
structure Answered (task : Task) (settings : Settings) (path : String) (web : Web) (surroundings : Surroundings)
    (run : Run) : Prop where
  sent : run.exchanges = [(task.message settings, web.respond [] (task.message settings))]
  unanswered : (∀ status text, ¬ web.Brings (web.respond [] (task.message settings)) status text) →
    run.Ends 1 [] surroundings.disk
  raw : web.Reads → ∀ head text, web.respond [] (task.message settings) = .ok head → head.body = .ok (utf8 text) →
    Unmarked head.contentType text → web.Brings (web.respond [] (task.message settings)) head.status text
  refused : ∀ status text, web.Brings (web.respond [] (task.message settings)) status text → status ≠ 200 →
    run.Ends 0 (line ("Error: " ++ toString status.toNat) ++ line text ++ task.timing surroundings.elapsed)
      surroundings.disk
  undecodable : ∀ text refusal, web.Brings (web.respond [] (task.message settings)) 200 text →
    Json.parse text = .error refusal → run.Ends 1 [] surroundings.disk
  shown : ∀ text value, web.Brings (web.respond [] (task.message settings)) 200 text →
    Json.parse text = .ok value → task.saved = false →
    run.Ends 0 (line task.heading ++ line value.pretty ++ task.timing surroundings.elapsed) surroundings.disk
  saved : ∀ text value after, web.Brings (web.respond [] (task.message settings)) 200 text →
    Json.parse text = .ok value → task.saved = true → surroundings.disk.write path value.pretty = .ok after →
    run.Ends 0 (line task.heading ++ line value.pretty ++ task.timing surroundings.elapsed) after ∧
      surroundings.disk.Gains after path value.pretty
  unsaved : ∀ text value fault, web.Brings (web.respond [] (task.message settings)) 200 text →
    Json.parse text = .ok value → task.saved = true → surroundings.disk.write path value.pretty = .error fault →
    run.Ends 1 (line task.heading ++ line value.pretty) surroundings.disk

/-- An inquiry does what a task says. -/
structure Does (inquiry : Inquiry) (task : Task) : Prop where
  asks : Asks inquiry.query task.toQuestion
  heading : inquiry.heading = task.heading
  output : inquiry.outputFile = if task.saved then some "output.json" else none
  timing : inquiry.timing = task.timed

theorem tasks_done (name : String) (task : Task) (listed : (name, task) ∈ tasks) :
    ∃ inquiry, named? name = some (.inquiry inquiry) ∧ Does inquiry task := by
  simp only [tasks, List.mem_cons, List.not_mem_nil, or_false, Prod.mk.injEq] at listed
  rcases listed with ⟨rfl, rfl⟩ | ⟨rfl, rfl⟩ | ⟨rfl, rfl⟩ | ⟨rfl, rfl⟩ | ⟨rfl, rfl⟩ | ⟨rfl, rfl⟩ | ⟨rfl, rfl⟩
  · exact ⟨_, @named_listed _ block (by simp [all]), ⟨rfl, fun _ => congrArg Value.compact (by cbv)⟩, rfl, rfl, rfl⟩
  · exact ⟨_, @named_listed _ blockByHash (by simp [all]), ⟨rfl, fun _ => congrArg Value.compact (by cbv)⟩, rfl, rfl, rfl⟩
  · exact ⟨_, @named_listed _ blockTransaction (by simp [all]), ⟨rfl, fun _ => congrArg Value.compact (by cbv)⟩, rfl, rfl, rfl⟩
  · exact ⟨_, @named_listed _ accountBalance (by simp [all]), ⟨rfl, fun _ => congrArg Value.compact (by cbv)⟩, rfl, rfl, rfl⟩
  · exact ⟨_, @named_listed _ constructionPreprocess (by simp [all]), ⟨rfl, fun _ => congrArg Value.compact (by cbv)⟩, rfl, rfl, rfl⟩
  · exact ⟨_, @named_listed _ networkStatus (by simp [all]), ⟨rfl, fun _ => congrArg Value.compact (by cbv)⟩, rfl, rfl, rfl⟩
  · exact ⟨_, @named_listed _ mempool (by simp [all]), ⟨rfl, fun _ => congrArg Value.compact (by cbv)⟩, rfl, rfl, rfl⟩

end NodeProbe.Probe

namespace NodeProbe.Inquiry

open Json Rosetta Settings Probe

variable {inquiry : Inquiry} {task : Task} (does : Does inquiry task) (settings : Settings)

include does

theorem sink_heading : (inquiry.sink settings).heading = task.heading := does.heading

theorem sink_timing (response : Response) :
    (inquiry.sink settings).timingBlock response = task.timing response.elapsed := by
  rw [Sink.timingBlock, sink, does.timing]
  rfl

theorem sink_unsaved (shown : task.saved = false) : (inquiry.sink settings).outputPath = none := by
  rw [sink, does.output, if_neg (by rw [shown]; exact Bool.false_ne_true), Option.map_none]

theorem sink_saved (saved : task.saved = true) :
    (inquiry.sink settings).outputPath = some (settings.outputPath "output.json") := by
  rw [sink, does.output, if_pos saved, Option.map_some]

variable (surroundings : Surroundings) (stays : surroundings.web.Stays)
  (bare : trimSlashes settings.apiUrl = settings.apiUrl)

include stays bare

theorem run_posts : (Client.ofSettings settings).post surroundings.web surroundings.elapsed
    (inquiry.query.request settings.network) [] =
      ((Client.ofSettings settings).receive surroundings.web surroundings.elapsed
          (surroundings.web.respond [] (task.message settings)),
        [(task.message settings, surroundings.web.respond [] (task.message settings))]) := by
  rw [Client.post_once _ _ _ _ (stays _ _), asks_message does.asks bare]
  rfl

theorem run_sent : (inquiry.run settings (.ofSettings settings) surroundings).exchanges =
    [(task.message settings, surroundings.web.respond [] (task.message settings))] := by
  dsimp only [Inquiry.run]
  rw [run_posts does settings surroundings stays bare]
  cases (Client.ofSettings settings).receive surroundings.web surroundings.elapsed
    (surroundings.web.respond [] (task.message settings)) <;> rfl

theorem run_unanswered
    (silent : ∀ status text, ¬ surroundings.web.Brings (surroundings.web.respond [] (task.message settings)) status text) :
    (inquiry.run settings (.ofSettings settings) surroundings).Ends 1 [] surroundings.disk := by
  obtain ⟨failure, failed⟩ := (Client.ofSettings settings).receive_error silent surroundings.elapsed
  dsimp only [Inquiry.run]
  rw [run_posts does settings surroundings stays bare, failed]
  exact ⟨rfl, rfl, rfl⟩

variable {status : UInt16} {text : String}
  (brings : surroundings.web.Brings (surroundings.web.respond [] (task.message settings)) status text)

include brings

theorem run_reported {bytes : Bytes} {result : Except Failure Outcome} {after : Disk} {events : List Event}
    (prints : ((inquiry.sink settings).report ⟨status, text, surroundings.elapsed⟩).Prints
      surroundings.disk [] bytes result after events) :
    (inquiry.run settings (.ofSettings settings) surroundings).Ends (if result.isOk then 0 else 1) bytes after := by
  dsimp only [Inquiry.run]
  rw [run_posts does settings surroundings stays bare, Client.receive_brings _ brings]
  exact action_ends prints _

theorem run_refused (other : status ≠ 200) :
    (inquiry.run settings (.ofSettings settings) surroundings).Ends 0
      (line ("Error: " ++ toString status.toNat) ++ line text ++ task.timing surroundings.elapsed)
      surroundings.disk := by
  have refused : Response.isOk ⟨status, text, surroundings.elapsed⟩ = false := decide_eq_false other
  obtain ⟨events, told⟩ := (inquiry.sink settings).report_other refused
  rw [sink_timing does] at told
  exact run_reported does settings surroundings stays bare brings told

omit brings

variable (accepted : surroundings.web.Brings (surroundings.web.respond [] (task.message settings)) 200 text)

include accepted

theorem run_undecodable {refusal : Refusal} (refused : Json.parse text = .error refusal) :
    (inquiry.run settings (.ofSettings settings) surroundings).Ends 1 [] surroundings.disk :=
  run_reported does settings surroundings stays bare accepted (Sink.report_undecodable _ rfl refused)

variable {value : Value} (parsed : Json.parse text = .ok value)

include parsed

theorem run_shown (shown : task.saved = false) :
    (inquiry.run settings (.ofSettings settings) surroundings).Ends 0
      (line task.heading ++ line value.pretty ++ task.timing surroundings.elapsed) surroundings.disk := by
  have told := @Sink.report_shown surroundings.disk [] ⟨200, text, surroundings.elapsed⟩ value _
    (sink_unsaved does settings shown) rfl parsed
  rw [sink_heading does, sink_timing does] at told
  exact run_reported does settings surroundings stays bare accepted told

theorem run_saved (saved : task.saved = true) {after : Disk}
    (written : surroundings.disk.write (settings.outputPath "output.json") value.pretty = .ok after) :
    (inquiry.run settings (.ofSettings settings) surroundings).Ends 0
      (line task.heading ++ line value.pretty ++ task.timing surroundings.elapsed) after := by
  have told := @Sink.report_saved surroundings.disk after [] ⟨200, text, surroundings.elapsed⟩ value _ _
    (sink_saved does settings saved) rfl parsed written
  rw [sink_heading does, sink_timing does] at told
  exact run_reported does settings surroundings stays bare accepted told

theorem run_unsaved (saved : task.saved = true) {fault : IoFault}
    (failed : surroundings.disk.write (settings.outputPath "output.json") value.pretty = .error fault) :
    (inquiry.run settings (.ofSettings settings) surroundings).Ends 1
      (line task.heading ++ line value.pretty) surroundings.disk := by
  have told := @Sink.report_unsaved surroundings.disk [] ⟨200, text, surroundings.elapsed⟩ value _ _
    (sink_saved does settings saved) rfl parsed fault failed
  rw [sink_heading does] at told
  exact run_reported does settings surroundings stays bare accepted told

omit accepted parsed

theorem run_answered : Answered task settings (settings.outputPath "output.json") surroundings.web surroundings
    (inquiry.run settings (.ofSettings settings) surroundings) where
  sent := run_sent does settings surroundings stays bare
  unanswered := run_unanswered does settings surroundings stays bare
  raw reads _ _ same whole unmarked := same ▸ reads_brings reads whole unmarked
  refused _ _ := run_refused does settings surroundings stays bare
  undecodable _ _ brings refused := run_undecodable does settings surroundings stays bare brings refused
  shown _ _ brings parsed shown := run_shown does settings surroundings stays bare brings parsed shown
  saved _ _ after brings parsed saved written :=
    ⟨run_saved does settings surroundings stays bare brings parsed saved written,
      surroundings.disk.write_gains after _ _ written⟩
  unsaved _ _ _ brings parsed saved := run_unsaved does settings surroundings stays bare brings parsed saved

omit does stays bare

/-- A single-call probe with valid settings asks once, shows what it gets, and saves it where its task says so. -/
theorem inquiry_effects (name : String) (task : Task) (listed : (name, task) ∈ tasks) (surroundings : Surroundings)
    (stays : ∀ environment, (surroundings.network environment).Stays) :
    ∃ probe loaded, Probe.named? name = some probe ∧
      Begins surroundings loaded (probe.run surroundings) fun settings =>
        ∃ path, Within settings.outputDir "output.json" path ∧
          Answered task settings path (surroundings.network loaded) surroundings (probe.run surroundings) := by
  obtain ⟨inquiry, named, does⟩ := tasks_done name task listed
  refine ⟨_, _, named, run_begins (.inquiry inquiry) surroundings _ ?_⟩
  intro settings _ bare goesOn
  rw [goesOn]
  exact ⟨_, output_path_within settings (by decide),
    run_answered does settings surroundings (stays surroundings.loaded) bare⟩

theorem null_block_saved :
    let web := Web.scripted fun _ => .ok ⟨200, none, none, .ok (utf8 "null")⟩
    let surroundings : Surroundings := ⟨[("PROBE_OUTPUT_DIR", "/".toUTF8)], ⟨[], ["home"]⟩, fun _ => web, .zero, List.range⟩
    ∃ probe, named? "block_by_hash" = some probe ∧ (probe.run surroundings).exitCode = 0 ∧
      (probe.run surroundings).printed = line "Block Data:" ++ line (Value.pretty .null) ∧
      (probe.run surroundings).disk.read? "/output.json" = some (Value.pretty .null) := by
  intro web surroundings
  have stays : ∀ environment, (surroundings.network environment).Stays := fun _ _ _ head same => by
    cases same
    exact .inr rfl
  obtain ⟨probe, loaded, named, begins⟩ :=
    inquiry_effects "block_by_hash" _ (.tail _ (.head _)) surroundings stays
  have lookup := knows_process begins.known (by decide +kernel)
  have readable : ∀ name ∈ ["PROBE_TIMEOUT_SECS", "PROBE_REQUESTS"], Readable loaded.get? name := by
    have unset : ∀ name ∈ ["PROBE_TIMEOUT_SECS", "PROBE_REQUESTS"], loaded.get? name = none := by
      rw [lookup]
      decide +kernel
    exact fun name number => unset_readable (unset name number)
  obtain ⟨settings, configured, path, within, answered⟩ :=
    begins.valid (readable _ (.head _)) (readable _ (.tail _ (.head _))) rfl
  have directory : settings.outputDir = "/" := by
    rw [configured.outputDir, lookup]
    decide +kernel
  rw [directory] at within
  obtain rfl : path = "/output.json" := within_closed (by decide) within
  have brings : web.Brings (.ok ⟨200, none, none, .ok (utf8 "null")⟩) 200 "null" :=
    reads_brings (scripted_reads _) rfl (untyped_unmarked (by decide))
  have writable : (surroundings.disk.write "/output.json" (Value.pretty .null)).isOk = true := by decide +kernel
  cases written : surroundings.disk.write "/output.json" (Value.pretty .null) with
  | error fault =>
    rw [written] at writable
    cases writable
  | ok after =>
    obtain ⟨ended, gained⟩ := answered.saved "null" .null after brings rfl rfl written
    refine ⟨probe, named, ended.exitCode, ended.printed.trans (List.append_nil _), ?_⟩
    rw [ended.disk, gained.held]

end NodeProbe.Inquiry
