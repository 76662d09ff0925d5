import NodeProbe.Proofs.Decimal.Fixed
import NodeProbe.Proofs.Load.Fire
import NodeProbe.Proofs.Probe.Setup

set_option autoImplicit false

namespace NodeProbe.Load

open Json Rosetta

variable {web : Web} {client : Client} {request : Request} {order : List Nat} {history : List Exchange}
  {reply : Nat → Except Lost Head}

def served (web : Web) (client : Client) (reply : Nat → Except Lost Head) (rank : Nat) : Bool :=
  (client.judged web (reply rank)).toOption.isSome

theorem served_iff (client : Client) (rank : Nat) :
    served web client reply rank = true ↔ ∃ value, web.Serves (reply rank) value := by
  simp only [served, Option.isSome_iff_exists, client.judged_some]

theorem served_counted (count : Nat) :
    (List.range count).countP (served web client reply) + (List.range count).countP (fun rank => !served web client reply rank) =
      count := by
  have all := @List.length_eq_countP_add_countP _ (served web client reply) (List.range count)
  simpa using all.symm

/-- A report on copies of a request, by the replies to them in the order of arrival. -/
structure Tally (web : Web) (order : List Nat) (count : Nat) (reply : Nat → Except Lost Head) (served : Nat → Bool)
    (report : Report) : Prop where
  size : report.size = count
  succeeded : report.succeeded = (List.range count).countP served
  failed : report.failed = (List.range count).countP fun rank => !served rank
  empty : (count = 0 ∨ ∃ rank : Nat, order[rank]? = some 0 ∧ served rank = false) → report.first = none
  first : ∀ (rank : Nat) value, order[rank]? = some 0 → web.Serves (reply rank) value → report.first = some value

theorem fire_tally (replies : web.Replies (client.message request) history reply) (stays : ∀ rank, Stays (reply rank))
    (count : Nat) (elapsed : Duration) (permuted : order.Perm (List.range count)) :
    Tally web order count reply (served web client reply) (fire web client request count order elapsed history).1 := by
  have size := fire_size replies stays count elapsed permuted
  have succeeded : (fire web client request count order elapsed history).1.succeeded =
      (List.range count).countP (served web client reply) := by
    rw [Report.succeeded, (fire_results_permuted replies stays count elapsed permuted).countP_eq, List.countP_map]
    rfl
  have first : ∀ rank : Nat, order[rank]? = some 0 →
      (fire web client request count order elapsed history).1.first = (client.judged web (reply rank)).toOption := by
    intro rank sent
    rw [Report.first, List.head?_eq_getElem?, fire_slot replies stays count elapsed permuted rank 0 sent]
    rfl
  refine ⟨size, succeeded, ?_, ?_, ?_⟩
  · have all := @served_counted web client reply count
    rw [Report.failed, size, succeeded]
    omega
  · rintro (zero | ⟨rank, sent, nothing⟩)
    · rw [zero, Report.size, List.length_eq_zero_iff] at size
      rw [Report.first, zero, size]
      rfl
    · rw [first rank sent]
      exact Option.not_isSome_iff_eq_none.mp (ne_true_of_eq_false nothing)
  · intro rank value sent serves
    rw [first rank sent]
    exact (client.judged_some (reply rank) value).mpr serves

end NodeProbe.Load

namespace NodeProbe.Probe

open Json Rosetta Settings

/-- The two lines about a batch. -/
inductive Summary (count succeeded failed : Nat) (elapsed : Float) : Bytes → Prop
  | lines {duration rate : String} : Decimal.Fixed 2 elapsed duration →
      Decimal.Fixed 1 (if count = 0 ∨ elapsed == 0 then 0 else count.toUInt64.toFloat / elapsed) rate →
      Summary count succeeded failed elapsed
        (line ("Time taken for " ++ toString count ++ " concurrent balance requests: " ++ duration ++ " seconds") ++
          line ("Succeeded: " ++ toString succeeded ++ ", failed: " ++ toString failed ++ ", " ++ rate ++ " requests/s"))

def balanceQuestion : Question where
  path := "/account/balance"
  document network := .object [
    ("account_identifier", .object [("address", .text "0x22581339fdaed9c4942edc58a17ef9b6f03f9a13")]),
    ("network_identifier", networkDocument network)]

/-- What the load probe does with the replies to its copies, by their place in the order of arrival. -/
structure Fired (settings : Settings) (count : Nat) (path : String) (web : Web) (surroundings : Surroundings)
    (reply : Nat → Except Lost Head) (served : Nat → Bool) (run : Run) : Prop where
  replies : web.Replies (balanceQuestion.message settings) [] reply
  sent : run.exchanges = (List.range count).map fun rank => (balanceQuestion.message settings, reply rank)
  brought : ∀ rank, served rank = true ↔ ∃ value, web.Serves (reply rank) value
  counted : (List.range count).countP served + (List.range count).countP (fun rank => !served rank) = count
  told : run.exitCode = 0 → Summary count ((List.range count).countP served)
    ((List.range count).countP fun rank => !served rank) (seconds surroundings.elapsed) run.printed
  kept : (count = 0 ∨ ∃ rank : Nat, (surroundings.order count)[rank]? = some 0 ∧ served rank = false) →
    run.exitCode = 0 ∧ run.disk = surroundings.disk
  saved : ∀ (rank : Nat) value after, (surroundings.order count)[rank]? = some 0 → web.Serves (reply rank) value →
    surroundings.disk.write path value.pretty = .ok after →
    run.exitCode = 0 ∧ run.disk = after ∧ surroundings.disk.Gains after path value.pretty
  unsaved : ∀ (rank : Nat) value fault, (surroundings.order count)[rank]? = some 0 → web.Serves (reply rank) value →
    surroundings.disk.write path value.pretty = .error fault → run.Ends 1 [] surroundings.disk

theorem balance_asks : Asks (.accountBalance loadAccount) balanceQuestion :=
  ⟨rfl, fun _ => congrArg Value.compact (by cbv)⟩

variable {disk after : Disk} {log : List Event} {path : String} {report : Report} {value : Value}

def summaryBlock (report : Report) : Bytes :=
  line ((summary report).headD "") ++ line ((summary report).getLastD "")

theorem summary_block (report : Report) :
    Summary report.size report.succeeded report.failed (seconds report.elapsed) (summaryBlock report) := by
  have empty : report.isEmpty = true ↔ report.size = 0 := by
    rw [Report.isEmpty, List.isEmpty_iff_length_eq_zero, Report.size]
  have rate : report.requestsPerSecond = if report.size = 0 ∨ seconds report.elapsed == 0 then 0
      else report.size.toUInt64.toFloat / seconds report.elapsed := by
    rw [Report.requestsPerSecond]
    exact if_congr (or_congr_left empty) rfl rfl
  exact .lines (Decimal.fixed_written 2 (by decide) _) (rate ▸ Decimal.fixed_written 1 (by decide) _)

theorem prints_summary (report : Report) :
    ((summary report).forM Action.printLine).Prints disk log (summaryBlock report) (.ok ()) disk log :=
  prints_lines ((summary report).headD "") ((summary report).getLastD "") (@prints_pure _ disk log ())

variable (disk path log) (exchanges : List Exchange)

theorem load_unsaved (empty : report.first = none) :
    (Run.ofAction (reportLoad path report) disk log exchanges).Ends 0 (summaryBlock report) disk := by
  have reported := prints_after (@prints_pure _ disk log ()) (prints_summary report)
  rw [reportLoad, empty]
  exact action_ends reported exchanges

theorem load_saved (held : report.first = some value) (written : disk.write path value.pretty = .ok after) :
    (Run.ofAction (reportLoad path report) disk log exchanges).Ends 0 (summaryBlock report) after := by
  have reported := prints_after (@prints_persist disk after log path value written) (prints_summary report)
  rw [reportLoad, held]
  exact action_ends reported exchanges

theorem load_stopped (held : report.first = some value) {fault : IoFault}
    (failed : disk.write path value.pretty = .error fault) :
    (Run.ofAction (reportLoad path report) disk log exchanges).Ends 1 [] disk := by
  have stopped := prints_after_error ((summary report).forM Action.printLine)
    (@prints_persist_error disk log path value fault failed)
  rw [reportLoad, held]
  exact action_ends stopped exchanges

theorem load_told (report : Report)
    (ended : (Run.ofAction (reportLoad path report) disk log exchanges).exitCode = 0) :
    (Run.ofAction (reportLoad path report) disk log exchanges).printed = summaryBlock report := by
  cases held : report.first with
  | none => exact (load_unsaved disk log path exchanges held).printed
  | some value =>
    cases written : disk.write path value.pretty with
    | ok after => exact (load_saved disk log path exchanges held written).printed
    | error fault => cases (load_stopped disk log path exchanges held written).exitCode.symm.trans ended

theorem tally_fired {web : Web} {surroundings : Surroundings} {settings : Settings} {count : Nat}
    {reply : Nat → Except Lost Head} {served : Nat → Bool} {exchanges : List Exchange}
    (replies : web.Replies (balanceQuestion.message settings) [] reply)
    (sent : exchanges = (balanceQuestion.message settings).copies reply count)
    (brought : ∀ rank, served rank = true ↔ ∃ value, web.Serves (reply rank) value)
    (counted : (List.range count).countP served + (List.range count).countP (fun rank => !served rank) = count)
    (tally : Load.Tally web (surroundings.order count) count reply served report)
    (took : report.elapsed = surroundings.elapsed) :
    Fired settings count path web surroundings reply served
      (.ofAction (reportLoad path report) surroundings.disk log exchanges) where
  replies := replies
  sent := sent
  brought := brought
  counted := counted
  told ended := by
    have block := summary_block report
    rw [tally.size, tally.succeeded, tally.failed, took] at block
    rw [load_told surroundings.disk log path exchanges report ended]
    exact block
  kept unsaved := by
    have ended := load_unsaved surroundings.disk log path exchanges (tally.empty unsaved)
    exact ⟨ended.exitCode, ended.disk⟩
  saved rank value after here serves written := by
    have ended := load_saved surroundings.disk log path exchanges (tally.first rank value here serves) written
    exact ⟨ended.exitCode, ended.disk, surroundings.disk.write_gains after path _ written⟩
  unsaved rank value _ here serves :=
    load_stopped surroundings.disk log path exchanges (tally.first rank value here serves)

theorem run_load_fired (surroundings : Surroundings) (settings : Settings) (stays : surroundings.web.Stays)
    (permuted : ∀ count, (surroundings.order count).Perm (List.range count))
    (bare : trimSlashes settings.apiUrl = settings.apiUrl) {reply : Nat → Except Lost Head}
    (replies : surroundings.web.Replies (balanceQuestion.message settings) [] reply) :
    Fired settings settings.requestCount.toNat (settings.outputPath "balance_output.json") surroundings.web
      surroundings reply (Load.served surroundings.web (.ofSettings settings) reply)
      (runLoad (.accountBalance loadAccount) "balance_output.json" settings (.ofSettings settings) surroundings) := by
  have asked := asks_message balance_asks bare
  have own := asked.symm ▸ replies
  have each := replies_stay replies stays
  have order := permuted settings.requestCount.toNat
  have sent := Load.fire_sent own each _ surroundings.elapsed order
  rw [List.nil_append, asked] at sent
  exact tally_fired _ _ replies sent (Load.served_iff _) (Load.served_counted _)
    (Load.fire_tally own each _ surroundings.elapsed order) rfl

/-- The load probe with valid settings sends every copy, counts what it gets, and saves the document of the first slot. -/
theorem load_effects (surroundings : Surroundings) (stays : ∀ environment, (surroundings.network environment).Stays)
    (permuted : ∀ count, (surroundings.order count).Perm (List.range count)) :
    ∃ probe loaded, Probe.named? "spam_balance" = some probe ∧
      Begins surroundings loaded (probe.run surroundings) fun settings =>
        ∃ path reply served, Within settings.outputDir "balance_output.json" path ∧
          Fired settings settings.requestCount.toNat path (surroundings.network loaded) surroundings reply served
            (probe.run surroundings) := by
  refine ⟨spamBalance, surroundings.loaded, named_listed (by simp [all]), run_begins spamBalance surroundings _ ?_⟩
  intro settings _ bare goesOn
  obtain ⟨reply, replies⟩ := replies_exist surroundings.web (balanceQuestion.message settings) []
  rw [goesOn]
  exact ⟨_, reply, _, output_path_within settings (by decide),
    run_load_fired surroundings settings (stays surroundings.loaded) permuted bare replies⟩

-- The copy of the first slot arrives last, after one that is never answered.
theorem last_copy_saved :
    let web := Web.scripted fun rank =>
      if rank = 0 then .error .timeout else .ok ⟨200, none, none, .ok (utf8 "null")⟩
    let surroundings : Surroundings := ⟨[("PROBE_REQUESTS", "2".toUTF8), ("PROBE_OUTPUT_DIR", "/".toUTF8)],
      ⟨[], ["home"]⟩, fun _ => web, .zero, fun count => (List.range count).reverse⟩
    ∃ probe, named? "spam_balance" = some probe ∧ (probe.run surroundings).exitCode = 0 ∧
      (probe.run surroundings).exchanges.length = 2 ∧
      (probe.run surroundings).disk.read? "/balance_output.json" = some (Value.pretty .null) := by
  intro web surroundings
  have stays : ∀ environment, (surroundings.network environment).Stays := by
    intro _ history message head same
    replace same : (if history.length = 0 then _ else _) = Except.ok head := same
    split at same
    · cases same
    · cases same
      exact .inr rfl
  obtain ⟨probe, loaded, named, begins⟩ :=
    load_effects surroundings stays fun count => List.reverse_perm (List.range count)
  have lookup := knows_process begins.known (by decide +kernel)
  have two : loaded.get? "PROBE_REQUESTS" = some "2" := by
    rw [lookup]
    decide +kernel
  have spelled : Numeral.Spells "2" (2 : UInt64).toNat := (Numeral.parse_ok_iff "2" 2).mp (by decide +kernel)
  have timeoutReadable : Readable loaded.get? "PROBE_TIMEOUT_SECS" := unset_readable <| by
    rw [lookup]
    decide +kernel
  have countReadable : Readable loaded.get? "PROBE_REQUESTS" := fun raw set =>
    ⟨_, Option.some.inj (two.symm.trans set) ▸ spelled⟩
  obtain ⟨settings, configured, path, reply, served, within, fired⟩ := begins.valid timeoutReadable countReadable rfl
  have count : settings.requestCount = 2 := by
    have chosen := configured.requestCount
    rw [Chosen, two] at chosen
    exact Except.ok.inj (((Numeral.parse_ok_iff _ _).mpr chosen).symm.trans ((Numeral.parse_ok_iff _ _).mpr spelled))
  have directory : settings.outputDir = "/" := by
    rw [configured.outputDir, lookup]
    decide +kernel
  rw [directory] at within
  obtain rfl : path = "/balance_output.json" := within_closed (by decide) within
  have second : reply 1 = .ok ⟨200, none, none, .ok (utf8 "null")⟩ := fired.replies 1
  have serves : web.Serves (reply 1) .null :=
    second ▸ ⟨"null", reads_brings (scripted_reads _) rfl (untyped_unmarked (by decide)), rfl⟩
  rw [count] at fired
  have writable : (surroundings.disk.write "/balance_output.json" (Value.pretty .null)).isOk = true := by
    decide +kernel
  cases written : surroundings.disk.write "/balance_output.json" (Value.pretty .null) with
  | error fault =>
    rw [written] at writable
    cases writable
  | ok after =>
    obtain ⟨exitCode, disk, gained⟩ := fired.saved 1 .null after rfl serves written
    refine ⟨probe, named, exitCode, ?_, ?_⟩
    · rw [fired.sent]
      rfl
    · rw [disk, gained.held]

end NodeProbe.Probe
