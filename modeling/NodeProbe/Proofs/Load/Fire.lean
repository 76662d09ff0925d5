import NodeProbe.Load
import NodeProbe.Proofs.Batch.Slots
import NodeProbe.Proofs.Client.Exchange
import NodeProbe.Proofs.Sink.Outcome
import Mathlib.Data.List.Nodup

set_option autoImplicit false

namespace NodeProbe

open Json Rosetta

def Message.copies (message : Message) (reply : Nat → Except Lost Head) (count : Nat) : List Exchange :=
  (List.range count).map fun rank => (message, reply rank)

/-- The replies to copies of one message, by their place in the order of arrival. -/
def Web.Replies (web : Web) (message : Message) (history : List Exchange) (reply : Nat → Except Lost Head) : Prop :=
  ∀ rank, reply rank = web.respond (history ++ message.copies reply rank) message

def Web.copies (web : Web) (message : Message) (history : List Exchange) : Nat → List Exchange
  | 0 => []
  | count + 1 =>
    web.copies message history count ++ [(message, web.respond (history ++ web.copies message history count) message)]

variable {web : Web} {message : Message} {history : List Exchange} {reply : Nat → Except Lost Head}

theorem copies_succ (count : Nat) : message.copies reply (count + 1) = message.copies reply count ++ [(message, reply count)] := by
  rw [Message.copies, List.range_succ, List.map_append]
  rfl

theorem replies_exist (web : Web) (message : Message) (history : List Exchange) :
    ∃ reply, web.Replies message history reply := by
  refine ⟨fun rank => web.respond (history ++ web.copies message history rank) message, fun rank => ?_⟩
  have same : ∀ count, web.copies message history count =
      message.copies (fun rank => web.respond (history ++ web.copies message history rank) message) count := by
    intro count
    induction count with
    | zero => rfl
    | succ count ih => rw [Web.copies, copies_succ, ← ih]
  rw [← same]

theorem replies_stay (replies : web.Replies message history reply) (stays : web.Stays) (rank : Nat) :
    Stays (reply rank) := by
  rw [replies rank]
  exact stays _ message

def Client.judged (web : Web) (client : Client) (reply : Except Lost Head) : Except Failure Value :=
  (client.receive web .zero reply).bind decodeResponse

theorem Client.judged_some (client : Client) (reply : Except Lost Head) (value : Value) :
    (client.judged web reply).toOption = some value ↔ web.Serves reply value := by
  rw [← client.receive_decodes .zero, ← judged]
  cases client.judged web reply with
  | error failure => exact ⟨nofun, nofun⟩
  | ok own =>
    constructor
    · exact fun same => congrArg Except.ok (Option.some.inj same)
    · exact fun same => congrArg some (Except.ok.inj same)

theorem Client.judged_none (client : Client) (reply : Except Lost Head) :
    (client.judged web reply).toOption = none ↔ ∀ value, ¬ web.Serves reply value := by
  simp only [← client.judged_some, Option.eq_none_iff_forall_ne_some, ne_eq]

namespace Load

variable {client : Client} {request : Request} {order : List Nat}

theorem exchange_from (replies : web.Replies (client.message request) history reply) (stays : ∀ rank, Stays (reply rank))
    (start : Nat) :
    exchange web client request order (history ++ (client.message request).copies reply start) =
      (order.mapIdx fun rank slot => (slot, client.judged web (reply (start + rank))),
        history ++ (client.message request).copies reply (start + order.length)) := by
  induction order generalizing start with
  | nil => rfl
  | cons slot order ih =>
    have here := client.post_json_once request (history ++ (client.message request).copies reply start)
      (replies start ▸ stays start)
    rw [← replies start, List.append_assoc, ← copies_succ] at here
    rw [exchange, here]
    dsimp only
    rw [ih (start + 1)]
    simp only [List.mapIdx_cons, List.length_cons, Nat.add_assoc, Nat.add_comm 1, Nat.add_zero, Client.judged]

theorem exchange_run (replies : web.Replies (client.message request) history reply) (stays : ∀ rank, Stays (reply rank)) :
    exchange web client request order history =
      (order.mapIdx fun rank slot => (slot, client.judged web (reply rank)),
        history ++ (client.message request).copies reply order.length) := by
  have run := @exchange_from web history reply client request order replies stays 0
  simpa only [Message.copies, List.range_zero, List.map_nil, List.append_nil, Nat.zero_add] using run

variable {outcome : Nat → Except Failure Value}

theorem work_at (different : order.Nodup) (rank slot : Nat) (sent : order[rank]? = some slot) :
    work (order.mapIdx fun rank slot => (slot, outcome rank)) slot = some ⟨rank, outcome rank⟩ := by
  obtain ⟨inside, same⟩ := List.getElem?_eq_some_iff.mp sent
  have found : (order.mapIdx fun rank slot => (slot, outcome rank)).findIdx? (fun own => own.1 = slot) = some rank := by
    refine List.findIdx?_eq_some_iff_getElem.mpr ⟨?_, ?_, ?_⟩
    · rwa [List.length_mapIdx]
    · rw [List.getElem_mapIdx]
      exact decide_eq_true same
    · intro earlier before
      rw [List.getElem_mapIdx, decide_eq_true_iff]
      intro again
      have coincide := (different.getElem_inj_iff).mp (again.trans same.symm)
      exact absurd coincide (Nat.ne_of_lt before)
  rw [work, found, Option.bind_some, List.getElem?_mapIdx, sent]
  rfl

theorem works_in_slots (count : Nat) (permuted : order.Perm (List.range count)) :
    (List.range count).filterMap (work (order.mapIdx fun rank slot => (slot, outcome rank))) =
      (List.range count).map fun slot => ⟨order.idxOf slot, outcome (order.idxOf slot)⟩ := by
  have different : order.Nodup := permuted.nodup_iff.mpr List.nodup_range
  rw [← List.filterMap_eq_map]
  apply List.filterMap_congr
  intro slot issued
  have sent : slot ∈ order := permuted.mem_iff.mpr issued
  apply work_at different
  rw [List.getElem?_eq_getElem (List.idxOf_lt_length_of_mem sent), List.getElem_idxOf]

theorem ranks_permuted (count : Nat) (permuted : order.Perm (List.range count)) :
    ((List.range count).map order.idxOf).Perm (List.range count) := by
  have different : order.Nodup := permuted.nodup_iff.mpr List.nodup_range
  have counted : order.length = count := by rw [permuted.length_eq, List.length_range]
  have ranks : order.map order.idxOf = List.range count := by
    apply List.ext_getElem
    · rw [List.length_map, List.length_range, counted]
    · intro rank inside _
      rw [List.getElem_map, List.getElem_range, different.idxOf_getElem]
  exact ranks ▸ (permuted.map order.idxOf).symm

theorem rank_of_slot (count : Nat) (permuted : order.Perm (List.range count)) (rank slot : Nat)
    (sent : order[rank]? = some slot) : ((List.range count).map order.idxOf)[slot]? = some rank := by
  have different : order.Nodup := permuted.nodup_iff.mpr List.nodup_range
  obtain ⟨inside, same⟩ := List.getElem?_eq_some_iff.mp sent
  have issued : slot < count := List.mem_range.mp (permuted.mem_iff.mp (List.mem_of_getElem? sent))
  rw [List.getElem?_map, List.getElem?_range issued, Option.map_some, ← same, different.idxOf_getElem]

theorem fire_outcomes (count : Nat) (elapsed : Duration) (permuted : order.Perm (List.range count)) {after : List Exchange}
    (exchanged : exchange web client request order history = (order.mapIdx fun rank slot => (slot, outcome rank), after)) :
    (fire web client request count order elapsed history).1.results =
      ((List.range count).map order.idxOf).map fun rank => (outcome rank).toOption := by
  rw [fire, exchanged]
  dsimp only
  rw [works_in_slots count permuted, batch_results, List.map_map, List.map_map]
  rfl

variable (replies : web.Replies (client.message request) history reply) (stays : ∀ rank, Stays (reply rank))
  (count : Nat) (elapsed : Duration) (permuted : order.Perm (List.range count))

include replies stays permuted

theorem fire_sent : (fire web client request count order elapsed history).2.2 =
    history ++ (client.message request).copies reply count := by
  show (exchange web client request order history).2 = _
  rw [exchange_run replies stays, permuted.length_eq, List.length_range]

theorem fire_results : (fire web client request count order elapsed history).1.results =
    ((List.range count).map order.idxOf).map fun rank => (client.judged web (reply rank)).toOption :=
  fire_outcomes count elapsed permuted (exchange_run replies stays)

theorem fire_results_permuted : (fire web client request count order elapsed history).1.results.Perm
    ((List.range count).map fun rank => (client.judged web (reply rank)).toOption) := by
  rw [fire_results replies stays count elapsed permuted]
  exact (ranks_permuted count permuted).map _

theorem fire_size : (fire web client request count order elapsed history).1.size = count := by
  rw [Report.size, (fire_results_permuted replies stays count elapsed permuted).length_eq, List.length_map, List.length_range]

theorem fire_slot (rank slot : Nat) (sent : order[rank]? = some slot) :
    (fire web client request count order elapsed history).1.results[slot]? =
      some (client.judged web (reply rank)).toOption := by
  rw [fire_results replies stays count elapsed permuted, List.getElem?_map, rank_of_slot count permuted rank slot sent,
    Option.map_some]

omit replies stays permuted

theorem serves_report (sink : Sink) {reply : Except Lost Head} {status : UInt16} {text : String}
    (brings : web.Brings reply status text) (took : Duration) (world : World) (value : Value)
    (noFault : ∀ fault, ((sink.report ⟨status, text, took⟩).run world).1 ≠ .error (.io fault)) :
    web.Serves reply value ↔ ((sink.report ⟨status, text, took⟩).run world).1 = .ok (.success value) := by
  rw [sink.report_success_iff _ world value noFault, serves_iff brings, Response.isOk, decide_eq_true_iff]

theorem every_nth (count period : Nat) (fails : Nat → Bool)
    (each : ∀ rank < count, fails rank = true ↔ period ∣ rank + 1) :
    (List.range count).countP fails = count / period := by
  induction count with
  | zero => rw [List.range_zero, List.countP_nil, Nat.zero_div]
  | succ count ih =>
    have last := each count (Nat.lt_succ_self count)
    rw [List.range_succ, List.countP_append, ih fun rank before => each rank (Nat.lt_succ_of_lt before), Nat.succ_div,
      List.countP_singleton]
    by_cases falls : period ∣ count + 1
    · rw [if_pos falls, if_pos (last.mpr falls)]
    · rw [if_neg falls, if_neg (mt last.mp falls)]

theorem failed_count (report : Report) : report.failed = report.results.countP Option.isNone := by
  have all := @List.length_eq_countP_add_countP _ Option.isSome report.results
  have opposite : (fun result : Option Value => decide ¬ result.isSome = true) = Option.isNone := by
    funext result
    cases result <;> rfl
  rw [opposite] at all
  rw [Report.failed, Report.size, Report.succeeded]
  omega

/-- Copies of a request fill the same slots in whatever order they are sent. -/
theorem fire_any_order (web : Web) (client : Client) (request : Request) (count : Nat) (order : List Nat)
    (elapsed : Duration) (history : List Exchange) (reply : Nat → Except Lost Head)
    (permuted : order.Perm (List.range count)) (stays : ∀ rank, Stays (reply rank))
    (replies : web.Replies ⟨.post, client.baseUrl ++ request.endpoint.path, some "application/json", request.body⟩
      history reply) :
    let fired := fire web client request count order elapsed history
    fired.2.2 = history ++ (List.range count).map (fun rank =>
      (⟨.post, client.baseUrl ++ request.endpoint.path, some "application/json", request.body⟩, reply rank)) ∧
    fired.1.size = count ∧
    (∀ rank slot : Nat, order[rank]? = some slot →
      (∀ value, fired.1.results[slot]? = some (some value) ↔ web.Serves (reply rank) value) ∧
      (fired.1.results[slot]? = some none ↔ ∀ value, ¬ web.Serves (reply rank) value) ∧
      (∀ status text took value, web.Brings (reply rank) status text → ∀ (sink : Sink) (world : World),
        (∀ fault, ((sink.report ⟨status, text, took⟩).run world).1 ≠ .error (.io fault)) →
        (fired.1.results[slot]? = some (some value) ↔
          ((sink.report ⟨status, text, took⟩).run world).1 = .ok (.success value)))) ∧
    (∀ other, other.Perm (List.range count) →
      let again := fire web client request count other elapsed history
      fired.1.results.Perm again.1.results ∧ fired.1.succeeded = again.1.succeeded ∧
        fired.1.failed = again.1.failed) ∧
    (∀ period, (∀ rank < count, (∀ value, ¬ web.Serves (reply rank) value) ↔ period ∣ rank + 1) →
      fired.1.failed = count / period) := by
  intro fired
  have results := fire_results_permuted replies stays count elapsed permuted
  refine ⟨fire_sent replies stays count elapsed permuted, fire_size replies stays count elapsed permuted, ?_, ?_, ?_⟩
  · intro rank slot sent
    have slotted := fire_slot replies stays count elapsed permuted rank slot sent
    have filled : ∀ value, fired.1.results[slot]? = some (some value) ↔ web.Serves (reply rank) value := by
      intro value
      rw [slotted, Option.some_inj, client.judged_some]
    refine ⟨filled, ?_, ?_⟩
    · rw [slotted, Option.some_inj, client.judged_none]
    · intro status text took value brings sink world noFault
      rw [filled]
      exact serves_report sink brings took world value noFault
  · intro other otherPermuted again
    have same := results.trans (fire_results_permuted replies stays count elapsed otherPermuted).symm
    refine ⟨same, same.countP_eq _, ?_⟩
    rw [failed_count, failed_count]
    exact same.countP_eq _
  · intro period each
    rw [failed_count, results.countP_eq, List.countP_map]
    apply every_nth
    intro rank before
    rw [Function.comp_apply, Option.isNone_iff_eq_none, client.judged_none]
    exact each rank before

-- Two of seven copies fail, in whatever slots the third and the sixth to arrive belong.
theorem every_third_fails :
    let script : Nat → Except Lost Head := fun rank =>
      if (rank + 1) % 3 = 0 then .error (.failure "the connection was closed") else .ok ⟨200, none, none, .ok (utf8 "null")⟩
    (fire (.scripted script) (.ofUrl "http://127.0.0.1:8080" (.ofSecs 5)) (Query.mempool.request .main) 7
      [4, 0, 6, 1, 5, 2, 3] .zero []).1.failed = 7 / 3 := by
  intro script
  have replies : ∀ message, (Web.scripted script).Replies message [] script := by
    intro message rank
    simp [Web.scripted, Message.copies]
  have stays : ∀ rank, Stays (script rank) := by
    intro rank head same
    simp only [script] at same
    split at same
    · cases same
    · cases same
      exact .inr rfl
  have readable : ∀ rank, (rank + 1) % 3 ≠ 0 → (Web.scripted script).Serves (script rank) .null := by
    intro rank usual
    refine ⟨"null", ?_, rfl⟩
    have whole : script rank = .ok ⟨200, none, none, .ok (utf8 "null")⟩ := if_neg usual
    rw [whole]
    exact reads_brings (scripted_reads script) rfl (untyped_unmarked (by decide))
  obtain ⟨_, _, _, _, nth⟩ := fire_any_order (.scripted script) (.ofUrl "http://127.0.0.1:8080" (.ofSecs 5))
    (Query.mempool.request .main) 7 [4, 0, 6, 1, 5, 2, 3] .zero [] script (by decide) stays (replies _)
  refine nth 3 fun rank _ => ?_
  rw [Nat.dvd_iff_mod_eq_zero]
  by_cases falls : (rank + 1) % 3 = 0
  · refine ⟨fun _ => falls, fun _ value serves => ?_⟩
    obtain ⟨_, ⟨_, _, same, _⟩, _⟩ := serves
    simp [script, falls] at same
  · exact ⟨fun never => absurd (readable rank falls) (never .null), fun divides => absurd divides falls⟩

end Load

end NodeProbe
