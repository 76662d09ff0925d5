import NodeProbe.Proofs.Sink.Outcome

set_option autoImplicit false

namespace NodeProbe

open Json Rosetta

theorem write_whole {output after : Output} {bytes : Bytes} (written : output.write bytes = (true, after)) :
    after.printed = output.printed ++ bytes := by
  obtain ⟨printed, room⟩ := output
  cases room with
  | none =>
    cases written
    rfl
  | some room =>
    obtain ⟨enough, rfl⟩ := Prod.mk.inj written
    rw [List.take_of_length_le (of_decide_eq_true enough)]

theorem write_fits_all (output : Output) (bytes : Bytes) : (output.write bytes).1 = output.fits bytes := by
  obtain ⟨printed, room⟩ := output
  cases room <;> rfl

theorem write_cut {output after : Output} {bytes : Bytes} (written : output.write bytes = (false, after)) :
    ∃ part, part <+: bytes ∧ part ≠ bytes ∧ after.printed = output.printed ++ part := by
  obtain ⟨printed, room⟩ := output
  cases room with
  | none => cases written
  | some room =>
    obtain ⟨short, rfl⟩ := Prod.mk.inj written
    have less := Nat.lt_of_not_le (of_decide_eq_false short)
    refine ⟨bytes.take room, List.take_prefix room bytes, ?_, rfl⟩
    intro same
    have length := congrArg List.length same
    rw [List.length_take] at length
    omega

theorem tells_then {α β : Type} {action : Action α} {bytes : Bytes} {value : α} (told : action.Tells bytes value)
    (next : α → Action β) (world : World) :
    (action >>= next).run world =
      if (world.output.write bytes).1 then (next value).run { world with output := (world.output.write bytes).2 }
      else (.error (.io .outputFull), { world with output := (world.output.write bytes).2 }) := by
  rw [run_bind, told world]
  cases (world.output.write bytes).1 <;> rfl

namespace Sink

def shown (sink : Sink) (value : Value) : Bytes := line sink.heading ++ line value.pretty

-- What becomes of a document that has been shown: nothing, or it is saved under the path.
inductive Keeps (sink : Sink) (value : Value) (world : World) : Disk → List Event → Prop
  | unnamed : sink.outputPath = none → Keeps sink value world world.disk world.log
  | saved {path : String} {disk : Disk} : sink.outputPath = some path →
      world.disk.write path value.pretty = .ok disk → Keeps sink value world disk (world.log ++ [.saved path])

-- The places where a report can end, with its result and the world that it leaves.
inductive Ends (sink : Sink) (response : Response) (world : World) : Except Failure Outcome → World → Prop
  | undecodable {refusal : Refusal} : response.isOk = true → Json.parse response.body = .error refusal →
      Ends sink response world (.error (.decode refusal.message)) world
  | refusal {whole : Bool} {output : Output} : response.isOk = false →
      world.output.write (line ("Error: " ++ toString response.status.toNat) ++ line response.body ++
        sink.timingBlock response) = (whole, output) →
      Ends sink response world
        (if whole then .ok (.failure response.status response.body) else .error (.io .outputFull))
        { world with output, log := world.log ++ refusalEvents response }
  | documentCut {value : Value} {output : Output} : response.isOk = true → Json.parse response.body = .ok value →
      world.output.write (sink.shown value) = (false, output) →
      Ends sink response world (.error (.io .outputFull)) { world with output }
  | unsaved {value : Value} {output : Output} {path : String} {fault : IoFault} : response.isOk = true →
      Json.parse response.body = .ok value → world.output.write (sink.shown value) = (true, output) →
      sink.outputPath = some path → world.disk.write path value.pretty = .error fault →
      Ends sink response world (.error (.io fault)) { world with output }
  | kept {value : Value} {output last : Output} {disk : Disk} {log : List Event} {whole : Bool} :
      response.isOk = true → Json.parse response.body = .ok value →
      world.output.write (sink.shown value) = (true, output) → sink.Keeps value world disk log →
      output.write (sink.timingBlock response) = (whole, last) →
      Ends sink response world (if whole then .ok (.success value) else .error (.io .outputFull)) ⟨last, disk, log⟩

theorem shown_run {α : Type} (sink : Sink) (value : Value) (next : Action α) (world : World) :
    (do Action.printLine sink.heading; Action.printLine value.pretty; next).run world =
      if (world.output.write (sink.shown value)).1 then
        next.run { world with output := (world.output.write (sink.shown value)).2 }
      else (.error (.io .outputFull), { world with output := (world.output.write (sink.shown value)).2 }) := by
  rw [tells_then (tells_line sink.heading), tells_then (tells_line value.pretty), shown, write_append]
  rcases world.output.write (line sink.heading) with ⟨fits, output⟩
  cases fits <;> rfl

theorem conclude_run (sink : Sink) (response : Response) (outcome : Outcome) (world : World) :
    (sink.conclude response outcome).run world =
      (if (world.output.write (sink.timingBlock response)).1 then .ok outcome else .error (.io .outputFull),
        { world with output := (world.output.write (sink.timingBlock response)).2 }) :=
  sink.conclude_tells response outcome world

theorem report_ends (sink : Sink) (response : Response) (world : World) :
    sink.Ends response world ((sink.report response).run world).1 ((sink.report response).run world).2 := by
  cases accepted : response.isOk with
  | false =>
    rw [sink.report_refusal response accepted world]
    exact .refusal accepted rfl
  | true =>
    cases parsed : Json.parse response.body with
    | error refusal =>
      rw [sink.report_refused world accepted parsed]
      exact .undecodable accepted parsed
    | ok value =>
      rw [report_judge, judge_accepted sink accepted parsed, run_bind, success_steps, shown_run]
      rcases written : world.output.write (sink.shown value) with ⟨fits, output⟩
      cases fits with
      | false => exact .documentCut accepted parsed written
      | true =>
        have ending {disk : Disk} {log : List Event} (keeps : sink.Keeps value world disk log) :
            sink.Ends response world ((sink.conclude response (.success value)).run ⟨output, disk, log⟩).1
              ((sink.conclude response (.success value)).run ⟨output, disk, log⟩).2 := by
          rw [conclude_run]
          rcases timed : output.write (sink.timingBlock response) with ⟨whole, last⟩
          exact .kept accepted parsed written keeps timed
        dsimp only [if_true]
        cases named : sink.outputPath with
        | none => exact ending (.unnamed named)
        | some path =>
          dsimp only
          rw [run_bind]
          cases saved : world.disk.write path value.pretty with
          | error fault =>
            rw [persist_error path value { world with output } fault saved]
            exact .unsaved accepted parsed written named saved
          | ok disk =>
            rw [persist_ok path value { world with output } disk saved]
            exact ending (.saved named saved)

def undecodable (response : Response) : Bool := response.isOk && !(Json.parse response.body).isOk

theorem undecodable_iff (response : Response) :
    undecodable response = true ↔ response.status = 200 ∧ ∃ refusal, Json.parse response.body = .error refusal := by
  rw [undecodable, Bool.and_eq_true, Response.isOk, decide_eq_true_iff]
  refine and_congr_right fun _ => ?_
  cases Json.parse response.body with
  | error refusal => exact ⟨fun _ => ⟨refusal, rfl⟩, fun _ => rfl⟩
  | ok value => exact ⟨nofun, nofun⟩

variable {sink : Sink} {response : Response} {before after : World} {result : Except Failure Outcome}

theorem document_decodable {value : Value} (parsed : Json.parse response.body = .ok value) :
    undecodable response = false := by
  rw [undecodable, parsed]
  exact Bool.and_false _

theorem ends_decode_iff (ends : sink.Ends response before result after) :
    (∃ reason, result = .error (.decode reason)) ↔ undecodable response = true := by
  cases ends with
  | undecodable accepted refused =>
    refine ⟨fun _ => ?_, fun _ => ⟨_, rfl⟩⟩
    rw [undecodable, accepted, refused]
    rfl
  | @refusal whole _ other =>
    rw [undecodable, other]
    cases whole <;> exact ⟨nofun, nofun⟩
  | documentCut _ parsed =>
    rw [document_decodable parsed]
    exact ⟨nofun, nofun⟩
  | unsaved _ parsed =>
    rw [document_decodable parsed]
    exact ⟨nofun, nofun⟩
  | @kept _ _ _ _ _ whole _ parsed =>
    rw [document_decodable parsed]
    cases whole <;> exact ⟨nofun, nofun⟩

theorem undecodable_report (sink : Sink) (world : World) (unread : undecodable response = true) :
    ((sink.report response).run world).2 = world := by
  rw [undecodable_iff] at unread
  obtain ⟨accepted, refusal, refused⟩ := unread
  rw [sink.report_refused world (decide_eq_true accepted) refused]

theorem ends_other_disk (ends : sink.Ends response before result after) (other : response.status ≠ 200) :
    after.disk = before.disk := by
  have notOk : response.isOk ≠ true := fun accepted => other (of_decide_eq_true accepted)
  cases ends with
  | undecodable accepted => exact absurd accepted notOk
  | refusal => rfl
  | documentCut => rfl
  | unsaved => rfl
  | kept accepted => exact absurd accepted notOk

structure StopsAtSaving (sink : Sink) (response : Response) (before : World) (fault : IoFault) (after : World) :
    Prop where
  failed : ∃ path value, sink.outputPath = some path ∧ Json.parse response.body = .ok value ∧
    before.disk.write path value.pretty = .error fault ∧
    after.output.printed = before.output.printed ++ line sink.heading ++ line value.pretty
  disk : after.disk = before.disk
  log : after.log = before.log

theorem ends_saving_fault (ends : sink.Ends response before result after) {fault : IoFault}
    (failed : result = .error (.io fault)) (saving : fault ≠ .outputFull) :
    sink.StopsAtSaving response before fault after := by
  cases ends with
  | undecodable => cases failed
  | @refusal whole =>
    cases whole <;> cases failed
    exact absurd rfl saving
  | documentCut =>
    cases failed
    exact absurd rfl saving
  | @unsaved value output path own accepted parsed shown named unsaved =>
    cases failed
    refine ⟨⟨path, value, named, parsed, unsaved, ?_⟩, rfl, rfl⟩
    rw [List.append_assoc]
    exact write_whole shown
  | @kept _ _ _ _ _ whole =>
    cases whole <;> cases failed
    exact absurd rfl saving

structure ReachesTiming (sink : Sink) (response : Response) (before : World) (path : String) (value : Value) :
    Prop where
  accepted : response.status = 200
  parsed : Json.parse response.body = .ok value
  named : sink.outputPath = some path
  fits : before.output.fits (sink.shown value) = true

structure CutInTiming (sink : Sink) (response : Response) (before : World) (path : String) (value : Value)
    (after : World) : Prop where
  written : before.disk.write path value.pretty = .ok after.disk
  held : after.disk.read? path = some value.pretty
  logged : after.log = before.log ++ [.saved path]
  printed : ∃ part, part <+: sink.timingBlock response ∧ part ≠ sink.timingBlock response ∧
    after.output.printed = before.output.printed ++ sink.shown value ++ part

structure LeavesNoFile (before after : World) : Prop where
  disk : after.disk = before.disk
  log : ∃ events, after.log = before.log ++ events ∧ ∀ event ∈ events, event.isSaved = false

theorem leaves_log (output : Output) : LeavesNoFile before { before with output } :=
  ⟨rfl, [], (List.append_nil _).symm, nofun⟩

theorem refusal_events_unsaved (response : Response) : ∀ event ∈ refusalEvents response, event.isSaved = false := by
  rw [refusalEvents, List.forall_mem_map]
  exact fun _ _ => rfl

theorem reaches_timing_once {path other : String} {value own : Value}
    (reaches : sink.ReachesTiming response before path value) (named : sink.outputPath = some other)
    (parsed : Json.parse response.body = .ok own) : other = path ∧ own = value :=
  ⟨Option.some.inj (named.symm.trans reaches.named), Except.ok.inj (parsed.symm.trans reaches.parsed)⟩

theorem ends_output_full (ends : sink.Ends response before result after)
    (failed : result = .error (.io .outputFull)) :
    (∀ path value, sink.ReachesTiming response before path value →
      sink.CutInTiming response before path value after) ∧
    ((¬ ∃ path value, sink.ReachesTiming response before path value) → LeavesNoFile before after) := by
  cases ends with
  | undecodable => cases failed
  | @refusal whole output other =>
    refine ⟨?_, fun _ => ⟨rfl, _, rfl, refusal_events_unsaved response⟩⟩
    intro path value reaches
    have accepted : response.isOk = true := decide_eq_true reaches.accepted
    cases accepted.symm.trans other
  | documentCut _ parsed cut =>
    refine ⟨?_, fun _ => leaves_log _⟩
    intro path value reaches
    obtain ⟨_, rfl⟩ := reaches_timing_once reaches reaches.named parsed
    have fits := reaches.fits
    rw [← write_fits_all, cut] at fits
    cases fits
  | unsaved _ _ _ _ unsaved =>
    cases failed
    exact absurd rfl (write_fault _ _ _ unsaved)
  | @kept value output last disk log whole accepted parsed shown keeps timed =>
    cases whole <;> cases failed
    cases keeps with
    | unnamed unnamed =>
      refine ⟨?_, fun _ => leaves_log _⟩
      intro path value reaches
      cases unnamed.symm.trans reaches.named
    | saved named saved =>
      refine ⟨?_, ?_⟩
      · intro path own reaches
        obtain ⟨rfl, rfl⟩ := reaches_timing_once reaches named parsed
        obtain ⟨part, early, short, printed⟩ := write_cut timed
        rw [write_whole shown] at printed
        exact ⟨saved, Disk.read_write _ _ _ _ saved, rfl, part, early, short, printed⟩
      · intro unreached
        refine absurd ⟨_, value, of_decide_eq_true accepted, parsed, named, ?_⟩ unreached
        rw [← write_fits_all, shown]

-- The steps of a run: each response with its result and the world after it.
def steps (sink : Sink) : List Response → World → List (Response × Except Failure Outcome × World)
  | [], _ => []
  | response :: rest, world =>
    (response, (sink.report response).run world) :: sink.steps rest ((sink.report response).run world).2

theorem steps_without_undecodable (sink : Sink) (responses : List Response) (world : World) :
    sink.steps (responses.filter fun response => !undecodable response) world =
      (sink.steps responses world).filter fun step => !undecodable step.1 := by
  induction responses generalizing world with
  | nil => rfl
  | cons response rest ih =>
    cases unread : undecodable response with
    | true =>
      rw [List.filter_cons_of_neg (by rw [unread]; decide), steps, List.filter_cons_of_neg (by rw [unread]; decide),
        sink.undecodable_report world unread, ih]
    | false =>
      rw [List.filter_cons_of_pos (by rw [unread]; rfl), steps, steps, List.filter_cons_of_pos (by rw [unread]; rfl), ih]

theorem run_without_undecodable (sink : Sink) (responses : List Response) (world : World) :
    sink.run (responses.filter fun response => !undecodable response) world = sink.run responses world := by
  induction responses generalizing world with
  | nil => rfl
  | cons response rest ih =>
    cases unread : undecodable response with
    | true => rw [List.filter_cons_of_neg (by rw [unread]; decide), run_cons, sink.undecodable_report world unread, ih]
    | false => rw [List.filter_cons_of_pos (by rw [unread]; rfl), run_cons, run_cons, ih]

/-- However a report ends, the output, the disk and the log agree on how far it came. -/
theorem report_footprint (sink : Sink) :
    (∀ response before result after, (sink.report response).run before = (result, after) →
      ((∃ reason, result = .error (.decode reason)) ↔
        response.status = 200 ∧ ∃ refusal, Json.parse response.body = .error refusal) ∧
      ((∃ reason, result = .error (.decode reason)) → after = before) ∧
      (response.status ≠ 200 → after.disk = before.disk) ∧
      (∀ fault, result = .error (.io fault) → fault ≠ .outputFull → sink.StopsAtSaving response before fault after) ∧
      (result = .error (.io .outputFull) →
        (∀ path value, sink.ReachesTiming response before path value →
          sink.CutInTiming response before path value after) ∧
        ((¬ ∃ path value, sink.ReachesTiming response before path value) → LeavesNoFile before after))) ∧
    ∀ responses world,
      sink.steps (responses.filter fun response => !undecodable response) world =
        ((sink.steps responses world).filter fun step => !undecodable step.1) ∧
      sink.run (responses.filter fun response => !undecodable response) world = sink.run responses world := by
  refine ⟨?_, fun responses world =>
    ⟨sink.steps_without_undecodable responses world, sink.run_without_undecodable responses world⟩⟩
  intro response before result after ran
  have ends := sink.report_ends response before
  rw [ran] at ends
  refine ⟨?_, ?_, ends_other_disk ends, fun fault => ends_saving_fault ends, ends_output_full ends⟩
  · rw [ends_decode_iff ends, undecodable_iff]
  · intro refused
    have kept := sink.undecodable_report before ((ends_decode_iff ends).mp refused)
    rwa [ran] at kept

-- One byte of the timing is printed, and the document is in the file.
theorem timing_cut_after_saving :
    let sink : Sink := ⟨"Block", some "/out.json", true⟩
    let before : World := ⟨.limited 12, ⟨[], []⟩, []⟩
    let after := ((sink.report ⟨200, "null", .zero⟩).run before).2
    sink.ReachesTiming ⟨200, "null", .zero⟩ before "/out.json" .null ∧
      ((sink.report ⟨200, "null", .zero⟩).run before).1 = .error (.io .outputFull) ∧
      sink.CutInTiming ⟨200, "null", .zero⟩ before "/out.json" .null after := by
  intro sink before after
  have parsed : Json.parse "null" = .ok .null := rfl
  have reaches : sink.ReachesTiming ⟨200, "null", .zero⟩ before "/out.json" .null :=
    ⟨rfl, parsed, rfl, by decide +kernel⟩
  have failed : ((sink.report ⟨200, "null", .zero⟩).run before).1 = .error (.io .outputFull) := by
    have written : before.disk.write "/out.json" (Value.pretty .null) =
        .ok ⟨[(["out.json"], .file (Value.pretty .null))], []⟩ := by rfl
    obtain ⟨_, _, cut⟩ := (@report_saved _ _ before.log ⟨200, "null", .zero⟩ .null _ sink rfl rfl parsed written).overflows
      [] 12 (by decide +kernel)
    exact congrArg Prod.fst cut
  refine ⟨reaches, failed, ?_⟩
  exact ((((report_footprint sink).1 ⟨200, "null", .zero⟩ before _ after rfl).2.2.2.2 failed).1 _ _ reaches)

end Sink

end NodeProbe
