import NodeProbe.Proofs.Disk
import NodeProbe.Proofs.Sink.Transcript

set_option autoImplicit false

namespace NodeProbe

open Json Rosetta

variable {α β : Type}

def Output.fits (output : Output) (bytes : Bytes) : Bool := output.room.all fun room => decide (bytes.length ≤ room)

def Event.isSaved : Event → Bool
  | .saved _ => true
  | _ => false

structure Kept (before after : World) : Prop where
  disk : after.disk = before.disk
  saves : after.log.countP Event.isSaved = before.log.countP Event.isSaved

def Action.Quiet (action : Action α) : Prop := ∀ world, Kept world (action.run world).2

theorem kept_refl (world : World) : Kept world world := ⟨rfl, rfl⟩

theorem kept_trans {first second third : World} (left : Kept first second) (right : Kept second third) :
    Kept first third :=
  ⟨right.disk.trans left.disk, right.saves.trans left.saves⟩

theorem quiet_pure (value : α) : (pure value : Action α).Quiet := kept_refl

theorem quiet_fail (failure : Failure) : (Action.fail failure : Action α).Quiet := kept_refl

theorem quiet_log (event : Event) (other : event.isSaved = false) : (Action.log event).Quiet := by
  intro world
  refine ⟨rfl, ?_⟩
  change (world.log ++ [event]).countP Event.isSaved = world.log.countP Event.isSaved
  rw [List.countP_append, List.countP_singleton, other, if_neg Bool.false_ne_true, Nat.add_zero]

theorem quiet_line (text : String) : (Action.printLine text).Quiet := by
  intro world
  unfold Action.run Action.printLine
  split <;> exact ⟨rfl, rfl⟩

theorem quiet_bind {action : Action α} {next : α → Action β} (first : action.Quiet)
    (second : ∀ value, (next value).Quiet) : (action >>= next).Quiet := by
  intro world
  have before := first world
  rw [run_bind]
  cases ran : action.run world with
  | mk result after =>
    rw [ran] at before
    cases result with
    | ok value => exact kept_trans before (second value after)
    | error failure => exact before

def World.tell (world : World) (text : String) : World :=
  { world with output := ⟨world.output.printed ++ line text, world.output.room.map (· - (line text).length)⟩ }

theorem line_fits (text : String) (world : World) (enough : world.output.fits (line text) = true) :
    (Action.printLine text).run world = (.ok (), world.tell text) := by
  obtain ⟨⟨printed, room⟩, disk, log⟩ := world
  cases room with
  | none => exact (prints_line text).free printed
  | some room => exact (prints_line text).fits printed room (of_decide_eq_true enough)

theorem line_cut (text : String) (world : World) (short : world.output.fits (line text) = false) :
    ∃ output, (Action.printLine text).run world = (.error (.io .outputFull), { world with output }) := by
  obtain ⟨⟨printed, room⟩, disk, log⟩ := world
  cases room with
  | none => cases short
  | some room => exact ⟨_, line_overflows text printed room disk log (Nat.lt_of_not_le (of_decide_eq_false short))⟩

theorem fits_after_line (world : World) (text : String) (bytes : Bytes) :
    world.output.fits (line text ++ bytes) = (world.output.fits (line text) && (world.tell text).output.fits bytes) := by
  obtain ⟨⟨printed, room⟩, disk, log⟩ := world
  cases room with
  | none => rfl
  | some room =>
    simp only [Output.fits, World.tell, Option.all_some, Option.map_some, List.length_append, ← Bool.decide_and,
      decide_eq_decide]
    omega

theorem lines_fit (first second : String) (next : Action α) (world : World)
    (enough : world.output.fits (line first ++ line second) = true) :
    (do Action.printLine first; Action.printLine second; next).run world = next.run ((world.tell first).tell second) := by
  rw [fits_after_line, Bool.and_eq_true] at enough
  rw [run_bind, line_fits first world enough.1]
  dsimp only
  rw [run_bind, line_fits second _ enough.2]

theorem lines_cut (first second : String) (next : Action α) (world : World)
    (short : world.output.fits (line first ++ line second) = false) : ∃ output,
    (do Action.printLine first; Action.printLine second; next).run world =
      (.error (.io .outputFull), { world with output }) := by
  rw [fits_after_line] at short
  by_cases enough : world.output.fits (line first) = true
  · rw [enough, Bool.true_and] at short
    obtain ⟨output, cut⟩ := line_cut second (world.tell first) short
    refine ⟨output, ?_⟩
    rw [run_bind, line_fits first world enough]
    dsimp only
    rw [run_bind, cut]
    rfl
  · obtain ⟨output, cut⟩ := line_cut first world (Bool.eq_false_iff.mpr enough)
    exact ⟨output, by rw [run_bind, cut]⟩

namespace Sink

theorem failure_quiet (status : UInt16) (body : String) : (reportFailure status body).Quiet := by
  have told : (do Action.printLine ("Error: " ++ toString status.toNat); Action.printLine body
                  pure (.failure status body) : Action Outcome).Quiet :=
    quiet_bind (quiet_line _) fun _ => quiet_bind (quiet_line _) fun _ => quiet_pure _
  unfold reportFailure
  cases ApiError.parse? body with
  | none => exact told
  | some error => exact quiet_bind (quiet_log _ rfl) fun _ => told

theorem conclude_quiet (sink : Sink) (response : Response) (outcome : Outcome) :
    (sink.conclude response outcome).Quiet := by
  unfold conclude
  cases sink.timing with
  | true => exact quiet_bind (quiet_line _) fun _ => quiet_pure outcome
  | false => exact quiet_pure outcome

def saved? (sink : Sink) (world : World) (response : Response) : Option Value :=
  match response.isOk, Json.parse response.body, sink.outputPath with
  | true, .ok value, some path =>
    if world.output.fits (line sink.heading ++ line value.pretty) ∧ (world.disk.write path value.pretty).isOk then
      some value
    else none
  | _, _, _ => none

def saved (sink : Sink) : List Response → World → List Value
  | [], _ => []
  | response :: rest, world =>
    (sink.saved? world response).toList ++ sink.saved rest ((sink.report response).run world).2

def Leaves (sink : Sink) (before after : World) : Option Value → Prop
  | none => Kept before after
  | some value => ∃ path, sink.outputPath = some path ∧ before.disk.write path value.pretty = .ok after.disk ∧
      after.log.countP Event.isSaved = before.log.countP Event.isSaved + 1

theorem quiet_report (sink : Sink) (response : Response) (quiet : (sink.judge response).Quiet) :
    (sink.report response).Quiet := quiet_bind quiet (sink.conclude_quiet response)

theorem unsaved_quiet (sink : Sink) (value : Value) (noFile : sink.outputPath = none) :
    (sink.reportSuccess value).Quiet := by
  rw [success_steps, noFile]
  exact quiet_bind (quiet_line _) fun _ => quiet_bind (quiet_line _) fun _ => quiet_pure _

theorem persist_error (path : String) (value : Value) (world : World) (fault : IoFault)
    (failed : world.disk.write path value.pretty = .error fault) :
    (persist path value).run world = (.error (.io fault), world) := by
  rw [persist_steps, run_bind]
  simp only [Action.run, Action.writeFile, failed]

theorem persist_ok (path : String) (value : Value) (world : World) (after : Disk)
    (written : world.disk.write path value.pretty = .ok after) :
    (persist path value).run world = (.ok (), { world with disk := after, log := world.log ++ [.saved path] }) := by
  rw [persist_steps, run_bind]
  simp only [Action.run, Action.writeFile, written]
  rfl

theorem success_leaves (sink : Sink) (path : String) (named : sink.outputPath = some path) (response : Response)
    (value : Value) (world : World) :
    sink.Leaves world ((sink.reportSuccess value >>= sink.conclude response).run world).2
      (if world.output.fits (line sink.heading ++ line value.pretty) ∧ (world.disk.write path value.pretty).isOk then
        some value
      else none) := by
  have steps : sink.reportSuccess value = (do
      Action.printLine sink.heading; Action.printLine value.pretty; persist path value; pure (.success value)) := by
    rw [success_steps, named]
  rw [run_bind, steps]
  by_cases told : world.output.fits (line sink.heading ++ line value.pretty) = true
  · rw [lines_fit sink.heading value.pretty _ world told, run_bind]
    cases written : world.disk.write path value.pretty with
    | error fault =>
      rw [persist_error path value ((world.tell sink.heading).tell value.pretty) fault written,
        if_neg (fun both => Bool.false_ne_true both.2)]
      exact ⟨rfl, rfl⟩
    | ok after =>
      rw [persist_ok path value ((world.tell sink.heading).tell value.pretty) after written, if_pos ⟨told, rfl⟩]
      have quiet := sink.conclude_quiet response (.success value)
        ⟨((world.tell sink.heading).tell value.pretty).output, after, world.log ++ [.saved path]⟩
      refine ⟨path, named, written.trans (congrArg Except.ok quiet.disk.symm), ?_⟩
      refine quiet.saves.trans ?_
      rw [List.countP_append]
      rfl
  · obtain ⟨output, cut⟩ := lines_cut sink.heading value.pretty
      (do persist path value; pure (.success value) : Action Outcome) world (Bool.eq_false_iff.mpr told)
    rw [cut, if_neg (fun both => told both.1)]
    exact ⟨rfl, rfl⟩

theorem report_leaves (sink : Sink) (response : Response) (world : World) :
    sink.Leaves world ((sink.report response).run world).2 (sink.saved? world response) := by
  unfold saved?
  cases accepted : response.isOk with
  | false =>
    have judged : sink.judge response = reportFailure response.status response.body := by
      rw [judge, accepted, if_neg Bool.false_ne_true]
    exact quiet_report sink response (judged ▸ failure_quiet _ _) world
  | true =>
    cases parsed : Json.parse response.body with
    | error refusal =>
      have judged : sink.judge response = Action.fail (.decode refusal.message) := by
        rw [judge, accepted, if_pos rfl, parsed]
      exact quiet_report sink response (judged ▸ quiet_fail _) world
    | ok value =>
      have judged : sink.judge response = sink.reportSuccess value := by
        rw [judge, accepted, if_pos rfl, parsed]
      cases named : sink.outputPath with
      | none => exact quiet_report sink response (judged ▸ unsaved_quiet sink value named) world
      | some path =>
        rw [report_judge, judged]
        exact success_leaves sink path named response value world

theorem run_holds_last (sink : Sink) (responses : List Response) (world : World) :
    match (sink.saved responses world).getLast? with
    | some value => ∃ path, sink.outputPath = some path ∧
        (sink.run responses world).disk.read? path = some value.pretty
    | none => (sink.run responses world).disk = world.disk := by
  induction responses generalizing world with
  | nil => rfl
  | cons response rest ih =>
    have later := ih ((sink.report response).run world).2
    have left := sink.report_leaves response world
    rw [saved, run_cons, List.getLast?_append]
    -- What this response saves counts only if no later one saves anything.
    cases last : (sink.saved rest ((sink.report response).run world).2).getLast? with
    | some value =>
      rw [last] at later
      exact later
    | none =>
      rw [last] at later
      rw [Option.none_or]
      dsimp only at later
      cases here : sink.saved? world response with
      | none =>
        rw [here] at left
        exact later.trans left.disk
      | some value =>
        rw [here] at left
        obtain ⟨path, named, written, _⟩ := left
        refine ⟨path, named, ?_⟩
        rw [later]
        exact Disk.read_write _ _ path value.pretty written

theorem report_elsewhere (sink : Sink) (response : Response) (world : World) (place : Place)
    (elsewhere : ∀ path, sink.outputPath = some path → world.disk.target path ≠ .ok place) :
    ((sink.report response).run world).2.disk.get? place = world.disk.get? place ∧
      ∀ path, sink.outputPath = some path → ((sink.report response).run world).2.disk.target path ≠ .ok place := by
  have left := sink.report_leaves response world
  cases here : sink.saved? world response with
  | none =>
    rw [here] at left
    rw [left.disk]
    exact ⟨rfl, elsewhere⟩
  | some value =>
    rw [here] at left
    obtain ⟨own, named, written, _⟩ := left
    refine ⟨Disk.write_elsewhere _ _ own _ place written (elsewhere own named), ?_⟩
    intro path same
    obtain rfl : own = path := Option.some.inj (named.symm.trans same)
    rw [Disk.write_leads _ _ own _ written]
    exact elsewhere own named

theorem run_elsewhere (sink : Sink) (responses : List Response) (world : World) (place : Place)
    (elsewhere : ∀ path, sink.outputPath = some path → world.disk.target path ≠ .ok place) :
    (sink.run responses world).disk.get? place = world.disk.get? place := by
  induction responses generalizing world with
  | nil => rfl
  | cons response rest ih =>
    obtain ⟨kept, still⟩ := sink.report_elsewhere response world place elsewhere
    rw [run_cons, ih _ still, kept]

theorem run_saves (sink : Sink) (responses : List Response) (world : World) :
    (sink.run responses world).log.countP Event.isSaved =
      world.log.countP Event.isSaved + (sink.saved responses world).length := by
  induction responses generalizing world with
  | nil => rfl
  | cons response rest ih =>
    have left := sink.report_leaves response world
    rw [run_cons, ih, saved, List.length_append]
    cases here : sink.saved? world response with
    | none =>
      rw [here] at left
      rw [left.saves]
      simp only [Option.toList_none, List.length_nil, Nat.zero_add]
    | some value =>
      rw [here] at left
      obtain ⟨_, _, _, counted⟩ := left
      rw [counted]
      simp only [Option.toList_some, List.length_singleton]
      omega

theorem overflow_full (sink : Sink) (response : Response) (world : World)
    (failed : ((sink.report response).run world).1 = .error (.io .outputFull)) :
    ((sink.report response).run world).2.output.room = some 0 := by
  obtain ⟨⟨printed, room⟩, disk, log⟩ := world
  obtain ⟨result, after, events, prints⟩ := sink.report_prints response disk log
  cases room with
  | none =>
    rw [prints.free] at failed
    exact absurd failed prints.wanted
  | some room =>
    by_cases enough : (sink.block disk response).length ≤ room
    · rw [prints.fits printed room enough] at failed
      exact absurd failed prints.wanted
    · obtain ⟨diskThen, logThen, cut⟩ := prints.overflows printed room (Nat.lt_of_not_le enough)
      rw [cut]

theorem saved_full (sink : Sink) (response : Response) (world : World) (full : world.output.room = some 0) :
    sink.saved? world response = none := by
  have noRoom : ∀ text : String, world.output.fits (line sink.heading ++ line text) = false := by
    intro text
    have filled := line_nonempty sink.heading
    rw [Output.fits, full, Option.all_some, List.length_append]
    exact decide_eq_false (by omega)
  unfold saved?
  split
  · rw [noRoom, if_neg (fun both => Bool.false_ne_true both.1)]
  · rfl

theorem run_full_disk (sink : Sink) (responses : List Response) (world : World) (full : world.output.room = some 0) :
    (sink.run responses world).disk = world.disk := by
  induction responses generalizing world with
  | nil => rfl
  | cons response rest ih =>
    have left := sink.report_leaves response world
    rw [saved_full sink response world full] at left
    have still : ((sink.report response).run world).2.output.room = some 0 := by
      obtain ⟨⟨printed, room⟩, disk, log⟩ := world
      cases full
      obtain ⟨diskThen, logThen, same⟩ := sink.report_full response printed disk log
      rw [same]
    rw [run_cons, ih _ still, left.disk]

/-- After a run the file holds the last document that was shown in full and saved. -/
theorem run_file (sink : Sink) (responses : List Response) (world : World) :
    (∀ value, (sink.saved responses world).getLast? = some value → ∃ path, sink.outputPath = some path ∧
      (sink.run responses world).disk.read? path = some value.pretty) ∧
    (sink.saved responses world = [] → (sink.run responses world).disk = world.disk) ∧
    (∀ place, (∀ path, sink.outputPath = some path → world.disk.target path ≠ .ok place) →
      (sink.run responses world).disk.get? place = world.disk.get? place) ∧
    (sink.run responses world).log.countP Event.isSaved =
      world.log.countP Event.isSaved + (sink.saved responses world).length ∧
    ∀ before response rest, responses = before ++ response :: rest →
      ((sink.report response).run (sink.run before world)).1 = .error (.io .outputFull) →
      (sink.run responses world).disk = (sink.run (before ++ [response]) world).disk := by
  have holds := sink.run_holds_last responses world
  refine ⟨?_, ?_, sink.run_elsewhere responses world, sink.run_saves responses world, ?_⟩
  · intro value last
    rw [last] at holds
    exact holds
  · intro none
    rw [none] at holds
    exact holds
  · rintro before response rest rfl failed
    have full := sink.overflow_full response (sink.run before world) failed
    rw [run_append, run_append, run_cons]
    exact sink.run_full_disk rest _ full

theorem null_held :
    ∃ path, (⟨"Block", some "/out.json", true⟩ : Sink).outputPath = some path ∧
      ((⟨"Block", some "/out.json", true⟩ : Sink).run [⟨200, "null", .zero⟩]
        ⟨.limited 12, ⟨[], []⟩, []⟩).disk.read? path = some (Value.pretty .null) := by
  have parsed : Json.parse "null" = .ok .null := by rfl
  have fits : (Output.limited 12).fits (line "Block" ++ line (Value.pretty .null)) = true := by decide +kernel
  have written : ((⟨[], []⟩ : Disk).write "/out.json" (Value.pretty .null)).isOk = true := by decide +kernel
  have here : (⟨"Block", some "/out.json", true⟩ : Sink).saved? ⟨.limited 12, ⟨[], []⟩, []⟩ ⟨200, "null", .zero⟩ =
      some .null := by
    rw [saved?, parsed]
    exact if_pos ⟨fits, written⟩
  have last : ((⟨"Block", some "/out.json", true⟩ : Sink).saved [⟨200, "null", .zero⟩]
      ⟨.limited 12, ⟨[], []⟩, []⟩).getLast? = some .null := by
    rw [saved, saved, here]
    rfl
  exact (run_file ⟨"Block", some "/out.json", true⟩ [⟨200, "null", .zero⟩] ⟨.limited 12, ⟨[], []⟩, []⟩).1 .null last

end Sink

end NodeProbe
