import NodeProbe.Proofs.Sink.File

set_option autoImplicit false

namespace NodeProbe

open Json Rosetta

variable {α β : Type}

def Action.Yields (action : Action α) (value : α) : Prop :=
  ∀ world, (action.run world).1 = .ok value ∨ ∃ fault, (action.run world).1 = .error (.io fault)

theorem yields_pure (value : α) : (pure value : Action α).Yields value := fun _ => .inl rfl

theorem yields_log (event : Event) : (Action.log event).Yields () := fun _ => .inl rfl

theorem yields_line (text : String) : (Action.printLine text).Yields () := by
  intro world
  unfold Action.run Action.printLine
  split
  · exact .inl rfl
  · exact .inr ⟨_, rfl⟩

theorem yields_write_file (path content : String) : (Action.writeFile path content).Yields () := by
  intro world
  unfold Action.run Action.writeFile
  split
  · exact .inl rfl
  · exact .inr ⟨_, rfl⟩

theorem yields_bind {action : Action α} {next : α → Action β} {value : α} {result : β}
    (first : action.Yields value) (second : (next value).Yields result) : (action >>= next).Yields result := by
  intro world
  rw [run_bind]
  cases ran : action.run world with
  | mk ended after =>
    have before := first world
    rw [ran] at before
    rcases before with same | ⟨fault, same⟩
    · cases same
      exact second after
    · cases same
      exact .inr ⟨fault, rfl⟩

namespace Sink

theorem success_yields (sink : Sink) (value : Value) : (sink.reportSuccess value).Yields (.success value) := by
  rw [success_steps]
  apply yields_bind (yields_line sink.heading)
  apply yields_bind (yields_line value.pretty)
  cases sink.outputPath with
  | none => exact yields_pure (Outcome.success value)
  | some path =>
    have saved : (persist path value).Yields () := by
      rw [persist_steps]
      exact yields_bind (yields_write_file path value.pretty) (yields_log (.saved path))
    exact yields_bind saved (yields_pure (Outcome.success value))

theorem failure_yields (status : UInt16) (body : String) :
    (reportFailure status body).Yields (.failure status body) := by
  have told : (do Action.printLine ("Error: " ++ toString status.toNat); Action.printLine body
                  pure (.failure status body) : Action Outcome).Yields (.failure status body) :=
    yields_bind (yields_line _) (yields_bind (yields_line body) (yields_pure _))
  unfold reportFailure
  cases ApiError.parse? body with
  | none => exact told
  | some error => exact yields_bind (yields_log (.apiError status error)) told

theorem conclude_yields (sink : Sink) (response : Response) (outcome : Outcome) :
    (sink.conclude response outcome).Yields outcome := by
  unfold conclude
  cases sink.timing with
  | true => exact yields_bind (yields_line _) (yields_pure outcome)
  | false => exact yields_pure outcome

variable {response : Response} {value : Value}

theorem judge_accepted (sink : Sink) (accepted : response.isOk = true) (parsed : Json.parse response.body = .ok value) :
    sink.judge response = sink.reportSuccess value := by
  rw [judge, accepted, if_pos rfl, parsed]

theorem report_accepted_yields (sink : Sink) (accepted : response.isOk = true)
    (parsed : Json.parse response.body = .ok value) : (sink.report response).Yields (.success value) := by
  rw [report_judge, judge_accepted sink accepted parsed]
  exact yields_bind (sink.success_yields value) (sink.conclude_yields response _)

theorem report_other_yields (sink : Sink) (other : response.isOk = false) :
    (sink.report response).Yields (.failure response.status response.body) := by
  have judged : sink.judge response = reportFailure response.status response.body := by
    rw [judge, other, if_neg Bool.false_ne_true]
  rw [report_judge, judged]
  exact yields_bind (failure_yields _ _) (sink.conclude_yields response _)

theorem report_refused (sink : Sink) (world : World) {refusal : Refusal} (accepted : response.isOk = true)
    (refused : Json.parse response.body = .error refusal) :
    (sink.report response).run world = (.error (.decode refusal.message), world) := by
  have judged : sink.judge response = Action.fail (.decode refusal.message) := by
    rw [judge, accepted, if_pos rfl, refused]
  rw [report_judge, judged]
  rfl

theorem report_success_iff (sink : Sink) (response : Response) (world : World) (value : Value)
    (noFault : ∀ fault, ((sink.report response).run world).1 ≠ .error (.io fault)) :
    ((sink.report response).run world).1 = .ok (.success value) ↔
      response.isOk = true ∧ Json.parse response.body = .ok value := by
  have settled : ∀ outcome, (sink.report response).Yields outcome →
      ((sink.report response).run world).1 = .ok outcome := by
    intro outcome yields
    rcases yields world with same | ⟨fault, same⟩
    · exact same
    · exact absurd same (noFault fault)
  cases accepted : response.isOk with
  | false =>
    rw [settled _ (sink.report_other_yields accepted)]
    exact ⟨nofun, nofun⟩
  | true =>
    cases parsed : Json.parse response.body with
    | error refusal =>
      rw [sink.report_refused world accepted parsed]
      exact ⟨nofun, nofun⟩
    | ok own =>
      rw [settled _ (sink.report_accepted_yields accepted parsed)]
      constructor
      · intro same
        cases same
        exact ⟨rfl, rfl⟩
      · rintro ⟨_, same⟩
        cases same
        rfl

theorem report_success (sink : Sink) (world : World) (accepted : response.isOk = true)
    (parsed : Json.parse response.body = .ok value) (saves : sink.persists world.disk value = true)
    (fits : world.output.fits (sink.block world.disk response) = true) :
    ((sink.report response).run world).1 = .ok (.success value) := by
  obtain ⟨⟨printed, room⟩, disk, log⟩ := world
  obtain ⟨result, after, events, prints, same⟩ := @success_prints disk log sink value
  rw [saves] at same
  cases result with
  | error failure => cases same
  | ok outcome =>
    have whole : sink.block disk response = line sink.heading ++ line value.pretty ++ sink.timingBlock response := by
      simp only [block, accepted, if_true, parsed, saves]
    have reported := prints_bind prints (sink.conclude_prints response outcome)
    rw [← judge_accepted sink accepted parsed, ← report_judge, ← whole] at reported
    have ended : ((sink.report response).run ⟨⟨printed, room⟩, disk, log⟩).1 = .ok outcome := by
      cases room with
      | none => rw [reported.free]
      | some room => rw [reported.fits printed room (of_decide_eq_true fits)]
    rcases sink.report_accepted_yields accepted parsed ⟨⟨printed, room⟩, disk, log⟩ with yielded | ⟨fault, failed⟩
    · exact yielded
    · rw [ended] at failed
      cases failed

end Sink

end NodeProbe

namespace NodeProbe.Sink

open Json

variable {disk after : Disk} {log : List Event} {response : Response} {value : Value}

theorem report_other (sink : Sink) (other : response.isOk = false) : ∃ events,
    (sink.report response).Prints disk log
      (line ("Error: " ++ toString response.status.toNat) ++ line response.body ++ sink.timingBlock response)
      (.ok (.failure response.status response.body)) disk events := by
  have judged : sink.judge response = reportFailure response.status response.body := by
    rw [judge, other, if_neg Bool.false_ne_true]
  obtain ⟨events, told⟩ := @failure_prints disk log response.status response.body
  refine ⟨events, ?_⟩
  rw [report_judge, judged]
  exact prints_bind told (sink.conclude_prints response _)

theorem report_undecodable (sink : Sink) {refusal : Refusal} (accepted : response.isOk = true)
    (refused : Json.parse response.body = .error refusal) :
    (sink.report response).Prints disk log [] (.error (.decode refusal.message)) disk log :=
  prints_silent nofun fun output => sink.report_refused ⟨output, disk, log⟩ accepted refused

theorem report_shown (sink : Sink) (noFile : sink.outputPath = none) (accepted : response.isOk = true)
    (parsed : Json.parse response.body = .ok value) :
    (sink.report response).Prints disk log (line sink.heading ++ line value.pretty ++ sink.timingBlock response)
      (.ok (.success value)) disk log := by
  have told := prints_lines sink.heading value.pretty (@prints_pure _ disk log (Outcome.success value))
  rw [report_judge, judge_accepted sink accepted parsed, success_steps, noFile]
  exact prints_bind told (sink.conclude_prints response _)

variable {path : String}

theorem report_saved (sink : Sink) (named : sink.outputPath = some path) (accepted : response.isOk = true)
    (parsed : Json.parse response.body = .ok value) (written : disk.write path value.pretty = .ok after) :
    (sink.report response).Prints disk log (line sink.heading ++ line value.pretty ++ sink.timingBlock response)
      (.ok (.success value)) after (log ++ [.saved path]) := by
  have told := prints_lines sink.heading value.pretty
    (prints_after (@prints_persist disk after log path value written)
      (@prints_pure _ after (log ++ [.saved path]) (Outcome.success value)))
  rw [report_judge, judge_accepted sink accepted parsed, success_steps, named]
  exact prints_bind told (sink.conclude_prints response _)

theorem report_unsaved (sink : Sink) (named : sink.outputPath = some path) (accepted : response.isOk = true)
    (parsed : Json.parse response.body = .ok value) {fault : IoFault}
    (failed : disk.write path value.pretty = .error fault) :
    (sink.report response).Prints disk log (line sink.heading ++ line value.pretty) (.error (.io fault)) disk log := by
  have told := prints_lines sink.heading value.pretty
    (prints_after_error (pure (Outcome.success value)) (@prints_persist_error disk log path value fault failed))
  rw [report_judge, judge_accepted sink accepted parsed, success_steps, named]
  exact prints_bind_error told

end NodeProbe.Sink

namespace NodeProbe

open Json Rosetta

variable {α β : Type}

theorem write_append (output : Output) (first second : Bytes) :
    output.write (first ++ second) =
      if (output.write first).1 then (output.write first).2.write second else output.write first := by
  obtain ⟨printed, room⟩ := output
  cases room with
  | none => simp only [Output.write, if_true, List.append_assoc]
  | some room =>
    by_cases fits : first.length ≤ room
    · have rest : first.length + second.length ≤ room ↔ second.length ≤ room - first.length := by omega
      rw [write_fits printed first room fits, if_pos rfl]
      simp only [Output.write, List.length_append, List.take_append, List.take_of_length_le fits, rest, Nat.sub_sub,
        List.append_assoc]
    · have short := Nat.lt_of_not_le fits
      rw [write_overflows printed first room short, if_neg Bool.false_ne_true,
        write_overflows printed (first ++ second) room (by rw [List.length_append]; omega),
        List.take_append_of_le_length (Nat.le_of_lt short)]

-- Prints these bytes, or as many as there is room for, and does nothing else.
def Action.Tells (action : Action α) (bytes : Bytes) (value : α) : Prop :=
  ∀ world, action.run world =
    (if (world.output.write bytes).1 then .ok value else .error (.io .outputFull),
      { world with output := (world.output.write bytes).2 })

theorem tells_line (text : String) : (Action.printLine text).Tells (line text) () := by
  intro world
  cases written : world.output.write (utf8 (text ++ "\n")) with
  | mk fits output => cases fits <;> simp only [Action.run, Action.printLine, line, written] <;> rfl

theorem tells_pure (value : α) : (pure value : Action α).Tells [] value := by
  rintro ⟨⟨printed, room⟩, disk, log⟩
  cases room <;> simp only [Output.write, List.append_nil, List.length_nil, Nat.zero_le, decide_true, if_true, List.take_nil,
    Nat.sub_zero] <;> rfl

theorem tells_bind {action : Action α} {next : α → Action β} {before after : Bytes} {value : α} {result : β}
    (first : action.Tells before value) (second : (next value).Tells after result) :
    (action >>= next).Tells (before ++ after) result := by
  intro world
  rw [run_bind, first world, write_append]
  rcases world.output.write before with ⟨fits, output⟩
  cases fits with
  | false => rfl
  | true => exact second { world with output }

namespace Sink

theorem conclude_tells (sink : Sink) (response : Response) (outcome : Outcome) :
    (sink.conclude response outcome).Tells (sink.timingBlock response) outcome := by
  unfold conclude timingBlock
  cases sink.timing with
  | false => exact tells_pure outcome
  | true =>
    have told : (do Action.printLine (timingLine response.elapsed); pure outcome : Action Outcome).Tells
        (line (timingLine response.elapsed) ++ []) outcome := tells_bind (tells_line _) (tells_pure outcome)
    rw [List.append_nil] at told
    exact told

def refusalEvents (response : Response) : List Event :=
  (ApiError.parse? response.body).toList.map (.apiError response.status)

theorem report_refusal (sink : Sink) (response : Response) (other : response.isOk = false) (world : World) :
    let block := line ("Error: " ++ toString response.status.toNat) ++ line response.body ++ sink.timingBlock response
    (sink.report response).run world =
      (if (world.output.write block).1 then .ok (.failure response.status response.body) else .error (.io .outputFull),
        { world with output := (world.output.write block).2, log := world.log ++ refusalEvents response }) := by
  intro block
  have told : (do
      Action.printLine ("Error: " ++ toString response.status.toNat)
      Action.printLine response.body
      pure (Outcome.failure response.status response.body) : Action Outcome).Tells
        (line ("Error: " ++ toString response.status.toNat) ++ (line response.body ++ []))
        (.failure response.status response.body) :=
    tells_bind (tells_line _) (tells_bind (tells_line _) (tells_pure _))
  rw [List.append_nil] at told
  have whole := tells_bind told (sink.conclude_tells response _)
  rw [report_judge, judge, other, if_neg Bool.false_ne_true, reportFailure, refusalEvents]
  cases ApiError.parse? response.body with
  | none =>
    rw [Option.toList_none, List.map_nil, List.append_nil]
    exact whole world
  | some error => exact whole { world with log := world.log ++ [.apiError response.status error] }

end Sink

end NodeProbe
