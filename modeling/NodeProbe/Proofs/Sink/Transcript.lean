import NodeProbe.Proofs.Sink.Prints

set_option autoImplicit false

namespace NodeProbe

open Json Rosetta

namespace Sink

def run (sink : Sink) (responses : List Response) (world : World) : World :=
  responses.foldl (fun world response => ((sink.report response).run world).2) world

def persists (sink : Sink) (disk : Disk) (value : Value) : Bool :=
  match sink.outputPath with
  | some path => (disk.write path value.pretty).isOk
  | none => true

def timingBlock (sink : Sink) (response : Response) : Bytes :=
  if sink.timing then line (timingLine response.elapsed) else []

def block (sink : Sink) (disk : Disk) (response : Response) : Bytes :=
  if response.isOk then
    match Json.parse response.body with
    | .error _ => []
    | .ok value =>
      line sink.heading ++ line value.pretty ++ if sink.persists disk value then sink.timingBlock response else []
  else line ("Error: " ++ toString response.status.toNat) ++ line response.body ++ sink.timingBlock response

def transcript (sink : Sink) : List Response → World → Bytes
  | [], _ => []
  | response :: rest, world =>
    sink.block world.disk response ++ sink.transcript rest ((sink.report response).run world).2

variable {disk : Disk} {log : List Event}

def conclude (sink : Sink) (response : Response) (outcome : Outcome) : Action Outcome := do
  if sink.timing then Action.printLine (timingLine response.elapsed)
  pure outcome

theorem report_judge (sink : Sink) (response : Response) :
    sink.report response = sink.judge response >>= sink.conclude response := rfl

theorem conclude_prints (sink : Sink) (response : Response) (outcome : Outcome) :
    (sink.conclude response outcome).Prints disk log (sink.timingBlock response) (.ok outcome) disk log := by
  unfold conclude
  cases timed : sink.timing with
  | true =>
    have both := prints_after (prints_line (timingLine response.elapsed)) (@prints_pure _ disk log outcome)
    simpa only [timingBlock, timed, if_true, List.append_nil] using both
  | false =>
    simpa only [timingBlock, timed, Bool.false_eq_true, if_false] using @prints_pure _ disk log outcome

theorem failure_prints (status : UInt16) (body : String) : ∃ events,
    (reportFailure status body).Prints disk log (line ("Error: " ++ toString status.toNat) ++ line body)
      (.ok (.failure status body)) disk events := by
  have told : ∀ events, _ := fun events => prints_lines ("Error: " ++ toString status.toNat) body
    (@prints_pure _ disk events (Outcome.failure status body))
  unfold reportFailure
  cases ApiError.parse? body with
  | none => exact ⟨log, told log⟩
  | some error =>
    have logged := prints_after (@prints_log disk log (.apiError status error)) (told _)
    exact ⟨_, logged⟩

theorem persist_prints (path : String) (value : Value) :
    ∃ (result : Except Failure Unit) (after : Disk) (events : List Event),
      (persist path value).Prints disk log [] result after events ∧
        result.isOk = (disk.write path value.pretty).isOk := by
  cases written : disk.write path value.pretty with
  | ok after => exact ⟨_, _, _, prints_persist path value written, rfl⟩
  | error fault => exact ⟨_, _, _, prints_persist_error path value fault written, rfl⟩

theorem success_prints (sink : Sink) (value : Value) :
    ∃ (result : Except Failure Outcome) (after : Disk) (events : List Event),
      (sink.reportSuccess value).Prints disk log (line sink.heading ++ line value.pretty) result after events ∧
        result.isOk = sink.persists disk value := by
  rw [success_steps, persists]
  cases sink.outputPath with
  | none =>
    exact ⟨_, _, _, prints_lines sink.heading value.pretty (prints_pure (Outcome.success value)), rfl⟩
  | some path =>
    obtain ⟨result, after, events, saved, same⟩ := @persist_prints disk log path value
    cases result with
    | ok =>
      have finished := prints_after saved (@prints_pure _ after events (Outcome.success value))
      exact ⟨_, _, _, prints_lines sink.heading value.pretty finished, same⟩
    | error failure =>
      have stopped := prints_after_error (pure (Outcome.success value)) saved
      exact ⟨_, _, _, prints_lines sink.heading value.pretty stopped, same⟩

theorem judge_prints (sink : Sink) (response : Response) :
    ∃ (bytes : Bytes) (result : Except Failure Outcome) (after : Disk) (events : List Event),
      (sink.judge response).Prints disk log bytes result after events ∧
        sink.block disk response = bytes ++ if result.isOk then sink.timingBlock response else [] := by
  unfold judge block
  by_cases accepted : response.isOk = true
  · simp only [if_pos accepted]
    cases Json.parse response.body with
    | error refusal =>
      have wanted : Failure.decode refusal.message ≠ .io .outputFull := by
        intro same
        cases same
      exact ⟨[], _, _, _, prints_fail (.decode refusal.message) wanted, rfl⟩
    | ok value =>
      obtain ⟨result, after, events, printed, same⟩ := @success_prints disk log sink value
      exact ⟨_, result, after, events, printed, by rw [same]⟩
  · simp only [if_neg accepted]
    obtain ⟨events, printed⟩ := @failure_prints disk log response.status response.body
    exact ⟨_, _, _, events, printed, rfl⟩

theorem report_prints (sink : Sink) (response : Response) (disk : Disk) (log : List Event) :
    ∃ (result : Except Failure Outcome) (after : Disk) (events : List Event),
      (sink.report response).Prints disk log (sink.block disk response) result after events := by
  obtain ⟨bytes, result, after, events, printed, whole⟩ := @judge_prints disk log sink response
  rw [whole, report_judge]
  cases result with
  | ok outcome => exact ⟨_, _, _, prints_bind printed (sink.conclude_prints response outcome)⟩
  | error failure =>
    rw [Except.isOk, Except.toBool, if_neg Bool.false_ne_true, List.append_nil]
    exact ⟨_, _, _, prints_bind_error printed⟩

theorem run_cons (sink : Sink) (response : Response) (rest : List Response) (world : World) :
    sink.run (response :: rest) world = sink.run rest ((sink.report response).run world).2 := rfl

theorem run_append (sink : Sink) (before after : List Response) (world : World) :
    sink.run (before ++ after) world = sink.run after (sink.run before world) := List.foldl_append

theorem report_full (sink : Sink) (response : Response) (printed : Bytes) (disk : Disk) (log : List Event) :
    ∃ diskThen logThen, ((sink.report response).run ⟨⟨printed, some 0⟩, disk, log⟩).2 =
      ⟨⟨printed, some 0⟩, diskThen, logThen⟩ := by
  obtain ⟨result, after, events, prints⟩ := sink.report_prints response disk log
  by_cases silent : (sink.block disk response).length ≤ 0
  · refine ⟨after, events, ?_⟩
    rw [prints.fits printed 0 silent, List.length_eq_zero_iff.mp (Nat.le_zero.mp silent), List.append_nil]
    rfl
  · obtain ⟨diskThen, logThen, failed⟩ := prints.overflows printed 0 (Nat.lt_of_not_le silent)
    refine ⟨diskThen, logThen, ?_⟩
    rw [failed, List.take_zero, List.append_nil]

theorem run_full (sink : Sink) (responses : List Response) (printed : Bytes) (disk : Disk) (log : List Event) :
    (sink.run responses ⟨⟨printed, some 0⟩, disk, log⟩).output = ⟨printed, some 0⟩ := by
  induction responses generalizing disk log with
  | nil => rfl
  | cons response rest ih =>
    obtain ⟨diskThen, logThen, full⟩ := sink.report_full response printed disk log
    rw [run_cons, full]
    exact ih diskThen logThen

-- A run in bounded room keeps step with the unlimited run as long as the blocks fit. After that it
-- prints nothing, whatever it saves and logs.
theorem run_transcript (sink : Sink) (responses : List Response) (printed : Bytes) (disk : Disk) (log : List Event) :
    ∃ (bytes : Bytes) (after : Disk) (events : List Event),
      bytes = sink.transcript responses ⟨⟨printed, none⟩, disk, log⟩ ∧
      sink.run responses ⟨⟨printed, none⟩, disk, log⟩ = ⟨⟨printed ++ bytes, none⟩, after, events⟩ ∧
      (∀ room, bytes.length ≤ room → sink.run responses ⟨⟨printed, some room⟩, disk, log⟩ =
        ⟨⟨printed ++ bytes, some (room - bytes.length)⟩, after, events⟩) ∧
      ∀ room, room < bytes.length →
        (sink.run responses ⟨⟨printed, some room⟩, disk, log⟩).output = ⟨printed ++ bytes.take room, some 0⟩ := by
  induction responses generalizing printed disk log with
  | nil =>
    refine ⟨[], disk, log, rfl, ?_, ?_, fun room short => absurd short (Nat.not_lt_zero room)⟩
    · rw [List.append_nil]
      rfl
    · intro room _
      rw [List.append_nil]
      rfl
  | cons response rest ih =>
    obtain ⟨result, middle, middleLog, prints⟩ := sink.report_prints response disk log
    obtain ⟨others, after, events, same, free, fits, overflows⟩ :=
      ih (printed ++ sink.block disk response) middle middleLog
    refine ⟨sink.block disk response ++ others, after, events, ?_, ?_, ?_, ?_⟩
    · rw [transcript, prints.free, same]
    · rw [run_cons, prints.free, free, List.append_assoc]
    · intro room enough
      rw [List.length_append] at enough
      rw [run_cons, prints.fits printed room (by omega), fits _ (by omega), List.append_assoc, List.length_append,
        Nat.sub_sub]
    · intro room short
      rw [List.length_append] at short
      by_cases early : room < (sink.block disk response).length
      · -- The cut is in this block. Later reports may save and log otherwise than the unlimited run does.
        obtain ⟨diskThen, logThen, failed⟩ := prints.overflows printed room early
        rw [run_cons, failed, run_full, List.take_append_of_le_length (Nat.le_of_lt early)]
      · have started : (sink.block disk response).length ≤ room := Nat.le_of_not_lt early
        rw [run_cons, prints.fits printed room started, overflows _ (by omega), List.take_append,
          List.take_of_length_le started, List.append_assoc]

theorem transcript_append (sink : Sink) (before after : List Response) (world : World) :
    sink.transcript (before ++ after) world =
      sink.transcript before world ++ sink.transcript after (sink.run before world) := by
  induction before generalizing world with
  | nil => rfl
  | cons response rest ih => rw [List.cons_append, transcript, transcript, ih, run_cons, List.append_assoc]

theorem report_overflow (sink : Sink) (before : List Response) (response : Response) (disk : Disk)
    (log : List Event) (limit : Nat) (fitted : (sink.transcript before ⟨.unlimited, disk, log⟩).length ≤ limit)
    (cut : limit < (sink.transcript (before ++ [response]) ⟨.unlimited, disk, log⟩).length) :
    ((sink.report response).run (sink.run before ⟨.limited limit, disk, log⟩)).1 = .error (.io .outputFull) := by
  obtain ⟨bytes, after, events, same, free, fits, _⟩ := sink.run_transcript before [] disk log
  obtain ⟨result, middle, middleLog, prints⟩ := sink.report_prints response after events
  change bytes = sink.transcript before ⟨.unlimited, disk, log⟩ at same
  change sink.run before ⟨.unlimited, disk, log⟩ = _ at free
  rw [transcript_append, ← same, free, transcript, transcript, List.append_nil, List.length_append] at cut
  rw [← same] at fitted
  have short : limit - bytes.length < (sink.block after response).length := by
    dsimp only at cut
    omega
  obtain ⟨diskThen, logThen, failed⟩ := prints.overflows ([] ++ bytes) _ short
  rw [Output.limited, fits limit fitted, failed]

/-- A run prints the blocks of its responses in turn, cut where the output is full. -/
theorem run_prints_transcript (sink : Sink) (responses : List Response) (disk : Disk) (log : List Event) :
    (sink.run responses ⟨.unlimited, disk, log⟩).output.printed = sink.transcript responses ⟨.unlimited, disk, log⟩ ∧
    ∀ limit : Nat,
      (sink.run responses ⟨.limited limit, disk, log⟩).output.printed =
        (sink.transcript responses ⟨.unlimited, disk, log⟩).take limit ∧
      ∀ (before : List Response) (response : Response) (rest : List Response), responses = before ++ response :: rest →
        (sink.transcript before ⟨.unlimited, disk, log⟩).length ≤ limit →
        limit < (sink.transcript (before ++ [response]) ⟨.unlimited, disk, log⟩).length →
        ((sink.report response).run (sink.run before ⟨.limited limit, disk, log⟩)).1 = .error (.io .outputFull) := by
  obtain ⟨bytes, after, events, same, free, fits, overflows⟩ := sink.run_transcript responses [] disk log
  change bytes = sink.transcript responses ⟨.unlimited, disk, log⟩ at same
  change sink.run responses ⟨.unlimited, disk, log⟩ = _ at free
  rw [free, ← same]
  refine ⟨rfl, ?_⟩
  intro limit
  refine ⟨?_, fun before response _ _ fitted cut =>
    sink.report_overflow before response disk log limit fitted cut⟩
  by_cases enough : bytes.length ≤ limit
  · rw [Output.limited, fits limit enough, List.take_of_length_le enough]
    rfl
  · rw [Output.limited, overflows limit (Nat.lt_of_not_le enough)]
    rfl

theorem missing_block_overflow :
    (((⟨"", none, false⟩ : Sink).report ⟨404, "none", .zero⟩).run
      ((⟨"", none, false⟩ : Sink).run [] ⟨.limited 3, ⟨[], []⟩, []⟩)).1 = .error (.io .outputFull) :=
  ((run_prints_transcript ⟨"", none, false⟩ [⟨404, "none", .zero⟩] ⟨[], []⟩ []).2 3).2 [] ⟨404, "none", .zero⟩ [] rfl
    (Nat.zero_le 3) (by decide +kernel)

end Sink

end NodeProbe
