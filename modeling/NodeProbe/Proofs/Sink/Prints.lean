import NodeProbe.Proofs.Json.Rendering
import NodeProbe.Sink

set_option autoImplicit false

namespace NodeProbe

open Json Rosetta

variable {α β : Type}

-- The bytes, the result, the disk and the log that an action comes to where there is room for the bytes.
structure Action.Prints (action : Action α) (disk : Disk) (log : List Event) (bytes : Bytes)
    (result : Except Failure α) (diskAfter : Disk) (logAfter : List Event) : Prop where
  wanted : result ≠ .error (.io .outputFull)
  free : ∀ printed, action.run ⟨⟨printed, none⟩, disk, log⟩ =
    (result, ⟨⟨printed ++ bytes, none⟩, diskAfter, logAfter⟩)
  fits : ∀ printed room, bytes.length ≤ room →
    action.run ⟨⟨printed, some room⟩, disk, log⟩ =
      (result, ⟨⟨printed ++ bytes, some (room - bytes.length)⟩, diskAfter, logAfter⟩)
  overflows : ∀ printed room, room < bytes.length → ∃ diskThen logThen,
    action.run ⟨⟨printed, some room⟩, disk, log⟩ =
      (.error (.io .outputFull), ⟨⟨printed ++ bytes.take room, some 0⟩, diskThen, logThen⟩)

variable {disk diskAfter diskLast : Disk} {log logAfter logLast : List Event}

theorem run_bind (action : Action α) (next : α → Action β) (world : World) :
    (action >>= next).run world =
      match action.run world with
      | (.ok value, after) => (next value).run after
      | (.error failure, after) => (.error failure, after) := rfl

theorem prints_silent {action : Action α} {result : Except Failure α} (wanted : result ≠ .error (.io .outputFull))
    (silent : ∀ output, action.run ⟨output, disk, log⟩ = (result, ⟨output, diskAfter, logAfter⟩)) :
    action.Prints disk log [] result diskAfter logAfter where
  wanted := wanted
  free printed := by rw [silent, List.append_nil]
  fits printed room _ := by rw [silent, List.append_nil, List.length_nil, Nat.sub_zero]
  overflows _ room short := absurd short (Nat.not_lt_zero room)

theorem prints_pure (value : α) : (pure value : Action α).Prints disk log [] (.ok value) disk log :=
  prints_silent nofun fun _ => rfl

theorem prints_fail (failure : Failure) (wanted : failure ≠ .io .outputFull) :
    (Action.fail failure : Action α).Prints disk log [] (.error failure) disk log :=
  prints_silent (fun same => wanted (Except.error.inj same)) fun _ => rfl

theorem prints_log (event : Event) : (Action.log event).Prints disk log [] (.ok ()) disk (log ++ [event]) :=
  prints_silent nofun fun _ => rfl

theorem write_fault (path content : String) (fault : IoFault) (failed : disk.write path content = .error fault) :
    fault ≠ .outputFull := by
  rintro rfl
  unfold Disk.write at failed
  split at failed
  · cases failed
  · split at failed <;> cases failed

theorem prints_write_file (path content : String) (written : disk.write path content = .ok diskAfter) :
    (Action.writeFile path content).Prints disk log [] (.ok ()) diskAfter log := by
  refine prints_silent nofun ?_
  intro output
  simp only [Action.run, Action.writeFile, written]

theorem prints_write_file_error (path content : String) (fault : IoFault)
    (failed : disk.write path content = .error fault) :
    (Action.writeFile path content).Prints disk log [] (.error (.io fault)) disk log := by
  refine prints_silent ?_ ?_
  · intro same
    exact write_fault path content fault failed (Failure.io.inj (Except.error.inj same))
  · intro output
    simp only [Action.run, Action.writeFile, failed]

def line (text : String) : Bytes := utf8 (text ++ "\n")

theorem list_loop_length (bytes : ByteArray) (index : Nat) (before : List UInt8) :
    before.length ≤ (ByteArray.toList.loop bytes index before).length := by
  fun_induction ByteArray.toList.loop bytes index before with
  | case1 index before inside ih => exact Nat.le_of_succ_le ih
  | case2 index before past => exact Nat.le_of_eq List.length_reverse.symm

theorem line_nonempty (text : String) : 0 < (line text).length := by
  have filled : 0 < (text ++ "\n").toUTF8.size := by
    change 0 < (text ++ "\n").utf8ByteSize
    rw [String.utf8ByteSize_append]
    exact Nat.lt_of_lt_of_le (by decide : 0 < "\n".utf8ByteSize) (Nat.le_add_left _ _)
  rw [line, utf8, ByteArray.toList, ByteArray.toList.loop, if_pos filled]
  exact Nat.lt_of_lt_of_le Nat.one_pos (list_loop_length _ 1 [(text ++ "\n").toUTF8.get! 0])

theorem write_fits (printed bytes : Bytes) (room : Nat) (enough : bytes.length ≤ room) :
    Output.write ⟨printed, some room⟩ bytes = (true, ⟨printed ++ bytes, some (room - bytes.length)⟩) := by
  simp only [Output.write, decide_eq_true enough, List.take_of_length_le enough]

theorem write_overflows (printed bytes : Bytes) (room : Nat) (short : room < bytes.length) :
    Output.write ⟨printed, some room⟩ bytes = (false, ⟨printed ++ bytes.take room, some 0⟩) := by
  simp only [Output.write, decide_eq_false (Nat.not_le_of_lt short), Nat.sub_eq_zero_of_le (Nat.le_of_lt short)]

theorem line_overflows (text : String) (printed : Bytes) (room : Nat) (disk : Disk) (log : List Event)
    (short : room < (line text).length) :
    (Action.printLine text).run ⟨⟨printed, some room⟩, disk, log⟩ =
      (.error (.io .outputFull), ⟨⟨printed ++ (line text).take room, some 0⟩, disk, log⟩) := by
  have written := write_overflows printed (line text) room short
  rw [line] at written
  simp only [Action.run, Action.printLine, written, line]

theorem prints_line (text : String) : (Action.printLine text).Prints disk log (line text) (.ok ()) disk log where
  wanted := nofun
  free printed := rfl
  fits printed room enough := by
    have written := write_fits printed (line text) room enough
    rw [line] at written
    simp only [Action.run, Action.printLine, written, line]
  overflows printed room short := ⟨disk, log, line_overflows text printed room disk log short⟩

theorem prints_bind {action : Action α} {next : α → Action β} {before after : Bytes} {value : α}
    {result : Except Failure β} (first : action.Prints disk log before (.ok value) diskAfter logAfter)
    (second : (next value).Prints diskAfter logAfter after result diskLast logLast) :
    (action >>= next).Prints disk log (before ++ after) result diskLast logLast where
  wanted := second.wanted
  free printed := by
    rw [run_bind, first.free, ← List.append_assoc]
    exact second.free _
  fits printed room enough := by
    rw [List.length_append] at enough
    have rest : after.length ≤ room - before.length := by omega
    rw [run_bind, first.fits printed room (by omega), ← List.append_assoc, List.length_append, ← Nat.sub_sub]
    exact second.fits _ _ rest
  overflows printed room short := by
    rw [List.length_append] at short
    -- The cut falls either into what the first action prints or into what follows.
    by_cases early : room < before.length
    · obtain ⟨diskThen, logThen, failed⟩ := first.overflows printed room early
      refine ⟨diskThen, logThen, ?_⟩
      rw [run_bind, failed, List.take_append_of_le_length (Nat.le_of_lt early)]
    · have started : before.length ≤ room := Nat.le_of_not_lt early
      obtain ⟨diskThen, logThen, failed⟩ := second.overflows (printed ++ before) (room - before.length) (by omega)
      refine ⟨diskThen, logThen, ?_⟩
      rw [run_bind, first.fits printed room started, List.take_append, List.take_of_length_le started,
        ← List.append_assoc]
      exact failed

theorem prints_bind_error {action : Action α} {next : α → Action β} {bytes : Bytes} {failure : Failure}
    (first : action.Prints disk log bytes (.error failure) diskAfter logAfter) :
    (action >>= next).Prints disk log bytes (.error failure) diskAfter logAfter where
  wanted same := first.wanted (congrArg Except.error (Except.error.inj same))
  free printed := by rw [run_bind, first.free]
  fits printed room enough := by rw [run_bind, first.fits printed room enough]
  overflows printed room short := by
    obtain ⟨diskThen, logThen, failed⟩ := first.overflows printed room short
    exact ⟨diskThen, logThen, by rw [run_bind, failed]⟩

theorem prints_after {action : Action α} {next : Action β} {bytes after : Bytes} {value : α}
    {result : Except Failure β} (first : action.Prints disk log bytes (.ok value) diskAfter logAfter)
    (second : next.Prints diskAfter logAfter after result diskLast logLast) :
    (action >>= fun _ => next).Prints disk log (bytes ++ after) result diskLast logLast := prints_bind first second

theorem prints_after_error {action : Action α} (next : Action β) {bytes : Bytes} {failure : Failure}
    (first : action.Prints disk log bytes (.error failure) diskAfter logAfter) :
    (action >>= fun _ => next).Prints disk log bytes (.error failure) diskAfter logAfter := prints_bind_error first

theorem prints_lines {next : Action α} {result : Except Failure α} (first second : String)
    (silent : next.Prints disk log [] result diskLast logLast) :
    (do Action.printLine first; Action.printLine second; next).Prints disk log (line first ++ line second) result
      diskLast logLast := by
  have lines := prints_after (prints_line first) (prints_after (prints_line second) silent)
  rwa [List.append_nil] at lines

theorem persist_steps (path : String) (value : Value) :
    persist path value = (do Action.writeFile path value.pretty; Action.log (.saved path)) := by
  rw [persist, render_pretty]
  rfl

theorem prints_persist (path : String) (value : Value) (written : disk.write path value.pretty = .ok diskAfter) :
    (persist path value).Prints disk log [] (.ok ()) diskAfter (log ++ [.saved path]) := by
  rw [persist_steps]
  exact prints_after (prints_write_file path value.pretty written) (prints_log (.saved path))

theorem prints_persist_error (path : String) (value : Value) (fault : IoFault)
    (failed : disk.write path value.pretty = .error fault) :
    (persist path value).Prints disk log [] (.error (.io fault)) disk log := by
  rw [persist_steps]
  exact prints_after_error _ (prints_write_file_error path value.pretty fault failed)

theorem Sink.success_steps (sink : Sink) (value : Value) :
    sink.reportSuccess value = (do
      Action.printLine sink.heading
      Action.printLine value.pretty
      match sink.outputPath with
      | some path => persist path value
      | none => pure ()
      pure (.success value)) := by
  rw [reportSuccess, render_pretty]
  rfl

end NodeProbe
