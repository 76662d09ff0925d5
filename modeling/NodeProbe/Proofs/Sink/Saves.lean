import NodeProbe.Proofs.Sink.File
import Mathlib.Data.List.Induction

set_option autoImplicit false

namespace NodeProbe

open Json

structure Save where
  path : String
  value : Value

namespace Save

def perform (save : Save) : Action Unit := persist save.path save.value

def Works (disk : Disk) (save : Save) : Prop := '\x00' ∉ save.path.toList ∧ ∃ place, disk.target save.path = .ok place

def runAll (saves : List Save) (world : World) : World :=
  saves.foldl (fun world save => (save.perform.run world).2) world

def landed : List Save → World → List Save
  | [], _ => []
  | save :: rest, world =>
    match save.perform.run world with
    | (.ok _, after) => save :: landed rest after
    | (.error _, after) => landed rest after

def lastAt (disk : Disk) (place : Place) (saves : List Save) : Option Save :=
  (saves.filter fun save => disk.target save.path = .ok place).getLast?

instance (disk : Disk) (save : Save) : Decidable (save.Works disk) :=
  decidable_of_iff ('\x00' ∉ save.path.toList ∧ (disk.target save.path).isOk = true)
    (and_congr_right' (by cases disk.target save.path <;> simp [Except.isOk, Except.toBool]))

structure Lands (save : Save) (before after : World) : Prop where
  gains : before.disk.Gains after.disk save.path save.value.pretty
  told : after.log = before.log ++ [.saved save.path]
  silent : after.output = before.output

theorem run_all_append (before after : List Save) (world : World) :
    runAll (before ++ after) world = runAll after (runAll before world) := List.foldl_append

theorem run_all_one (save : Save) (world : World) : runAll [save] world = (save.perform.run world).2 := rfl

theorem write_works (disk : Disk) (save : Save) (content : String) :
    (∃ after, disk.write save.path content = .ok after) ↔ save.Works disk := by
  unfold Disk.write Works
  by_cases cut : '\x00' ∈ save.path.toList
  · simp [cut]
  · cases leads : disk.target save.path <;> simp [cut]

theorem perform_cases (save : Save) (world : World) :
    (save.Works world.disk ∧ ∃ after, world.disk.write save.path save.value.pretty = .ok after ∧
      save.perform.run world = (.ok (), { world with disk := after, log := world.log ++ [.saved save.path] })) ∨
    (¬ save.Works world.disk ∧ ∃ fault, save.perform.run world = (.error (.io fault), world)) := by
  have works := write_works world.disk save save.value.pretty
  cases written : world.disk.write save.path save.value.pretty with
  | ok after =>
    exact .inl ⟨works.mp ⟨after, written⟩, after, rfl, Sink.persist_ok save.path save.value world after written⟩
  | error fault =>
    refine .inr ⟨?_, fault, Sink.persist_error save.path save.value world fault written⟩
    rw [← works, written]
    exact nofun

theorem perform_targets (save : Save) (world : World) (path : String) (place : Place) :
    (save.perform.run world).2.disk.target path = .ok place ↔ world.disk.target path = .ok place := by
  rcases save.perform_cases world with ⟨_, after, written, ran⟩ | ⟨_, fault, ran⟩
  · rw [ran]
    exact Disk.write_keeps_targets world.disk after save.path _ written path place
  · rw [ran]

theorem run_all_targets (saves : List Save) (world : World) (path : String) (place : Place) :
    (runAll saves world).disk.target path = .ok place ↔ world.disk.target path = .ok place := by
  induction saves generalizing world with
  | nil => exact Iff.rfl
  | cons save rest ih => exact (ih _).trans (save.perform_targets world path place)

theorem works_same {disk other : Disk} (save : Save)
    (same : ∀ path place, other.target path = .ok place ↔ disk.target path = .ok place) :
    save.Works other ↔ save.Works disk := by
  simp [Works, same]

theorem landed_filter (saves : List Save) (world : World) :
    landed saves world = saves.filter fun save => save.Works world.disk := by
  induction saves generalizing world with
  | nil => rfl
  | cons save rest ih =>
    have later : landed rest (save.perform.run world).2 = rest.filter fun save => save.Works world.disk := by
      rw [ih]
      simp only [works_same _ (save.perform_targets world)]
    rcases save.perform_cases world with ⟨works, after, _, ran⟩ | ⟨fails, fault, ran⟩
    · rw [ran] at later
      simp [landed, ran, later, works]
    · rw [ran] at later
      simp [landed, ran, later, fails]

theorem run_all_filter (saves : List Save) (world : World) :
    runAll (saves.filter fun save => save.Works world.disk) world = runAll saves world := by
  induction saves using List.reverseRecOn with
  | nil => rfl
  | append_singleton saves save ih =>
    rw [List.filter_append, run_all_append, run_all_append, ih]
    have same := works_same save (run_all_targets saves world)
    rcases save.perform_cases (runAll saves world) with ⟨works, _⟩ | ⟨fails, fault, ran⟩
    · simp [same.mp works]
    · rw [run_all_one, ran, List.filter_cons_of_neg (by simpa [same] using fails)]
      rfl

theorem run_all_sublist (saves fewer : List Save) (world : World) (kept : (landed saves world).Sublist fewer)
    (part : fewer.Sublist saves) : runAll fewer world = runAll saves world := by
  have wider := kept.filter fun save => save.Works world.disk
  have narrower := part.filter fun save => save.Works world.disk
  rw [landed_filter, List.filter_filter] at wider
  simp only [Bool.and_self] at wider
  rw [← run_all_filter fewer, narrower.antisymm wider, run_all_filter]

theorem last_at_append (disk : Disk) (place : Place) (saves : List Save) (save : Save) :
    lastAt disk place (saves ++ [save]) =
      if disk.target save.path = .ok place then some save else lastAt disk place saves := by
  by_cases here : disk.target save.path = .ok place <;> simp [lastAt, here]

theorem run_all_get (saves : List Save) (world : World) (place : Place) :
    (runAll saves world).disk.get? place =
      match lastAt world.disk place (landed saves world) with
      | some save => some (.file save.value.pretty)
      | none => world.disk.get? place := by
  rw [landed_filter]
  induction saves using List.reverseRecOn with
  | nil => rfl
  | append_singleton saves save ih =>
    have targets := run_all_targets saves world
    rw [run_all_append, run_all_one, List.filter_append]
    rcases save.perform_cases (runAll saves world) with ⟨works, after, written, ran⟩ | ⟨fails, fault, ran⟩
    · obtain ⟨own, leads, same⟩ := Disk.write_target _ _ _ _ written
      have led := (targets save.path own).mp leads
      rw [works_same save targets] at works
      rw [List.filter_cons_of_pos (by simpa using works), List.filter_nil, last_at_append, ran, same]
      by_cases here : own = place
      · subst here
        simp [led, Disk.get_set_same _ _ _ (Disk.target_ok _ _ _ leads).1]
      · simpa [led, here, Disk.get_set_other _ own place _ (Ne.symm here)] using ih
    · rw [works_same save targets] at fails
      simpa [ran, fails] using ih

theorem run_all_log (saves : List Save) (world : World) :
    (runAll saves world).log = world.log ++ (landed saves world).map fun save => .saved save.path := by
  induction saves generalizing world with
  | nil => exact (List.append_nil _).symm
  | cons save rest ih =>
    have later := ih (save.perform.run world).2
    rcases save.perform_cases world with ⟨_, after, _, ran⟩ | ⟨_, fault, ran⟩ <;> rw [ran] at later <;>
      simpa [runAll, landed, ran] using later

/-- The last save that comes to a place decides what it holds, and a failing save leaves no trace. -/
theorem last_save_held (saves : List Save) (world : World) :
    (∀ save : Save, ((save.perform.run world).1 = .ok () ↔ save.Works world.disk) ∧
      ((save.perform.run world).1 = .ok () → save.Lands world (save.perform.run world).2) ∧
      ∀ failure, (save.perform.run world).1 = .error failure → (save.perform.run world).2 = world) ∧
    (∀ path place, (runAll saves world).disk.target path = .ok place ↔ world.disk.target path = .ok place) ∧
    (∀ place, (runAll saves world).disk.get? place =
      match lastAt world.disk place (landed saves world) with
      | some save => some (.file save.value.pretty)
      | none => world.disk.get? place) ∧
    (runAll saves world).log = world.log ++ (landed saves world).map (fun save => .saved save.path) ∧
    ∀ fewer, (landed saves world).Sublist fewer → fewer.Sublist saves → runAll fewer world = runAll saves world := by
  refine ⟨?_, run_all_targets saves world, run_all_get saves world, run_all_log saves world,
    fun fewer => run_all_sublist saves fewer world⟩
  intro save
  rcases save.perform_cases world with ⟨works, after, written, ran⟩ | ⟨fails, fault, ran⟩
  · rw [ran]
    exact ⟨iff_of_true rfl works, fun _ => ⟨Disk.write_gains _ _ _ _ written, rfl, rfl⟩, nofun⟩
  · rw [ran]
    exact ⟨iff_of_false nofun fails, nofun, fun _ _ => rfl⟩

-- Two spellings of one path, and between them a directory and a file that is none.
theorem respelled_save_held :
    let world : World := ⟨.unlimited, ⟨[(["d"], .directory), (["d", "a"], .file "a longer one")], ["d"]⟩, []⟩
    let saves : List Save := [⟨"a", .null⟩, ⟨"/d", .null⟩, ⟨"a/b", .null⟩, ⟨"/d//./../d/a", .boolean true⟩]
    landed saves world = [⟨"a", .null⟩, ⟨"/d//./../d/a", .boolean true⟩] ∧
      (runAll saves world).disk.get? ["d", "a"] = some (.file "true") ∧
      runAll [⟨"a", .null⟩, ⟨"/d//./../d/a", .boolean true⟩] world = runAll saves world := by
  intro world saves
  have only : landed saves world = [⟨"a", .null⟩, ⟨"/d//./../d/a", .boolean true⟩] := by
    have first : Works world.disk ⟨"a", .null⟩ := by decide +kernel
    have directory : ¬ Works world.disk ⟨"/d", .null⟩ := by decide +kernel
    have inside : ¬ Works world.disk ⟨"a/b", .null⟩ := by decide +kernel
    have last : Works world.disk ⟨"/d//./../d/a", .boolean true⟩ := by decide +kernel
    simp [saves, landed_filter, first, directory, inside, last]
  obtain ⟨_, _, held, _, pruned⟩ := last_save_held saves world
  refine ⟨only, ?_, ?_⟩
  · have leads : world.disk.target "/d//./../d/a" = .ok ["d", "a"] := by decide +kernel
    have later : lastAt world.disk ["d", "a"] [⟨"a", .null⟩, ⟨"/d//./../d/a", .boolean true⟩] =
        some ⟨"/d//./../d/a", .boolean true⟩ := (last_at_append _ _ [⟨"a", .null⟩] _).trans (if_pos leads)
    rw [held, only, later]
    rfl
  · apply pruned
    · rw [only]
    · exact .cons_cons _ (.cons _ (.cons _ (.cons_cons _ .slnil)))

end Save

end NodeProbe
