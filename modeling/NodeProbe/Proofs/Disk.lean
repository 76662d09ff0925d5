import NodeProbe.Disk
import Mathlib.Data.List.Induction

set_option autoImplicit false

namespace NodeProbe.Disk

theorem get_set_same (disk : Disk) (place : Place) (entry : Entry) (inside : place ≠ []) :
    (disk.set place entry).get? place = some entry := by
  rw [get?, if_neg inside]
  simp only [set, List.find?_cons, decide_true, Option.map_some]

theorem get_set_other (disk : Disk) (place other : Place) (entry : Entry) (different : other ≠ place) :
    (disk.set place entry).get? other = disk.get? other := by
  have unchanged : (disk.set place entry).entries.find? (fun entry => entry.1 = other) =
      disk.entries.find? fun entry => entry.1 = other := by
    rw [set, List.find?_cons_of_neg (by simpa using Ne.symm different), List.find?_filter]
    congr 1
    funext candidate
    by_cases found : candidate.1 = other
    · simp [found, different]
    · simp [found]
  rw [get?, get?, unchanged]

theorem enter_directory (disk : Disk) (place : Place) (name : String) (next : Place)
    (entered : disk.enter place name = .ok next) (changed : Disk)
    (kept : ∀ other, disk.get? other = some .directory → changed.get? other = some .directory) :
    changed.enter place name = .ok next := by
  unfold enter at entered ⊢
  by_cases here : name = "."
  · rwa [if_pos here] at entered ⊢
  · rw [if_neg here] at entered ⊢
    by_cases up : name = ".."
    · rwa [if_pos up] at entered ⊢
    · rw [if_neg up] at entered ⊢
      by_cases long : nameLimit < name.utf8ByteSize
      · rw [if_pos long] at entered
        cases entered
      · rw [if_neg long] at entered ⊢
        cases found : disk.get? (place ++ [name]) with
        | none =>
          rw [found] at entered
          cases entered
        | some entry =>
          cases entry with
          | file content =>
            rw [found] at entered
            cases entered
          | directory =>
            rw [found] at entered
            rw [kept _ found]
            exact entered

theorem walk_directory (disk changed : Disk)
    (kept : ∀ other, disk.get? other = some .directory → changed.get? other = some .directory)
    (place : Place) (names : List String) (last : Place) (walked : disk.walk place names = .ok last) :
    changed.walk place names = .ok last := by
  induction names generalizing place with
  | nil => exact walked
  | cons name rest ih =>
    unfold walk at walked ⊢
    rw [List.foldlM_cons] at walked ⊢
    cases entered : disk.enter place name with
    | error fault =>
      rw [entered] at walked
      cases walked
    | ok next =>
      rw [entered] at walked
      rw [enter_directory disk place name next entered changed kept]
      exact ih next walked

theorem file_in_iff (disk : Disk) (path : String) (directory : Place) (name : String) (place : Place) :
    disk.fileIn path directory name = .ok place ↔
      ¬ (name = "." ∨ name = ".." ∨ path.toList.getLast? = some '/') ∧ ¬ nameLimit < name.utf8ByteSize ∧
        disk.get? (directory ++ [name]) ≠ some .directory ∧ place = directory ++ [name] := by
  unfold fileIn
  constructor
  · intro named
    by_cases reserved : name = "." ∨ name = ".." ∨ path.toList.getLast? = some '/'
    · rw [if_pos reserved] at named
      cases named
    · rw [if_neg reserved] at named
      by_cases long : nameLimit < name.utf8ByteSize
      · rw [if_pos long] at named
        cases named
      · rw [if_neg long] at named
        by_cases taken : disk.get? (directory ++ [name]) = some .directory
        · rw [if_pos taken] at named
          cases named
        · rw [if_neg taken] at named
          cases named
          exact ⟨reserved, long, taken, rfl⟩
  · rintro ⟨reserved, long, taken, rfl⟩
    rw [if_neg reserved, if_neg long, if_neg taken]

theorem target_iff (disk : Disk) (path : String) (place : Place) :
    disk.target path = .ok place ↔
      ¬ pathLimit ≤ path.utf8ByteSize ∧ path ≠ "" ∧ ∃ name directory, (steps path).getLast? = some name ∧
        disk.walk (disk.start path) (steps path).dropLast = .ok directory ∧
        disk.fileIn path directory name = .ok place := by
  unfold target
  constructor
  · intro leads
    by_cases long : pathLimit ≤ path.utf8ByteSize
    · rw [if_pos long] at leads
      cases leads
    · rw [if_neg long] at leads
      by_cases empty : path = ""
      · rw [if_pos empty] at leads
        cases leads
      · rw [if_neg empty] at leads
        cases last : (steps path).getLast? with
        | none =>
          rw [last] at leads
          cases leads
        | some name =>
          rw [last] at leads
          cases walked : disk.walk (disk.start path) (steps path).dropLast with
          | error fault =>
            rw [walked] at leads
            cases leads
          | ok directory =>
            rw [walked] at leads
            exact ⟨long, empty, name, directory, rfl, rfl, leads⟩
  · rintro ⟨long, empty, name, directory, last, walked, named⟩
    rw [if_neg long, if_neg empty, last]
    dsimp only
    rw [walked]
    exact named

theorem target_ok (disk : Disk) (path : String) (place : Place) (leads : disk.target path = .ok place) :
    place ≠ [] ∧ disk.get? place ≠ some .directory := by
  obtain ⟨_, _, name, directory, _, _, named⟩ := (target_iff disk path place).mp leads
  obtain ⟨_, _, free, rfl⟩ := (file_in_iff disk path directory name place).mp named
  exact ⟨List.concat_ne_nil name directory, free⟩

theorem set_file_directories (disk : Disk) (place : Place) (content : String) (inside : place ≠ [])
    (free : disk.get? place ≠ some .directory) (other : Place) :
    (disk.set place (.file content)).get? other = some .directory ↔ disk.get? other = some .directory := by
  by_cases same : other = place
  · subst same
    simp [get_set_same disk other _ inside, free]
  · rw [get_set_other disk place other _ same]

-- Only directories are passed on the way to a file, so paths lead on where the directories are the same.
theorem target_directories (disk changed : Disk) (working : changed.working = disk.working)
    (same : ∀ other, changed.get? other = some .directory ↔ disk.get? other = some .directory) (path : String)
    (place : Place) (leads : disk.target path = .ok place) : changed.target path = .ok place := by
  obtain ⟨long, empty, name, directory, last, walked, named⟩ := (target_iff disk path place).mp leads
  obtain ⟨reserved, short, free, rfl⟩ := (file_in_iff disk path directory name place).mp named
  have starts : changed.start path = disk.start path := by rw [start, start, working]
  have way := walk_directory disk changed (fun other => (same other).mpr) _ _ _ walked
  rw [← starts] at way
  exact (target_iff changed path _).mpr ⟨long, empty, name, directory, last, way,
    (file_in_iff changed path directory name _).mpr ⟨reserved, short, mt (same _).mp free, rfl⟩⟩

theorem target_set (disk : Disk) (place : Place) (content : String) (inside : place ≠ [])
    (free : disk.get? place ≠ some .directory) (path : String) (other : Place) :
    (disk.set place (.file content)).target path = .ok other ↔ disk.target path = .ok other := by
  have directories := set_file_directories disk place content inside free
  exact ⟨target_directories (disk.set place (.file content)) disk rfl (fun other => (directories other).symm) path other,
    target_directories disk (disk.set place (.file content)) rfl directories path other⟩

theorem write_target (disk after : Disk) (path content : String) (written : disk.write path content = .ok after) :
    ∃ place, disk.target path = .ok place ∧ after = disk.set place (.file content) := by
  unfold write at written
  split at written
  · cases written
  · split at written
    · cases written
    · rename_i place leads
      exact ⟨place, leads, (Except.ok.inj written).symm⟩

theorem read_write (disk after : Disk) (path content : String) (written : disk.write path content = .ok after) :
    after.read? path = some content := by
  obtain ⟨place, leads, rfl⟩ := write_target disk after path content written
  obtain ⟨inside, free⟩ := target_ok disk path place leads
  rw [read?, (target_set disk place content inside free path place).mpr leads]
  dsimp only
  rw [get_set_same disk place _ inside]

theorem write_keeps_targets (disk after : Disk) (path content : String) (written : disk.write path content = .ok after)
    (other : String) (place : Place) : after.target other = .ok place ↔ disk.target other = .ok place := by
  obtain ⟨own, leads, rfl⟩ := write_target disk after path content written
  obtain ⟨inside, free⟩ := target_ok disk path own leads
  exact target_set disk own content inside free other place

theorem write_leads (disk after : Disk) (path content : String) (written : disk.write path content = .ok after) :
    after.target path = disk.target path := by
  obtain ⟨place, leads, _⟩ := write_target disk after path content written
  rw [leads, (write_keeps_targets disk after path content written path place).mpr leads]

theorem set_again (disk : Disk) (place : Place) (entry : Entry) :
    (disk.set place entry).set place entry = disk.set place entry := by
  unfold set
  rw [List.filter_cons_of_neg (by simp), List.filter_filter]
  simp only [Bool.and_self]

theorem write_again (disk after : Disk) (path content : String) (written : disk.write path content = .ok after) :
    after.write path content = .ok after := by
  have leads := write_leads disk after path content written
  obtain ⟨place, led, rfl⟩ := write_target disk after path content written
  unfold write at written ⊢
  by_cases cut : '\x00' ∈ path.toList
  · rw [if_pos cut] at written
    cases written
  · rw [if_neg cut, leads, led]
    dsimp only
    rw [set_again]

theorem write_elsewhere (disk after : Disk) (path content : String) (other : Place)
    (written : disk.write path content = .ok after) (elsewhere : disk.target path ≠ .ok other) :
    after.get? other = disk.get? other := by
  obtain ⟨place, leads, rfl⟩ := write_target disk after path content written
  refine get_set_other disk place other _ ?_
  rintro rfl
  exact elsewhere leads

-- The disk with this content in the file that the path leads to, and all else as it was.
structure Gains (before after : Disk) (path content : String) : Prop where
  held : after.read? path = some content
  elsewhere : ∀ place, before.target path ≠ .ok place → after.get? place = before.get? place

theorem write_gains (before after : Disk) (path content : String) (written : before.write path content = .ok after) :
    before.Gains after path content :=
  ⟨read_write before after path content written,
    fun place other => write_elsewhere before after path content place written other⟩

/-- The content of the nearest file of a name, in a directory or above it. -/
inductive Nearest (disk : Disk) (name : String) : Place → Option String → Prop
  | here {place : Place} {content : String} : disk.get? (place ++ [name]) = some (.file content) →
      Nearest disk name place (some content)
  | above {place : Place} {last : String} {found : Option String} :
      (∀ content, disk.get? (place ++ [last] ++ [name]) ≠ some (.file content)) → Nearest disk name place found →
      Nearest disk name (place ++ [last]) found
  | nowhere : (∀ content, disk.get? [name] ≠ some (.file content)) → Nearest disk name [] none

def content? (disk : Disk) (place : Place) : Option String :=
  match disk.get? place with
  | some (.file content) => some content
  | _ => none

theorem content_some (disk : Disk) (place : Place) (content : String) :
    disk.content? place = some content ↔ disk.get? place = some (.file content) := by
  unfold content?
  cases disk.get? place with
  | none => exact ⟨nofun, nofun⟩
  | some entry => cases entry <;> simp

theorem content_none (disk : Disk) (place : Place) :
    disk.content? place = none ↔ ∀ content, disk.get? place ≠ some (.file content) := by
  simp only [Option.eq_none_iff_forall_ne_some, ne_eq, content_some]

def above (place : Place) (name : String) : List Place :=
  (List.range (place.length + 1)).reverse.map fun depth => place.take depth ++ [name]

theorem above_snoc (place : Place) (last name : String) :
    above (place ++ [last]) name = (place ++ [last] ++ [name]) :: above place name := by
  rw [above, List.length_append, List.length_singleton, List.range_succ, List.reverse_append, List.reverse_singleton,
    List.singleton_append, List.map_cons, List.take_of_length_le (by simp)]
  refine congrArg _ (List.map_congr_left fun depth within => ?_)
  rw [List.mem_reverse, List.mem_range] at within
  rw [List.take_append_of_le_length (Nat.le_of_lt_succ within)]

theorem nearest_found (disk : Disk) (name : String) (place : Place) :
    disk.Nearest name place ((above place name).findSome? disk.content?) := by
  induction place using List.reverseRecOn with
  | nil =>
    show disk.Nearest name [] ([[name]].findSome? disk.content?)
    rw [List.findSome?_singleton]
    cases here : disk.content? [name] with
    | none => exact .nowhere ((disk.content_none _).mp here)
    | some content => exact .here ((disk.content_some _ content).mp here)
  | append_singleton place last ih =>
    rw [above_snoc, List.findSome?_cons]
    cases here : disk.content? (place ++ [last] ++ [name]) with
    | none => exact .above ((disk.content_none _).mp here) ih
    | some content => exact .here ((disk.content_some _ content).mp here)

theorem nearest_once {disk : Disk} {name : String} {place : Place} {found : Option String}
    (nearest : disk.Nearest name place found) : found = (above place name).findSome? disk.content? := by
  induction nearest with
  | @here place content held =>
    rw [above, List.range_succ, List.reverse_append, List.reverse_singleton, List.singleton_append, List.map_cons,
      List.take_length, List.findSome?_cons, (disk.content_some _ content).mpr held]
  | @above place last found free _ ih =>
    rw [above_snoc, List.findSome?_cons, (disk.content_none _).mpr free]
    exact ih
  | nowhere free =>
    show none = [[name]].findSome? disk.content?
    rw [List.findSome?_singleton, (disk.content_none _).mpr free]

theorem find_above_nearest (disk : Disk) (name : String) : disk.Nearest name disk.working (disk.findAbove name) := by
  have found := disk.nearest_found name disk.working
  rw [above, List.findSome?_map] at found
  exact found

theorem find_above_once {disk : Disk} {name : String} {found : Option String}
    (nearest : disk.Nearest name disk.working found) : found = disk.findAbove name := by
  rw [nearest_once nearest, above, List.findSome?_map]
  rfl

end NodeProbe.Disk
