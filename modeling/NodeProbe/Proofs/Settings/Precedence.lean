import NodeProbe.Proofs.Settings.Lookup
import NodeProbe.Proofs.Settings.Template

set_option autoImplicit false

namespace NodeProbe.Dotenv

-- What a reference stands for. Behind a name and an equals sign stands the start of a value, which is left out.
def reach (known : String → Option String) (reference : String) : Option String :=
  match reference.toList.dropWhile (· ≠ '=') with
  | [] => known reference
  | _ :: key => (known (String.ofList (reference.toList.takeWhile (· ≠ '=')))).bind (valueBehind? key)

theorem refer_reaches (environment : Environment) : environment.refer? = reach environment.get? := rfl

theorem reach_name (known : String → Option String) (name : String) (plain : '=' ∉ name.toList) :
    reach known name = known name := by
  have dropped : name.toList.dropWhile (· ≠ '=') = [] := by
    refine List.dropWhile_eq_nil_iff.mpr fun c within => decide_eq_true ?_
    rintro rfl
    exact plain within
  rw [reach, dropped]

theorem value_behind (key : List Char) (value rest : String) :
    valueBehind? key value = some rest ↔ value = String.ofList (key ++ '=' :: rest.toList) := by
  rw [valueBehind?]
  constructor
  · intro found
    obtain ⟨starts, same⟩ := Option.ite_none_right_eq_some.mp found
    obtain ⟨behind, split⟩ := List.isPrefixOf_iff_prefix.mp starts
    have dropped : value.toList.drop (key.length + 1) = behind := by
      rw [← split, List.append_assoc, ← List.drop_drop]
      simp
    rw [dropped] at same
    cases same
    rw [← @String.ofList_toList value, ← split]
    simp
  · intro same
    subst same
    have starts : (key ++ ['=']).isPrefixOf (key ++ '=' :: rest.toList) = true := by
      rw [List.isPrefixOf_iff_prefix]
      exact ⟨rest.toList, by simp⟩
    simp [starts]

theorem reach_into_value (known : String → Option String) (name key value : String) (plain : '=' ∉ name.toList) :
    reach known (name ++ "=" ++ key) = some value ↔ known name = some (key ++ "=" ++ value) := by
  have letters : ∀ c ∈ name.toList, (decide (c ≠ '=')) = true := by
    intro c within
    exact decide_eq_true fun same => plain (same ▸ within)
  have split : (name ++ "=" ++ key).toList = name.toList ++ '=' :: key.toList := by simp
  have behind : (name ++ "=" ++ key).toList.dropWhile (· ≠ '=') = '=' :: key.toList := by
    rw [split, List.dropWhile_append_of_pos letters]
    rfl
  have front : (name ++ "=" ++ key).toList.takeWhile (· ≠ '=') = name.toList := by
    rw [split, List.takeWhile_append_of_pos letters]
    simp
  rw [reach, behind, front, String.ofList_toList, Option.bind_eq_some_iff]
  simp only [value_behind]
  have same : String.ofList (key.toList ++ '=' :: value.toList) = key ++ "=" ++ value := by
    rw [← String.toList_inj]
    simp
  simp [same]

-- The text that the first binding of a name gives it.
def first (bound : List (String × String)) (name : String) : Option String :=
  (bound.find? fun binding => binding.1 = name).map (·.2)

-- The variables of the process, and behind them those of a file.
def effective (environment : Environment) (bound : List (String × String)) (name : String) : Option String :=
  (environment.get? name).or (first bound name)

-- The texts that bindings give, each under the variables of the process and the bindings before it.
def assign (environment : Environment) (bound : List (String × String)) :
    List (String × List Piece) → List (String × String)
  | [] => bound
  | (name, pieces) :: rest =>
    let value := String.ofList (fill (reach (effective environment bound)) pieces)
    assign environment (bound ++ [(name, value)]) rest

-- The bindings that stand on lines, up to the first malformed one.
inductive Written : List (List Char) → List (String × List Piece) → Prop
  | done : Written [] []
  | blank {line : List Char} {rest : List (List Char)} {bindings : List (String × List Piece)} :
      Form.Of line .blank → Written rest bindings → Written (line :: rest) bindings
  | binding {line : List Char} {rest : List (List Char)} {bindings : List (String × List Piece)} {name : String}
      {pieces : List Piece} :
      Form.Of line (.binding name pieces) → Written rest bindings → Written (line :: rest) ((name, pieces) :: bindings)
  | malformed {line : List Char} {rest : List (List Char)} : Form.Of line .malformed → Written (line :: rest) []

theorem written_exist (lines : List (List Char)) : ∃ bindings, Written lines bindings := by
  induction lines with
  | nil => exact ⟨[], .done⟩
  | cons line rest ih =>
    obtain ⟨bindings, written⟩ := ih
    obtain ⟨form, same⟩ := line_form line
    cases form with
    | blank => exact ⟨bindings, .blank same written⟩
    | binding name pieces => exact ⟨(name, pieces) :: bindings, .binding same written⟩
    | malformed => exact ⟨[], .malformed same⟩

theorem first_append (before after : List (String × String)) (name : String) :
    first (before ++ after) name = (first before name).or (first after name) := by
  rw [first, List.find?_append, Option.map_or]
  rfl

theorem first_unknown (bound : List (String × String)) (name : String)
    (absent : name ∉ bound.map (·.1)) : first bound name = none := by
  rw [first, Option.map_eq_none_iff, List.find?_eq_none]
  rintro ⟨other, value⟩ listed same
  simp only [decide_eq_true_eq] at same
  exact absent (List.mem_map.mpr ⟨(other, value), listed, same⟩)

theorem first_single (name value other : String) :
    first [(name, value)] other = if name = other then some value else none := by
  by_cases same : name = other
  · simp [first, same]
  · simp [first, same]

variable {environment : Environment}

theorem assign_append (before after : List (String × List Piece)) (bound : List (String × String)) :
    assign environment bound (before ++ after) = assign environment (assign environment bound before) after := by
  induction before generalizing bound with
  | nil => rfl
  | cons binding rest ih => exact ih _

theorem assign_names (bindings : List (String × List Piece)) (bound : List (String × String)) :
    (assign environment bound bindings).map (·.1) = bound.map (·.1) ++ bindings.map (·.1) := by
  induction bindings generalizing bound with
  | nil => exact (List.append_nil _).symm
  | cons binding rest ih =>
    rw [assign, ih]
    simp

theorem assign_extends (bindings : List (String × List Piece)) (bound : List (String × String)) :
    bound <+: assign environment bound bindings := by
  induction bindings generalizing bound with
  | nil => exact List.prefix_rfl
  | cons binding rest ih => exact (List.prefix_append bound _).trans (ih _)

theorem effective_of_process (bound : List (String × String)) {name value : String}
    (set : environment.get? name = some value) : effective environment bound name = some value := by
  rw [effective, set, Option.some_or]

-- The variables that bindings leave.
def known (environment : Environment) (bindings : List (String × List Piece)) : String → Option String :=
  effective environment (assign environment [] bindings)

theorem known_first (before after : List (String × List Piece)) (name : String) (pieces : List Piece)
    (unset : environment.get? name = none) (fresh : name ∉ before.map (·.1)) :
    known environment (before ++ (name, pieces) :: after) name =
      some (String.ofList (fill (reach (known environment before)) pieces)) := by
  rw [known, effective, unset, Option.none_or, assign_append, assign]
  obtain ⟨later, behind⟩ := @assign_extends environment after (assign environment [] before ++
    [(name, String.ofList (fill (reach (effective environment (assign environment [] before))) pieces))])
  have absent : name ∉ (assign environment [] before).map (·.1) := by
    rw [assign_names]
    exact fresh
  rw [← behind, first_append, first_append, first_unknown _ _ absent, first_single, if_pos rfl]
  rfl

theorem known_unbound (bindings : List (String × List Piece)) (name : String)
    (unset : environment.get? name = none) (absent : name ∉ bindings.map (·.1)) :
    known environment bindings name = none := by
  rw [known, effective, unset, Option.none_or]
  apply first_unknown
  rw [assign_names]
  exact absent

theorem get_set (current : Environment) (name value other : String) :
    (current.set name value).get? other = if name = other then some value else current.get? other := by
  have text : String.fromUTF8? value.toByteArray = some value := by
    rw [String.fromUTF8?, dif_pos value.isValidUTF8]
    rfl
  by_cases same : name = other
  · simp [Environment.set, Environment.get?, Environment.bytes?, same, text]
  · simp [Environment.set, Environment.get?, Environment.bytes?, same]

theorem set_unset_known (current : Environment) (bound : List (String × String)) (name value : String)
    (same : current.get? = effective environment bound) :
    (current.setUnset name value).get? = effective environment (bound ++ [(name, value)]) := by
  funext other
  have behind : effective environment (bound ++ [(name, value)]) other =
      (current.get? other).or (if name = other then some value else none) := by
    rw [same, effective, effective, first_append, first_single, Option.or_assoc]
  rw [behind, Environment.setUnset]
  cases known : current.get? name with
  | some text =>
    by_cases named : name = other
    · rw [← named, known, Option.some_or]
    · rw [if_neg named, Option.or_none]
  | none =>
    rw [get_set]
    by_cases named : name = other
    · rw [if_pos named, if_pos named, ← named, known, Option.none_or]
    · rw [if_neg named, if_neg named, Option.or_none]

theorem load_lines_assign {lines : List (List Char)} {bindings : List (String × List Piece)}
    (written : Written lines bindings) (current : Environment) (bound : List (String × String))
    (same : current.get? = effective environment bound) :
    (loadLines current lines).get? = effective environment (assign environment bound bindings) := by
  induction written generalizing current bound with
  | done => exact same
  | blank form _ ih =>
    rw [loadLines, form.parsed]
    exact ih current bound same
  | binding form _ ih =>
    rw [loadLines, form.parsed, refer_reaches, same]
    exact ih _ _ (set_unset_known current bound _ _ same)
  | malformed form =>
    rw [loadLines, form.parsed]
    exact same

theorem load_assign (content : String) {bindings : List (String × List Piece)}
    (written : Written (lines content.toList) bindings) :
    (load environment content).get? = known environment bindings := by
  refine load_lines_assign written environment [] ?_
  funext name
  exact (Option.or_none).symm

theorem load_lines_stop (before rest other : List (List Char)) (bad : List Char) (form : Form.Of bad .malformed)
    (current : Environment) : loadLines current (before ++ bad :: rest) = loadLines current (before ++ bad :: other) := by
  induction before generalizing current with
  | nil =>
    rw [List.nil_append, List.nil_append, loadLines, loadLines, form.parsed]
    rfl
  | cons line before ih =>
    rw [List.cons_append, List.cons_append, loadLines, loadLines]
    cases parseLine current.refer? line with
    | blank => exact ih current
    | binding name value => exact ih _
    | malformed => rfl

theorem lone_reference_form {line : List Char} (name referenced : String)
    (parsed : ∀ lookup, parseLine lookup line =
      .binding name (String.ofList (((lookup referenced).getD "").toList.reverse ++ []).reverse))
    (mentions : Mentions line referenced) : Form.Of line (.binding name [.reference referenced]) := by
  refine ⟨?_, ?_⟩
  · intro lookup
    rw [parsed, List.append_nil, List.reverse_reverse, Form.under, fill_reference]
  · intro other pieces same found listed
    cases same
    cases List.mem_singleton.mp listed
    exact mentions

theorem load_stop {content other : String} {before rest behind : List (List Char)} {bad : List Char}
    (split : lines content.toList = before ++ bad :: rest) (same : lines other.toList = before ++ bad :: behind)
    (form : Form.Of bad .malformed) : load environment content = load environment other := by
  rw [load, load, split, same]
  exact load_lines_stop before rest behind bad form environment

end NodeProbe.Dotenv

namespace NodeProbe.Settings

open Dotenv

-- Settings that take the variables that are known as they are.
structure Heeds (known : String → Option String) (settings : Settings) : Prop where
  apiUrl : ∀ value, known "ROSETTA_API_URL" = some value → settings.apiUrl = trimSlashes value
  blockchain : ∀ value, known "ROSETTA_BLOCKCHAIN" = some value → settings.network.blockchain = value
  network : ∀ value, known "ROSETTA_NETWORK" = some value → settings.network.network = value
  timeoutSecs : ∀ value, known "PROBE_TIMEOUT_SECS" = some value → Numeral.parse value = .ok settings.timeoutSecs
  requestCount : ∀ value, known "PROBE_REQUESTS" = some value → Numeral.parse value = .ok settings.requestCount
  outputDir : ∀ value, known "PROBE_OUTPUT_DIR" = some value → settings.outputDir = value

structure Misread (known : String → Option String) (fault : SettingsFault) : Prop where
  number : fault.name = "PROBE_TIMEOUT_SECS" ∨ fault.name = "PROBE_REQUESTS"
  text : known fault.name = some fault.raw
  cause : Numeral.parse fault.raw = .error fault.cause

theorem number_heeds {lookup : String → Option String} {name value : String} {standard result : UInt64}
    (read : number lookup name standard = .ok result) (set : lookup name = some value) :
    Numeral.parse value = .ok result := by
  have chosen := (number_ok_iff lookup name standard result).mp read
  rw [Chosen, set] at chosen
  exact (Numeral.parse_ok_iff value result).mpr chosen

theorem of_lookup_heeds {lookup : String → Option String} {settings : Settings}
    (valid : ofLookup lookup = .ok settings) : settings.Heeds lookup := by
  obtain ⟨timeoutSecs, requestCount, timeout, count, rfl⟩ := (of_lookup_ok_iff lookup settings).mp valid
  refine ⟨fun _ set => filled_url set _ _, ?_, ?_, fun _ => number_heeds timeout, fun _ => number_heeds count, ?_⟩
  all_goals
    intro value set
    simp only [filled, set, Option.getD_some]

theorem refuses_misread {lookup : String → Option String} {name : String} {fault : SettingsFault}
    (listed : name = "PROBE_TIMEOUT_SECS" ∨ name = "PROBE_REQUESTS") (refuses : Refuses lookup name fault) :
    Misread lookup fault where
  number := refuses.named ▸ listed
  text := refuses.named.symm ▸ refuses.raw
  cause := (Numeral.parse_error_iff _ _).mpr refuses.cause

theorem of_lookup_misread {lookup : String → Option String} {fault : SettingsFault}
    (failed : ofLookup lookup = .error fault) : Misread lookup fault := by
  simp only [of_lookup_error_iff, number_error_iff] at failed
  rcases failed with timeout | ⟨_, count⟩
  · exact refuses_misread (.inl rfl) timeout
  · exact refuses_misread (.inr rfl) count

theorem Heeds.weaken {known wider : String → Option String} {settings : Settings} (heeds : settings.Heeds wider)
    (kept : ∀ name value, known name = some value → wider name = some value) : settings.Heeds known where
  apiUrl value set := heeds.apiUrl value (kept _ _ set)
  blockchain value set := heeds.blockchain value (kept _ _ set)
  network value set := heeds.network value (kept _ _ set)
  timeoutSecs value set := heeds.timeoutSecs value (kept _ _ set)
  requestCount value set := heeds.requestCount value (kept _ _ set)
  outputDir value set := heeds.outputDir value (kept _ _ set)

/-- Where settings come from when there is a `.env` file with this content. -/
structure Layered (environment : Environment) (content : String) : Prop where
  absent : ofEnvironment environment none = ofLookup environment.get?
  readable : ∃ bindings, Written (lines content.toList) bindings
  loaded : ∀ bindings, Written (lines content.toList) bindings →
    ofEnvironment environment (some content) = ofLookup (known environment bindings)
  process : ∀ bindings name value, environment.get? name = some value → known environment bindings name = some value
  first : ∀ before name pieces after, environment.get? name = none → name ∉ before.map (·.1) →
    known environment (before ++ (name, pieces) :: after) name =
      some (String.ofList (fill (reach (known environment before)) pieces))
  unbound : ∀ bindings name, environment.get? name = none → name ∉ bindings.map (·.1) →
    known environment bindings name = none
  refused : ∀ bindings fault, Written (lines content.toList) bindings →
    ofEnvironment environment (some content) = .error fault → Misread (known environment bindings) fault
  heeded : ∀ settings, ofEnvironment environment (some content) = .ok settings → settings.Heeds environment.get?
  stopped : ∀ other before bad rest behind, lines content.toList = before ++ bad :: rest →
    lines other.toList = before ++ bad :: behind → Form.Of bad .malformed →
    ofEnvironment environment (some content) = ofEnvironment environment (some other)
  named : ∀ lookup name, '=' ∉ name.toList → reach lookup name = lookup name
  behind : ∀ lookup name key value, '=' ∉ name.toList →
    (reach lookup (name ++ "=" ++ key) = some value ↔ lookup name = some (key ++ "=" ++ value))

theorem of_environment_known {environment : Environment} {content : String} {bindings : List (String × List Piece)}
    (written : Written (lines content.toList) bindings) :
    ofEnvironment environment (some content) = ofLookup (known environment bindings) :=
  congrArg ofLookup (load_assign content written)

/-- The process comes before the file, and in the file the first line that binds a name. -/
theorem settings_precedence (environment : Environment) (content : String) : Layered environment content where
  absent := rfl
  readable := written_exist _
  loaded _ written := of_environment_known written
  process bindings _ _ set := effective_of_process _ set
  first before name pieces after unset fresh := known_first before after name pieces unset fresh
  unbound bindings name unset absent := known_unbound bindings name unset absent
  refused _ _ written failed := of_lookup_misread (of_environment_known written ▸ failed)
  heeded settings valid := by
    obtain ⟨bindings, written⟩ := written_exist (lines content.toList)
    rw [of_environment_known written] at valid
    exact (of_lookup_heeds valid).weaken fun _ _ set => effective_of_process _ set
  stopped _ _ _ _ _ split same form :=
    congrArg (fun loaded : Environment => ofLookup loaded.get?) (load_stop split same form)
  named := reach_name
  behind := reach_into_value

-- A reference need not be the name of a variable.
theorem reference_behind_equals :
    Written (lines "ROSETTA_NETWORK=$\x7bA=B\x7d\n".toList) [("ROSETTA_NETWORK", [.reference "A=B"])] ∧
    ofEnvironment [("A", "B=C".toUTF8)] (some "ROSETTA_NETWORK=$\x7bA=B\x7d\n") ≠
      ofLookup (effective [("A", "B=C".toUTF8)]
        [("ROSETTA_NETWORK", String.ofList (fill (Environment.get? [("A", "B=C".toUTF8)]) [.reference "A=B"]))]) := by
  refine ⟨?_, ?_⟩
  · have split : lines "ROSETTA_NETWORK=$\x7bA=B\x7d\n".toList = ["ROSETTA_NETWORK=$\x7bA=B\x7d".toList, []] := by
      decide +kernel
    rw [split]
    refine .binding (lone_reference_form "ROSETTA_NETWORK" "A=B" (fun _ => rfl) ?_)
      (.blank ⟨fun _ => rfl, nofun⟩ .done)
    exact .braced "ROSETTA_NETWORK=".toList [] (by decide +kernel) (by decide +kernel)
  · decide +kernel

-- The process has a directory that is no text, and the file has it twice.
theorem first_directory_wins :
    Written (lines "PROBE_OUTPUT_DIR=$A\nPROBE_OUTPUT_DIR=y\n!".toList)
      [("PROBE_OUTPUT_DIR", [.reference "A"]), ("PROBE_OUTPUT_DIR", [.char 'y'])] ∧
    known [("A", "x".toUTF8), ("PROBE_OUTPUT_DIR", ⟨#[0xff]⟩)]
      [("PROBE_OUTPUT_DIR", [.reference "A"]), ("PROBE_OUTPUT_DIR", [.char 'y'])] "PROBE_OUTPUT_DIR" = some "x" ∧
    ofEnvironment [("A", "x".toUTF8), ("PROBE_OUTPUT_DIR", ⟨#[0xff]⟩)]
      (some "PROBE_OUTPUT_DIR=$A\nPROBE_OUTPUT_DIR=y\n!") =
    ofEnvironment [("A", "x".toUTF8), ("PROBE_OUTPUT_DIR", ⟨#[0xff]⟩)]
      (some "PROBE_OUTPUT_DIR=$A\nPROBE_OUTPUT_DIR=y\n!\nROSETTA_API_URL=z") := by
  have split : lines "PROBE_OUTPUT_DIR=$A\nPROBE_OUTPUT_DIR=y\n!".toList =
      ["PROBE_OUTPUT_DIR=$A".toList, "PROBE_OUTPUT_DIR=y".toList] ++ "!".toList :: [] := by decide +kernel
  have longer : lines "PROBE_OUTPUT_DIR=$A\nPROBE_OUTPUT_DIR=y\n!\nROSETTA_API_URL=z".toList =
      ["PROBE_OUTPUT_DIR=$A".toList, "PROBE_OUTPUT_DIR=y".toList] ++ "!".toList :: ["ROSETTA_API_URL=z".toList] := by
    decide +kernel
  have bad : Form.Of "!".toList .malformed := ⟨fun _ => rfl, nofun⟩
  have written : Written (lines "PROBE_OUTPUT_DIR=$A\nPROBE_OUTPUT_DIR=y\n!".toList)
      [("PROBE_OUTPUT_DIR", [.reference "A"]), ("PROBE_OUTPUT_DIR", [.char 'y'])] := by
    rw [split]
    refine .binding (lone_reference_form "PROBE_OUTPUT_DIR" "A" (fun _ => rfl) ?_)
      (.binding ⟨fun _ => rfl, by simp⟩ (.malformed bad))
    exact .plain "PROBE_OUTPUT_DIR=".toList [] (by decide +kernel) (by decide +kernel) rfl
  have settled := settings_precedence [("A", "x".toUTF8), ("PROBE_OUTPUT_DIR", ⟨#[0xff]⟩)]
    "PROBE_OUTPUT_DIR=$A\nPROBE_OUTPUT_DIR=y\n!"
  refine ⟨written, ?_, ?_⟩
  · have first := settled.first [] "PROBE_OUTPUT_DIR" [.reference "A"] [("PROBE_OUTPUT_DIR", [.char 'y'])]
      (by decide +kernel) List.not_mem_nil
    exact first.trans (by decide +kernel)
  · exact settled.stopped _ _ _ _ _ split longer bad

end NodeProbe.Settings
