import NodeProbe.Proofs.Settings.Numeral
import Mathlib.Data.List.DropRight

set_option autoImplicit false

namespace NodeProbe.Settings

def slashes (count : Nat) : String := String.ofList (List.replicate count '/')

structure Bare (url base : String) : Prop where
  lost : ∃ count, url = base ++ slashes count
  last : base.toList.getLast? ≠ some '/'
  longest : ∀ other : String, other.toList <+: url.toList → other.toList.getLast? ≠ some '/' →
    other.toList <+: base.toList

theorem trim_to_list (url : String) : (trimSlashes url).toList = url.toList.rdropWhile (· = '/') := by
  simp [trimSlashes, List.rdropWhile]

theorem trim_again (url : String) : trimSlashes (trimSlashes url) = trimSlashes url := by
  apply String.toList_inj.mp
  simp only [trim_to_list, List.rdropWhile_idempotent]

theorem trim_slashes (url : String) (count : Nat) : trimSlashes (url ++ slashes count) = trimSlashes url := by
  simp [trimSlashes, slashes]

theorem trim_last (url : String) : (trimSlashes url).toList.getLast? ≠ some '/' := by
  intro ends
  rw [trim_to_list] at ends
  obtain ⟨present, same⟩ := List.mem_getLast?_eq_getLast ends
  exact List.rdropWhile_last_not _ _ present (decide_eq_true same.symm)

theorem trim_split (url : String) : ∃ count, url = trimSlashes url ++ slashes count := by
  have tail : ∀ c ∈ url.toList.rtakeWhile (· = '/'), c = '/' := by
    intro c within
    simpa using List.mem_rtakeWhile_imp within
  refine ⟨(url.toList.rtakeWhile (· = '/')).length, ?_⟩
  apply String.toList_inj.mp
  rw [String.toList_append, trim_to_list, slashes, String.toList_ofList, ← List.eq_replicate_of_mem tail,
    List.rdropWhile_append_rtakeWhile]

-- What stands behind the trimmed address is all slashes, so a longer start ends in one.
theorem trim_longest (url other : String) (starts : other.toList <+: url.toList)
    (solid : other.toList.getLast? ≠ some '/') : other.toList <+: (trimSlashes url).toList := by
  obtain ⟨count, split⟩ := trim_split url
  have whole : url.toList = (trimSlashes url).toList ++ List.replicate count '/' := by
    simpa [slashes] using congrArg String.toList split
  rcases List.prefix_or_prefix_of_prefix starts ⟨_, whole.symm⟩ with shorter | ⟨behind, longer⟩
  · exact shorter
  · rw [whole, ← longer, List.prefix_append_right_inj, List.prefix_replicate_iff] at starts
    by_cases none : behind.length = 0
    · have same : (trimSlashes url).toList = other.toList := by
        rw [← longer, List.length_eq_zero_iff.mp none, List.append_nil]
      exact ⟨[], by rw [List.append_nil, same]⟩
    · rw [← longer, starts.2] at solid
      simp [List.getLast?_replicate, none] at solid

theorem trim_bare (url : String) : Bare url (trimSlashes url) := ⟨trim_split url, trim_last url, trim_longest url⟩

theorem trim_bare_same {base : String} (bare : base.toList.getLast? ≠ some '/') : trimSlashes base = base := by
  apply String.toList_inj.mp
  rw [trim_to_list, List.rdropWhile_eq_self_iff]
  intro present last
  rw [decide_eq_true_iff] at last
  exact bare (List.getLast?_eq_some_getLast present ▸ congrArg some last)

-- The number that the text of a variable spells, or the standard one if the variable is unset.
def Chosen (lookup : String → Option String) (name : String) (standard result : UInt64) : Prop :=
  match lookup name with
  | none => result = standard
  | some raw => Numeral.Spells raw result.toNat

-- The fault of a variable whose text spells no number.
structure Refuses (lookup : String → Option String) (name : String) (fault : SettingsFault) : Prop where
  named : fault.name = name
  raw : lookup name = some fault.raw
  cause : Numeral.Refused fault.raw fault.cause
  told : fault.chain = [name ++ " is not a number: " ++ fault.raw, fault.cause.message]

theorem number_ok_iff (lookup : String → Option String) (name : String) (standard result : UInt64) :
    number lookup name standard = .ok result ↔ Chosen lookup name standard result := by
  rw [number, Chosen]
  cases lookup name with
  | none => exact ⟨fun same => (Except.ok.inj same).symm, fun same => congrArg Except.ok same.symm⟩
  | some raw =>
    dsimp only
    rw [← Numeral.parse_ok_iff]
    cases Numeral.parse raw with
    | ok word => exact ⟨fun same => congrArg Except.ok (Except.ok.inj same), fun same => congrArg Except.ok (Except.ok.inj same)⟩
    | error cause => exact ⟨nofun, nofun⟩

theorem number_error_iff (lookup : String → Option String) (name : String) (standard : UInt64) (fault : SettingsFault) :
    number lookup name standard = .error fault ↔ Refuses lookup name fault := by
  rw [number]
  cases set : lookup name with
  | none => exact ⟨nofun, fun refuses => by cases set.symm.trans refuses.raw⟩
  | some raw =>
    dsimp only
    constructor
    · intro failed
      cases parsed : Numeral.parse raw with
      | ok word =>
        rw [parsed] at failed
        cases failed
      | error cause =>
        rw [parsed] at failed
        cases failed
        exact ⟨rfl, set, (Numeral.parse_error_iff raw cause).mp parsed, rfl⟩
    · rintro ⟨rfl, same, cause, _⟩
      obtain rfl := Option.some.inj (set.symm.trans same)
      rw [(Numeral.parse_error_iff _ _).mpr cause]

def Readable (lookup : String → Option String) (name : String) : Prop :=
  ∀ raw, lookup name = some raw → ∃ value, Numeral.Spells raw value

theorem unset_readable {lookup : String → Option String} {name : String} (unset : lookup name = none) :
    Readable lookup name := by
  intro raw set
  cases unset.symm.trans set

theorem number_readable (lookup : String → Option String) (name : String) (standard : UInt64) :
    (∃ result, number lookup name standard = .ok result) ↔ Readable lookup name := by
  simp only [number_ok_iff, Chosen, Readable]
  cases lookup name with
  | none => exact ⟨fun _ => nofun, fun _ => ⟨standard, rfl⟩⟩
  | some raw =>
    constructor
    · rintro ⟨result, spells⟩ own same
      cases same
      exact ⟨_, spells⟩
    · intro readable
      obtain ⟨value, spells⟩ := readable raw rfl
      have ⟨_, _, _, _, _, _, fits⟩ := spells
      refine ⟨UInt64.ofNat value, ?_⟩
      rw [UInt64.toNat_ofNat_of_lt' fits]
      exact spells

def filled (lookup : String → Option String) (timeoutSecs requestCount : UInt64) : Settings where
  apiUrl := ((lookup "ROSETTA_API_URL").map trimSlashes).getD standard.apiUrl
  network := {
    blockchain := (lookup "ROSETTA_BLOCKCHAIN").getD standard.network.blockchain
    network := (lookup "ROSETTA_NETWORK").getD standard.network.network }
  timeoutSecs := timeoutSecs
  requestCount := requestCount
  outputDir := (lookup "PROBE_OUTPUT_DIR").getD standard.outputDir

theorem filled_url {lookup : String → Option String} {url : String} (set : lookup "ROSETTA_API_URL" = some url)
    (timeoutSecs requestCount : UInt64) : (filled lookup timeoutSecs requestCount).apiUrl = trimSlashes url := by
  rw [filled, set, Option.map_some, Option.getD_some]

theorem of_lookup_ok_iff (lookup : String → Option String) (settings : Settings) :
    ofLookup lookup = .ok settings ↔ ∃ timeoutSecs requestCount,
      number lookup "PROBE_TIMEOUT_SECS" 30 = .ok timeoutSecs ∧ number lookup "PROBE_REQUESTS" 1500 = .ok requestCount ∧
      filled lookup timeoutSecs requestCount = settings := by
  constructor
  · intro valid
    cases timeout : number lookup "PROBE_TIMEOUT_SECS" 30 with
    | error fault =>
      rw [ofLookup, standard, timeout] at valid
      cases valid
    | ok timeoutSecs =>
      cases count : number lookup "PROBE_REQUESTS" 1500 with
      | error fault =>
        rw [ofLookup, standard, timeout, count] at valid
        cases valid
      | ok requestCount =>
        rw [ofLookup, standard, timeout, count] at valid
        exact ⟨timeoutSecs, requestCount, rfl, rfl, Except.ok.inj valid⟩
  · rintro ⟨timeoutSecs, requestCount, timeout, count, rfl⟩
    rw [ofLookup, standard, timeout, count]
    rfl

/-- The settings that variables choose, and the standard ones where a variable is unset. -/
structure Configured (lookup : String → Option String) (settings : Settings) : Prop where
  apiUrl : ∀ url, lookup "ROSETTA_API_URL" = some url → Bare url settings.apiUrl
  standardUrl : lookup "ROSETTA_API_URL" = none → settings.apiUrl = "http://localhost:8080"
  blockchain : settings.network.blockchain = (lookup "ROSETTA_BLOCKCHAIN").getD "mochimo"
  network : settings.network.network = (lookup "ROSETTA_NETWORK").getD "mainnet"
  timeoutSecs : Chosen lookup "PROBE_TIMEOUT_SECS" 30 settings.timeoutSecs
  requestCount : Chosen lookup "PROBE_REQUESTS" 1500 settings.requestCount
  outputDir : settings.outputDir = (lookup "PROBE_OUTPUT_DIR").getD "."

theorem of_lookup_configured {lookup : String → Option String} {settings : Settings}
    (valid : ofLookup lookup = .ok settings) : Configured lookup settings := by
  obtain ⟨timeoutSecs, requestCount, timeout, count, rfl⟩ := (of_lookup_ok_iff lookup settings).mp valid
  refine ⟨?_, ?_, rfl, rfl, (number_ok_iff _ _ _ _).mp timeout, (number_ok_iff _ _ _ _).mp count, rfl⟩
  · intro url set
    rw [filled_url set]
    exact trim_bare url
  · intro unset
    rw [filled, unset]
    rfl

theorem configured_bare {lookup : String → Option String} {settings : Settings} (configured : Configured lookup settings) :
    trimSlashes settings.apiUrl = settings.apiUrl := by
  cases set : lookup "ROSETTA_API_URL" with
  | some url => exact trim_bare_same (configured.apiUrl url set).last
  | none =>
    rw [configured.standardUrl set]
    exact trim_bare_same (by decide +kernel)

/-- The path of a file in a directory. -/
inductive Within (directory file : String) : String → Prop
  | bare : directory = "" → Within directory file file
  | closed : directory.toList.getLast? = some '/' → Within directory file (directory ++ file)
  | plain : directory ≠ "" → directory.toList.getLast? ≠ some '/' → Within directory file (directory ++ "/" ++ file)

theorem within_closed {directory file path : String} (closed : directory.toList.getLast? = some '/')
    (within : Within directory file path) : path = directory ++ file := by
  cases within with
  | bare empty =>
    rw [empty] at closed
    cases closed
  | closed _ => rfl
  | plain _ solid => exact absurd closed solid

theorem output_path_within (settings : Settings) {file : String} (relative : file.toList.head? ≠ some '/') :
    Within settings.outputDir file (settings.outputPath file) := by
  rw [outputPath, Path.join]
  by_cases bare : settings.outputDir = ""
  · rw [if_pos (.inr bare)]
    exact .bare bare
  · rw [if_neg (not_or.mpr ⟨relative, bare⟩)]
    by_cases closed : settings.outputDir.toList.getLast? = some '/'
    · rw [if_pos closed]
      exact .closed closed
    · rw [if_neg closed]
      exact .plain bare closed

theorem of_lookup_readable {lookup : String → Option String} (timeoutReadable : Readable lookup "PROBE_TIMEOUT_SECS")
    (countReadable : Readable lookup "PROBE_REQUESTS") :
    ∃ timeoutSecs requestCount, ofLookup lookup = .ok (filled lookup timeoutSecs requestCount) := by
  obtain ⟨timeoutSecs, timeout⟩ := (number_readable lookup _ 30).mpr timeoutReadable
  obtain ⟨requestCount, count⟩ := (number_readable lookup _ 1500).mpr countReadable
  exact ⟨timeoutSecs, requestCount, (of_lookup_ok_iff lookup _).mpr ⟨_, _, timeout, count, rfl⟩⟩

theorem of_lookup_ok_readable (lookup : String → Option String) :
    (∃ settings, ofLookup lookup = .ok settings) ↔
      Readable lookup "PROBE_TIMEOUT_SECS" ∧ Readable lookup "PROBE_REQUESTS" := by
  constructor
  · rintro ⟨settings, valid⟩
    obtain ⟨timeoutSecs, requestCount, timeout, count, _⟩ := (of_lookup_ok_iff lookup settings).mp valid
    exact ⟨(number_readable lookup _ 30).mp ⟨_, timeout⟩, (number_readable lookup _ 1500).mp ⟨_, count⟩⟩
  · rintro ⟨timeoutReadable, countReadable⟩
    obtain ⟨timeoutSecs, requestCount, valid⟩ := of_lookup_readable timeoutReadable countReadable
    exact ⟨_, valid⟩

theorem of_lookup_error_iff (lookup : String → Option String) (fault : SettingsFault) :
    ofLookup lookup = .error fault ↔ number lookup "PROBE_TIMEOUT_SECS" 30 = .error fault ∨
      (∃ timeoutSecs, number lookup "PROBE_TIMEOUT_SECS" 30 = .ok timeoutSecs) ∧
        number lookup "PROBE_REQUESTS" 1500 = .error fault := by
  rw [ofLookup, standard]
  cases number lookup "PROBE_TIMEOUT_SECS" 30 with
  | error own =>
    constructor
    · intro failed
      cases failed
      exact .inl rfl
    · rintro (failed | ⟨⟨_, timeout⟩, _⟩)
      · cases failed
        rfl
      · cases timeout
  | ok timeoutSecs =>
    cases number lookup "PROBE_REQUESTS" 1500 with
    | error own =>
      constructor
      · intro failed
        cases failed
        exact .inr ⟨⟨timeoutSecs, rfl⟩, rfl⟩
      · rintro (failed | ⟨_, failed⟩)
        · cases failed
        · cases failed
          rfl
    | ok requestCount =>
      constructor
      · exact nofun
      · rintro (failed | ⟨_, failed⟩) <;> cases failed

structure Agree (lookup other : String → Option String) (settings others : Settings) : Prop where
  apiUrl : lookup "ROSETTA_API_URL" = other "ROSETTA_API_URL" → settings.apiUrl = others.apiUrl
  blockchain : lookup "ROSETTA_BLOCKCHAIN" = other "ROSETTA_BLOCKCHAIN" →
    settings.network.blockchain = others.network.blockchain
  network : lookup "ROSETTA_NETWORK" = other "ROSETTA_NETWORK" → settings.network.network = others.network.network
  timeoutSecs : lookup "PROBE_TIMEOUT_SECS" = other "PROBE_TIMEOUT_SECS" → settings.timeoutSecs = others.timeoutSecs
  requestCount : lookup "PROBE_REQUESTS" = other "PROBE_REQUESTS" → settings.requestCount = others.requestCount
  outputDir : lookup "PROBE_OUTPUT_DIR" = other "PROBE_OUTPUT_DIR" → settings.outputDir = others.outputDir

theorem number_once {lookup other : String → Option String} {name : String} {standard result others : UInt64}
    (read : number lookup name standard = .ok result) (readOther : number other name standard = .ok others)
    (same : lookup name = other name) : result = others := by
  rw [number, same, ← number, readOther] at read
  exact (Except.ok.inj read).symm

theorem of_lookup_agree {lookup other : String → Option String} {settings others : Settings}
    (valid : ofLookup lookup = .ok settings) (validOther : ofLookup other = .ok others) :
    Agree lookup other settings others := by
  obtain ⟨_, _, timeout, count, rfl⟩ := (of_lookup_ok_iff lookup settings).mp valid
  obtain ⟨_, _, timeoutOther, countOther, rfl⟩ := (of_lookup_ok_iff other others).mp validOther
  refine ⟨?_, ?_, ?_, number_once timeout timeoutOther, number_once count countOther, ?_⟩
  all_goals
    intro same
    simp only [filled, same]

/-- Settings are valid just if both numbers can be read, and the first that cannot is named. -/
theorem numeric_settings (lookup : String → Option String) :
    ((∃ settings, ofLookup lookup = .ok settings) ↔
      Readable lookup "PROBE_TIMEOUT_SECS" ∧ Readable lookup "PROBE_REQUESTS") ∧
    (∀ settings, ofLookup lookup = .ok settings →
      Chosen lookup "PROBE_TIMEOUT_SECS" 30 settings.timeoutSecs ∧
      Chosen lookup "PROBE_REQUESTS" 1500 settings.requestCount ∧
      ∀ other others, ofLookup other = .ok others → Agree lookup other settings others) ∧
    ∀ fault, ofLookup lookup = .error fault ↔
      Refuses lookup "PROBE_TIMEOUT_SECS" fault ∨
      Readable lookup "PROBE_TIMEOUT_SECS" ∧ Refuses lookup "PROBE_REQUESTS" fault := by
  refine ⟨of_lookup_ok_readable lookup, ?_, ?_⟩
  · intro settings valid
    obtain ⟨_, _, timeout, count, rfl⟩ := (of_lookup_ok_iff lookup settings).mp valid
    exact ⟨(number_ok_iff _ _ _ _).mp timeout, (number_ok_iff _ _ _ _).mp count,
      fun other others validOther => of_lookup_agree valid validOther⟩
  · intro fault
    rw [of_lookup_error_iff, number_error_iff, number_error_iff, number_readable]

-- Zeros count for nothing, and the value is the greatest that fits.
theorem padded_timeout_chosen :
    let lookup : String → Option String :=
      fun name => if name = "PROBE_TIMEOUT_SECS" then some "+0018446744073709551615" else none
    let settings : Settings := { standard with timeoutSecs := 18446744073709551615 }
    ofLookup lookup = .ok settings ∧ Chosen lookup "PROBE_TIMEOUT_SECS" 30 settings.timeoutSecs ∧
      Chosen lookup "PROBE_REQUESTS" 1500 settings.requestCount ∧ ofLookup (fun _ => none) = .ok standard ∧
      Agree lookup (fun _ => none) settings standard := by
  intro lookup settings
  have valid : ofLookup lookup = .ok settings := by decide +kernel
  have none : ofLookup (fun _ => Option.none) = .ok standard := rfl
  have chosen := (numeric_settings lookup).2.1 settings valid
  exact ⟨valid, chosen.1, chosen.2.1, none, chosen.2.2 _ standard none⟩

end NodeProbe.Settings
