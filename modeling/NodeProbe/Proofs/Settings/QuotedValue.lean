import NodeProbe.Proofs.Settings.Lookup
import NodeProbe.Proofs.Settings.Precedence
import NodeProbe.Proofs.Settings.Quotation

set_option autoImplicit false

namespace NodeProbe.Dotenv

def unlines (lines : List (List Char)) : String := String.ofList (['\n'].intercalate lines)

-- A good line that does not bind the name.
def PassesBy (name : String) (line : List Char) : Prop :=
  Form.Of line .blank ∨ ∃ other pieces, Form.Of line (.binding other pieces) ∧ other ≠ name

theorem lines_unlines {all : List (List Char)} (present : all ≠ []) (unbroken : ∀ line ∈ all, '\n' ∉ line) :
    lines (unlines all).toList = all := by
  rw [lines, unlines, String.toList_ofList, List.splitOn_intercalate '\n' unbroken present]

theorem written_behind {name : String} {pieces : List Piece} {before after : List (List Char)} {line : List Char}
    (passed : ∀ other ∈ before, PassesBy name other) (form : Form.Of line (.binding name pieces)) :
    ∃ earlier later, Written (before ++ line :: after) (earlier ++ (name, pieces) :: later) ∧
      name ∉ earlier.map (·.1) := by
  induction before with
  | nil =>
    obtain ⟨later, written⟩ := written_exist after
    exact ⟨[], later, .binding form written, List.not_mem_nil⟩
  | cons first rest ih =>
    obtain ⟨passes, others⟩ := List.forall_mem_cons.mp passed
    obtain ⟨earlier, later, written, absent⟩ := ih others
    rcases passes with blank | ⟨other, own, bound, different⟩
    · exact ⟨earlier, later, .blank blank written, absent⟩
    · refine ⟨(other, own) :: earlier, later, .binding bound written, ?_⟩
      simp [Ne.symm different, absent]

theorem quoted_loaded {environment : Environment} {name value : String} {before after : List (List Char)}
    {line : List Char} (named : IsName name.toList) (unset : environment.get? name = none)
    (unbroken : ∀ other ∈ before ++ after, '\n' ∉ other) (passed : ∀ other ∈ before, PassesBy name other)
    (written : QuotedLine name value line) :
    (load environment (unlines (before ++ line :: after))).get? name = some value := by
  obtain ⟨earlier, later, all, absent⟩ :=
    @written_behind name _ before after line passed (quoted_line_form named written)
  have whole : ∀ other ∈ before ++ line :: after, '\n' ∉ other := by
    intro other within
    rcases List.mem_append.mp within with early | late
    · exact unbroken other (List.mem_append_left _ early)
    rcases List.mem_cons.mp late with rfl | behind
    · exact quoted_line_unbroken named written
    · exact unbroken other (List.mem_append_right _ behind)
  rw [← lines_unlines (by simp) whole] at all
  rw [load_assign _ all, known_first earlier later name _ unset absent, fill_chars, String.ofList_toList]

end NodeProbe.Dotenv

namespace NodeProbe.Settings

open Dotenv

inductive TextSetting
  | apiUrl
  | blockchain
  | network
  | outputDir

def TextSetting.name : TextSetting → String
  | .apiUrl => "ROSETTA_API_URL"
  | .blockchain => "ROSETTA_BLOCKCHAIN"
  | .network => "ROSETTA_NETWORK"
  | .outputDir => "PROBE_OUTPUT_DIR"

-- Settings in which one has this text. An address goes without the slashes at its end.
def TextSetting.Has (settings : Settings) (value : String) : TextSetting → Prop
  | .apiUrl => Bare value settings.apiUrl
  | .blockchain => settings.network.blockchain = value
  | .network => settings.network.network = value
  | .outputDir => settings.outputDir = value

theorem setting_name (setting : TextSetting) : IsName setting.name.toList := by
  cases setting <;> exact ⟨by decide +kernel, by decide +kernel⟩

theorem filled_has {lookup : String → Option String} {value : String} (setting : TextSetting)
    (set : lookup setting.name = some value) (timeoutSecs requestCount : UInt64) :
    setting.Has (filled lookup timeoutSecs requestCount) value := by
  cases setting with
  | apiUrl =>
    rw [TextSetting.Has, filled_url set]
    exact trim_bare value
  | blockchain => simp [TextSetting.Has, filled, show lookup "ROSETTA_BLOCKCHAIN" = some value from set]
  | network => simp [TextSetting.Has, filled, show lookup "ROSETTA_NETWORK" = some value from set]
  | outputDir => simp [TextSetting.Has, filled, show lookup "PROBE_OUTPUT_DIR" = some value from set]

/-- A value in quotes is read as the text that was quoted. -/
theorem quoted_value_read (environment : Environment) (setting : TextSetting) (value : String)
    (before after : List (List Char)) (line : List Char) (unset : environment.get? setting.name = none)
    (unbroken : ∀ other ∈ before ++ after, '\n' ∉ other) (passed : ∀ other ∈ before, PassesBy setting.name other)
    (written : QuotedLine setting.name value line)
    (timeoutReadable : Readable (load environment (unlines (before ++ line :: after))).get? "PROBE_TIMEOUT_SECS")
    (countReadable : Readable (load environment (unlines (before ++ line :: after))).get? "PROBE_REQUESTS") :
    ∃ settings, ofEnvironment environment (some (unlines (before ++ line :: after))) = .ok settings ∧
      setting.Has settings value := by
  have set := quoted_loaded (setting_name setting) unset unbroken passed written
  obtain ⟨timeoutSecs, requestCount, valid⟩ := of_lookup_readable timeoutReadable countReadable
  exact ⟨_, valid, filled_has setting set timeoutSecs requestCount⟩

-- Quotes of both kinds, a dollar sign, a backslash and a line break; the line behind comes too late.
theorem quoted_directory_read :
    let line := "export PROBE_OUTPUT_DIR = \"it's \\\"\\$A\\\"\\\\\\n\" # new".toList
    let content := unlines (["ROSETTA_NETWORK=$A".toList] ++ line :: ["PROBE_OUTPUT_DIR=y".toList])
    QuotedLine "PROBE_OUTPUT_DIR" "it's \"$A\"\\\n" line ∧
      ∃ settings, ofEnvironment [("A", "x".toUTF8)] (some content) = .ok settings ∧
        settings.outputDir = "it's \"$A\"\\\n" := by
  intro line content
  have written : QuotedLine "PROBE_OUTPUT_DIR" "it's \"$A\"\\\n" line := by
    have split : line = [] ++ (("export".toList ++ [' ']) ++ ("PROBE_OUTPUT_DIR".toList ++ ([' '] ++ '=' :: ([' '] ++
        (('"' :: guardText "it's \"$A\"\\\n".toList ++ ['"']) ++ ([' '] ++ '#' :: " new".toList)))))) := by
      decide +kernel
    have blank : Spacing [' '] := by simpa [Spacing] using (by decide : isBlank ' ' = true)
    rw [split]
    exact .of nofun (.exported (List.cons_ne_nil _ _) blank) blank blank .double
      (.comment (List.cons_ne_nil _ _) (List.forall_mem_singleton.mpr (.inl rfl)) (by decide +kernel))
  have passes : PassesBy "PROBE_OUTPUT_DIR" "ROSETTA_NETWORK=$A".toList := by
    refine .inr ⟨"ROSETTA_NETWORK", [.reference "A"], lone_reference_form _ _ (fun _ => rfl) ?_, by decide⟩
    exact .plain "ROSETTA_NETWORK=".toList [] (by decide +kernel) (by decide +kernel) rfl
  have readable : ∀ name, (load [("A", "x".toUTF8)] content).get? name = none →
      Readable (load [("A", "x".toUTF8)] content).get? name := by
    intro name unset raw set
    rw [unset] at set
    cases set
  exact ⟨written, quoted_value_read _ .outputDir _ ["ROSETTA_NETWORK=$A".toList] ["PROBE_OUTPUT_DIR=y".toList] line rfl
    (by decide +kernel) (List.forall_mem_singleton.mpr passes) written
    (readable _ (by decide +kernel)) (readable _ (by decide +kernel))⟩

end NodeProbe.Settings
