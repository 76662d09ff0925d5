import NodeProbe.Settings.Dotenv
import Mathlib.Data.List.Infix

set_option autoImplicit false

namespace NodeProbe.Dotenv

inductive Piece
  | char (c : Char)
  | reference (name : String)

def Piece.fill (lookup : String → Option String) : Piece → List Char
  | .char c => [c]
  | .reference name => ((lookup name).getD "").toList

def fill (lookup : String → Option String) (pieces : List Piece) : List Char := pieces.flatMap (Piece.fill lookup)

theorem fill_append (lookup : String → Option String) (first second : List Piece) :
    fill lookup (first ++ second) = fill lookup first ++ fill lookup second := List.flatMap_append

theorem fill_reference (lookup : String → Option String) (name : String) :
    fill lookup [.reference name] = ((lookup name).getD "").toList := List.flatMap_singleton _ _

theorem fill_chars (lookup : String → Option String) (text : List Char) : fill lookup (text.map .char) = text := by
  induction text with
  | nil => rfl
  | cons c rest ih => exact congrArg (c :: ·) ih

-- A reference as it stands in a text: the letters and digits behind a dollar sign, or a name in braces.
inductive Mentions (text : List Char) (name : String) : Prop
  | plain (before after : List Char) : text = before ++ '$' :: name.toList ++ after →
      name.toList.all isAlphanumeric = true → after.head?.all (fun c => !isAlphanumeric c) = true → Mentions text name
  | braced (before after : List Char) : text = before ++ '$' :: '\x7b' :: name.toList ++ '\x7d' :: after →
      '\x7d' ∉ name.toList → Mentions text name

-- The scan of a value with its references not yet filled in.
structure Outline where
  mode : Mode
  quoted : Bool
  pieces : List Piece

namespace Outline

def scan (lookup : String → Option String) (outline : Outline) : Scan :=
  ⟨outline.mode, outline.quoted, (fill lookup outline.pieces).reverse⟩

def Reading (read : List Char) : Mode → Prop
  | .reference name => name.all isAlphanumeric = true ∧ ∃ before, read = before ++ '$' :: name.reverse
  | .braced name => '\x7d' ∉ name ∧ ∃ before, read = before ++ '$' :: '\x7b' :: name.reverse
  | _ => True

structure Follows (read : List Char) (outline : Outline) : Prop where
  mentioned : ∀ name, .reference name ∈ outline.pieces → ∀ rest, Mentions (read ++ rest) name
  reading : Reading read outline.mode

variable {read text : List Char} {c : Char} {mode : Mode} {quoted : Bool} {pieces : List Piece}

theorem mentioned_later (follows : Follows read ⟨mode, quoted, pieces⟩) (name : String)
    (known : .reference name ∈ pieces) (rest : List Char) : Mentions (read ++ [c] ++ rest) name := by
  rw [List.append_assoc]
  exact follows.mentioned name known (c :: rest)

theorem plain_mention (name : List Char) (reading : Reading read (.reference name)) (ends : isAlphanumeric c = false)
    (rest : List Char) : Mentions (read ++ [c] ++ rest) (String.ofList name.reverse) := by
  obtain ⟨letters, before, rfl⟩ := reading
  refine .plain before (c :: rest) ?_ ?_ ?_
  · simp
  · simpa using letters
  · simp [ends]

theorem braced_mention (name : List Char) (reading : Reading read (.braced name)) (rest : List Char) :
    Mentions (read ++ ['\x7d'] ++ rest) (String.ofList name.reverse) := by
  obtain ⟨inside, before, rfl⟩ := reading
  refine .braced before rest ?_ ?_
  · simp
  · simpa using inside

-- A scan of a text that is the same but for what the references stand for.
def Turns (text : List Char) (scans : (String → Option String) → Scan) : Prop :=
  ∃ next : Outline, (∀ lookup, scans lookup = next.scan lookup) ∧ next.Follows text

-- What decides the condition may look at the scan, which the references are filled into.
theorem turns_ite {condition : Prop} {decides : (String → Option String) → Decidable condition}
    {first second : (String → Option String) → Scan}
    (holds : condition → Turns text first) (fails : ¬ condition → Turns text second) :
    Turns text fun lookup => @ite _ condition (decides lookup) (first lookup) (second lookup) := by
  by_cases held : condition
  · simpa only [if_pos held] using holds held
  · simpa only [if_neg held] using fails held

theorem turns_add (follows : Follows read ⟨mode, quoted, pieces⟩) (next : Mode) (within : Bool) (added : List Piece)
    (reading : Reading (read ++ [c]) next)
    (here : ∀ name, .reference name ∈ added → ∀ rest, Mentions (read ++ [c] ++ rest) name) :
    Turns (read ++ [c]) fun lookup => ⟨next, within, (fill lookup added).reverse ++ (fill lookup pieces).reverse⟩ := by
  refine ⟨⟨next, within, pieces ++ added⟩, ?_, ?_, reading⟩
  · intro lookup
    rw [scan, fill_append, List.reverse_append]
  · intro name known rest
    rcases List.mem_append.mp known with earlier | new
    · exact mentioned_later follows name earlier rest
    · exact here name new rest

theorem turns_mode (follows : Follows read ⟨mode, quoted, pieces⟩) (next : Mode) (within : Bool)
    (reading : Reading (read ++ [c]) next) :
    Turns (read ++ [c]) fun lookup => ⟨next, within, (fill lookup pieces).reverse⟩ :=
  turns_add follows next within [] reading nofun

theorem turns_push (follows : Follows read ⟨mode, quoted, pieces⟩) (next : Mode) (pushed : Char)
    (reading : Reading (read ++ [c]) next) :
    Turns (read ++ [c]) fun lookup => ⟨next, quoted, pushed :: (fill lookup pieces).reverse⟩ :=
  turns_add follows next quoted [.char pushed] reading (by simp)

theorem turns_reference (follows : Follows read ⟨mode, quoted, pieces⟩) (next : Mode) (name pushed : List Char)
    (reading : Reading (read ++ [c]) next)
    (here : ∀ rest, Mentions (read ++ [c] ++ rest) (String.ofList name.reverse)) :
    Turns (read ++ [c]) fun lookup => ⟨next, quoted, pushed.reverse ++
      (((lookup (String.ofList name.reverse)).getD "").toList.reverse ++ (fill lookup pieces).reverse)⟩ := by
  have turned := turns_add follows next quoted ([.reference (String.ofList name.reverse)] ++ pushed.map .char) reading
    (by simpa using here)
  simpa only [fill_append, fill_reference, fill_chars, List.reverse_append, List.append_assoc] using turned

theorem plain_turns (follows : Follows read ⟨.plain, quoted, pieces⟩) :
    Turns (read ++ [c]) fun lookup => (scan lookup ⟨.plain, quoted, pieces⟩).stepPlain c := by
  simp only [Scan.stepPlain, scan, Scan.push]
  apply turns_ite
  · intro dollar
    exact turns_mode follows _ _ ⟨rfl, read, by rw [dollar, List.reverse_nil]⟩
  intro _
  apply turns_ite
  · exact fun _ => turns_mode follows .escaped _ trivial
  intro _
  apply turns_ite
  · exact fun _ => turns_mode follows .plain _ trivial
  intro _
  apply turns_ite
  · exact fun _ => turns_push follows .plain c trivial
  intro _
  apply turns_ite
  · exact fun _ => turns_mode follows .literal _ trivial
  intro _
  apply turns_ite
  · exact fun _ => turns_mode follows .ended _ trivial
  · exact fun _ => turns_push follows .plain c trivial

-- The same for a scan that can fail; whether it does is settled without the references.
def Steps (text : List Char) (scans : (String → Option String) → Option Scan) : Prop :=
  ∃ next : Option Outline, (∀ lookup, scans lookup = next.map (scan lookup)) ∧
    ∀ outline, next = some outline → outline.Follows text

theorem steps_none : Steps text fun _ => none := ⟨none, fun _ => rfl, nofun⟩

theorem steps_some {scans : (String → Option String) → Scan} (turns : Turns text scans) :
    Steps text fun lookup => some (scans lookup) := by
  obtain ⟨next, same, follows⟩ := turns
  refine ⟨some next, fun lookup => congrArg some (same lookup), ?_⟩
  rintro outline ⟨⟩
  exact follows

theorem steps_ite {condition : Prop} [Decidable condition] {first second : (String → Option String) → Option Scan}
    (holds : condition → Steps text first) (fails : ¬ condition → Steps text second) :
    Steps text fun lookup => if condition then first lookup else second lookup := by
  by_cases held : condition
  · simpa only [if_pos held] using holds held
  · simpa only [if_neg held] using fails held

theorem reference_steps (name : List Char) (follows : Follows read ⟨.reference name, quoted, pieces⟩) :
    Steps (read ++ [c]) fun lookup => (scan lookup ⟨.reference name, quoted, pieces⟩).step lookup c := by
  obtain ⟨letters, before, same⟩ := follows.reading
  simp only [Scan.step, scan]
  apply steps_ite
  · intro belongs
    refine steps_some (turns_mode follows _ _ ⟨?_, before, ?_⟩)
    · rw [List.all_cons, belongs, letters, Bool.true_and]
    · rw [same, List.reverse_cons, List.append_assoc, List.cons_append]
  intro other
  have ends : isAlphanumeric c = false := Bool.eq_false_iff.mpr other
  have mentioned := plain_mention name follows.reading ends
  apply steps_ite
  · intro ⟨opened, empty⟩
    subst opened empty
    refine steps_some (turns_mode follows _ _ ⟨List.not_mem_nil, before, ?_⟩)
    rw [same, List.append_assoc]
    rfl
  intro _
  apply steps_ite
  · intro dollar
    exact steps_some (turns_reference follows _ name [] ⟨rfl, read, by rw [dollar, List.reverse_nil]⟩ mentioned)
  · exact fun _ => steps_some (turns_reference follows .plain name [c] trivial mentioned)

theorem braced_steps (name : List Char) (follows : Follows read ⟨.braced name, quoted, pieces⟩) :
    Steps (read ++ [c]) fun lookup => (scan lookup ⟨.braced name, quoted, pieces⟩).step lookup c := by
  obtain ⟨inside, before, same⟩ := follows.reading
  simp only [Scan.step, scan]
  apply steps_ite
  · intro closed
    subst closed
    exact steps_some (turns_reference follows .plain name [] trivial (braced_mention name follows.reading))
  · intro within
    refine steps_some (turns_mode follows _ _ ⟨?_, before, ?_⟩)
    · exact List.not_mem_cons_of_ne_of_not_mem (Ne.symm within) inside
    · rw [same, List.reverse_cons, List.append_assoc, List.cons_append, List.cons_append]

theorem escaped_steps (follows : Follows read ⟨.escaped, quoted, pieces⟩) :
    Steps (read ++ [c]) fun lookup => (scan lookup ⟨.escaped, quoted, pieces⟩).step lookup c := by
  simp only [Scan.step, scan]
  apply steps_ite
  · exact fun _ => steps_some (turns_push follows .plain c trivial)
  intro _
  apply steps_ite
  · exact fun _ => steps_some (turns_push follows .plain '\n' trivial)
  · exact fun _ => steps_none

theorem literal_steps (follows : Follows read ⟨.literal, quoted, pieces⟩) :
    Steps (read ++ [c]) fun lookup => (scan lookup ⟨.literal, quoted, pieces⟩).step lookup c := by
  simp only [Scan.step, scan]
  apply steps_ite
  · exact fun _ => steps_some (turns_mode follows .plain quoted trivial)
  · exact fun _ => steps_some (turns_push follows .literal c trivial)

theorem ended_steps (follows : Follows read ⟨.ended, quoted, pieces⟩) :
    Steps (read ++ [c]) fun lookup => (scan lookup ⟨.ended, quoted, pieces⟩).step lookup c := by
  simp only [Scan.step, scan]
  apply steps_ite
  · exact fun _ => steps_some (turns_mode follows .ended quoted trivial)
  intro _
  apply steps_ite
  · exact fun _ => steps_some (turns_mode follows .comment quoted trivial)
  · exact fun _ => steps_none

theorem step_follows (outline : Outline) (follows : Follows read outline) :
    Steps (read ++ [c]) fun lookup => (scan lookup outline).step lookup c := by
  obtain ⟨mode, quoted, pieces⟩ := outline
  cases mode with
  | plain => exact steps_some (plain_turns follows)
  | escaped => exact escaped_steps follows
  | literal => exact literal_steps follows
  | reference name => exact reference_steps name follows
  | braced name => exact braced_steps name follows
  | ended => exact ended_steps follows
  | comment => exact steps_some (turns_mode follows .comment quoted trivial)

theorem fold_follows (text : List Char) (outline : Outline) (follows : Follows read outline) :
    Steps (read ++ text) fun lookup => text.foldlM (Scan.step lookup) (scan lookup outline) := by
  induction text generalizing read outline with
  | nil =>
    rw [List.append_nil]
    exact ⟨some outline, fun _ => rfl, fun _ same => Option.some.inj same ▸ follows⟩
  | cons c rest ih =>
    obtain ⟨next, same, goes⟩ := @step_follows read c outline follows
    simp only [List.foldlM_cons, same]
    cases next with
    | none => exact steps_none
    | some turned =>
      rw [List.append_cons]
      exact ih turned (goes turned rfl)

end Outline

-- A value whose text is known but for what stands for its references, all of which the text mentions.
def Spells (text : List Char) (values : (String → Option String) → Option String) : Prop :=
  ∃ template : Option (List Piece),
    (∀ lookup, values lookup = template.map fun pieces => String.ofList (fill lookup pieces)) ∧
    ∀ pieces, template = some pieces → ∀ name, .reference name ∈ pieces → Mentions text name

theorem spells_none {text : List Char} : Spells text fun _ => none := ⟨none, fun _ => rfl, nofun⟩

theorem complete_spells {text : List Char} {quoted : Bool} {pieces : List Piece}
    (mentioned : ∀ name, .reference name ∈ pieces → Mentions text name) :
    Spells text fun lookup => if quoted then none else some (String.ofList (fill lookup pieces)) := by
  cases quoted with
  | true => exact spells_none
  | false => exact ⟨some pieces, fun _ => rfl, fun _ same => Option.some.inj same ▸ mentioned⟩

theorem finish_spells {text : List Char} (outline : Outline) (follows : outline.Follows text) :
    Spells text fun lookup => (outline.scan lookup).finish lookup := by
  obtain ⟨mode, quoted, pieces⟩ := outline
  have mentioned (name : String) (known : .reference name ∈ pieces) : Mentions text name := by
    simpa only [List.append_nil] using follows.mentioned name known []
  cases mode with
  | plain | escaped | ended | comment =>
    simp only [Outline.scan, Scan.finish, List.reverse_reverse]
    exact complete_spells mentioned
  | literal | braced name => exact spells_none
  | reference name =>
    obtain ⟨letters, before, same⟩ := follows.reading
    have here : Mentions text (String.ofList name.reverse) := by
      refine .plain before [] ?_ ?_ rfl
      · simp [same]
      · simpa using letters
    have completed := @complete_spells text quoted (pieces ++ [.reference (String.ofList name.reverse)])
      (by simpa [or_imp, forall_and] using ⟨mentioned, here⟩)
    simpa only [Outline.scan, Scan.finish, Scan.substitute, fill_append, fill_reference, List.reverse_append,
      List.reverse_reverse] using completed

theorem value_spells (text : List Char) : Spells text fun lookup => parseValue lookup text := by
  obtain ⟨last, same, follows⟩ := @Outline.fold_follows [] text ⟨.plain, false, []⟩ ⟨nofun, trivial⟩
  have parsed (lookup : String → Option String) :
      parseValue lookup text = (last.map (Outline.scan lookup)).bind (Scan.finish lookup) :=
    congrArg (·.bind (Scan.finish lookup)) (same lookup)
  simp only [parsed]
  cases last with
  | none => exact spells_none
  | some outline => exact finish_spells outline (follows outline rfl)

theorem ranges_apart (first second : List (Nat × Nat)) (c : Char)
    (apart : ∀ low ∈ first, ∀ high ∈ second, low.2 < high.1 ∨ high.2 < low.1) (within : inRanges first c = true) :
    inRanges second c = false := by
  obtain ⟨low, listed, lowBounds⟩ := List.any_eq_true.mp within
  apply List.any_eq_false.mpr
  intro high other highBounds
  have separate := apart low listed high other
  simp only [decide_eq_true_eq] at lowBounds highBounds
  omega

theorem blank_is_no_letter (c : Char) (blank : isBlank c = true) : isAlphanumeric c = false := by
  rw [isAlphanumeric]
  by_cases ascii : c.toNat < 128
  · have checked : ∀ code < 128, isBlank (Char.ofNat code) = true → (Char.ofNat code).isAlphanum = false := by decide
    have plain := checked c.toNat ascii
    rw [Char.ofNat_toNat] at plain
    rw [if_pos ascii]
    exact plain blank
  · rw [if_neg ascii]
    exact ranges_apart blankRanges alphanumericRanges c (by decide +kernel) blank

theorem mentions_within {value : List Char} {name : String} (front trailing : List Char)
    (blank : trailing.all isBlank = true) (mentions : Mentions value name) :
    Mentions (front ++ value ++ trailing) name := by
  cases mentions with
  | plain before after same letters ends =>
    refine .plain (front ++ before) (after ++ trailing) (by simp [same]) letters ?_
    cases after with
    | cons c rest => exact ends
    | nil =>
      cases trailing with
      | nil => rfl
      | cons c rest =>
        have first : isBlank c = true := (List.all_eq_true.mp blank) c List.mem_cons_self
        simp [blank_is_no_letter c first]
  | braced before after same inside =>
    exact .braced (front ++ before) (after ++ trailing) (by simp [same]) inside

theorem take_name_suffix {text name rest : List Char} (taken : takeName text = some (name, rest)) : rest <:+ text := by
  cases text with
  | nil => simp [takeName] at taken
  | cons c others =>
    rw [takeName, Option.ite_none_right_eq_some] at taken
    obtain ⟨-, same⟩ := taken
    cases same
    exact (List.dropWhile_suffix _).trans (List.suffix_cons c others)

theorem take_equals_suffix {text rest : List Char} (taken : takeEquals text = some rest) : rest <:+ text := by
  rw [takeEquals] at taken
  split at taken
  next found skipped =>
    cases taken
    have within : skipBlank text <:+ text := List.dropWhile_suffix _
    rw [skipped] at within
    exact (List.suffix_cons _ _).trans within
  next => cases taken

theorem take_target_suffix {text name rest : List Char} (taken : takeTarget text = some (name, rest)) :
    rest <:+ text := by
  rw [takeTarget] at taken
  split at taken
  next => cases taken
  next first behind named =>
    have start := take_name_suffix named
    split at taken
    next value found =>
      cases taken
      exact (take_equals_suffix found).trans start
    next =>
      split at taken
      next =>
        split at taken
        next => cases taken
        next second others found =>
          obtain ⟨value, equals, same⟩ := Option.map_eq_some_iff.mp taken
          cases same
          exact (take_equals_suffix equals).trans
            ((take_name_suffix found).trans ((List.dropWhile_suffix _).trans start))
      next => cases taken

theorem trim_end_split (line : List Char) :
    ∃ trailing, line = trimEnd line ++ trailing ∧ trailing.all isBlank = true := by
  refine ⟨(line.reverse.takeWhile isBlank).reverse, ?_, ?_⟩
  · rw [trimEnd, ← List.reverse_append, List.takeWhile_append_dropWhile, List.reverse_reverse]
  · rw [List.all_reverse]
    exact List.all_takeWhile

-- What a line says; the value of a binding may hold references.
inductive Form
  | blank
  | binding (name : String) (pieces : List Piece)
  | malformed

def Form.under (lookup : String → Option String) : Form → Line
  | .blank => .blank
  | .binding name pieces => .binding name (String.ofList (fill lookup pieces))
  | .malformed => .malformed

structure Form.Of (line : List Char) (form : Form) : Prop where
  parsed : ∀ lookup, parseLine lookup line = form.under lookup
  mentioned : ∀ name pieces, form = .binding name pieces →
    ∀ referenced, .reference referenced ∈ pieces → Mentions line referenced

theorem line_form (line : List Char) : ∃ form, Form.Of line form := by
  by_cases comment : startsComment (skipBlank (trimEnd line)) = true
  · exact ⟨.blank, fun lookup => by rw [parseLine, if_pos comment]; rfl, nofun⟩
  cases taken : takeTarget (skipBlank (trimEnd line)) with
  | none =>
    exact ⟨.malformed, fun lookup => by simp only [parseLine, if_neg comment, taken]; rfl, nofun⟩
  | some target =>
    obtain ⟨name, rest⟩ := target
    by_cases empty : startsComment (skipBlank rest) = true
    · refine ⟨.binding (String.ofList name) [], ?_, ?_⟩
      · intro lookup
        simp only [parseLine, if_neg comment, taken, if_pos empty]
        rfl
      · rintro _ _ ⟨⟩
        exact nofun
    · obtain ⟨template, same, mentioned⟩ := value_spells (skipBlank rest)
      have parsed (lookup : String → Option String) : parseLine lookup line =
          match template with
          | some pieces => .binding (String.ofList name) (String.ofList (fill lookup pieces))
          | none => .malformed := by
        simp only [parseLine, if_neg comment, taken, if_neg empty, same]
        cases template <;> rfl
      cases template with
      | none => exact ⟨.malformed, parsed, nofun⟩
      | some pieces =>
        refine ⟨.binding (String.ofList name) pieces, parsed, ?_⟩
        rintro _ _ ⟨⟩ referenced known
        obtain ⟨trailing, split, blank⟩ := trim_end_split line
        have inside : skipBlank rest <:+ trimEnd line :=
          (List.dropWhile_suffix _).trans ((take_target_suffix taken).trans (List.dropWhile_suffix _))
        obtain ⟨front, before⟩ := inside
        have within := mentions_within front trailing blank (mentioned pieces rfl referenced known)
        rwa [before, ← split] at within

end NodeProbe.Dotenv
