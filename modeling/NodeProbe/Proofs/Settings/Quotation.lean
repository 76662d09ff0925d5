import NodeProbe.Proofs.Settings.Template
import Mathlib.Data.List.TakeWhile

set_option autoImplicit false

namespace NodeProbe.Dotenv

-- A character as it stands between double quotes.
def guardChar (c : Char) : List Char :=
  if c = '\n' then ['\\', 'n'] else if c = '\\' ∨ c = '"' ∨ c = '$' then ['\\', c] else [c]

def guardText (text : List Char) : List Char := text.flatMap guardChar

inductive Quoted (value : List Char) : List Char → Prop
  | double : Quoted value ('"' :: guardText value ++ ['"'])
  | single : '\'' ∉ value → '\n' ∉ value → Quoted value ('\'' :: value ++ ['\''])

def Spacing (space : List Char) : Prop := ∀ c ∈ space, isBlank c = true ∧ c ≠ '\n'

inductive Opening : List Char → Prop
  | none : Opening []
  | exported {space : List Char} : space ≠ [] → Spacing space → Opening ("export".toList ++ space)

inductive Ending : List Char → Prop
  | space {space : List Char} : Spacing space → Ending space
  | comment {space text : List Char} : space ≠ [] → (∀ c ∈ space, c = ' ' ∨ c = '\t') → '\n' ∉ text →
      Ending (space ++ '#' :: text)

-- A line that gives a name a value in quotes.
inductive QuotedLine (name value : String) : List Char → Prop
  | of {indent opening before after quoted ending : List Char} : Spacing indent → Opening opening → Spacing before →
      Spacing after → Quoted value.toList quoted → Ending ending →
      QuotedLine name value
        (indent ++ (opening ++ (name.toList ++ (before ++ '=' :: (after ++ (quoted ++ ending))))))

structure IsName (name : List Char) : Prop where
  start : name.head?.any isNameStart = true
  parts : name.tail.all isNamePart = true

variable {lookup : String → Option String} {c : Char}
variable {value quoted opening name space ending : List Char}

theorem visible_solid (lower : 33 ≤ c.toNat) (upper : c.toNat ≤ 122) : isBlank c = false := by
  have apart : ∀ range ∈ blankRanges, range.2 ≤ 32 ∨ 122 < range.1 := by decide
  simp only [isBlank, inRanges, List.any_eq_false, decide_eq_true_eq]
  intro range within inside
  rcases apart range within with below | above
  · exact absurd (Nat.le_trans lower inside.2) (Nat.not_le.mpr (Nat.lt_succ_of_le below))
  · exact absurd (Nat.le_trans inside.1 upper) (Nat.not_le.mpr above)

theorem part_visible (part : isNamePart c = true) : 46 ≤ c.toNat ∧ c.toNat ≤ 122 := by
  have classes : isNamePart c = (decide ('A'.val ≤ c.val ∧ c.val ≤ 'Z'.val) ||
      (decide ('a'.val ≤ c.val) && decide (c.val ≤ 'z'.val)) || (decide ('0'.val ≤ c.val) && decide (c.val ≤ '9'.val)) ||
      decide (c = '_') || decide (c = '.')) := rfl
  simp only [classes, Bool.or_eq_true, Bool.and_eq_true, decide_eq_true_eq, UInt32.le_iff_toNat_le] at part
  change 46 ≤ c.val.toNat ∧ c.val.toNat ≤ 122
  rcases part with (((upper | lower) | digit) | underscore) | point
  · exact ⟨Nat.le_trans (by decide) upper.1, Nat.le_trans upper.2 (by decide)⟩
  · exact ⟨Nat.le_trans (by decide) lower.1, lower.2⟩
  · exact ⟨Nat.le_trans (by decide) digit.1, Nat.le_trans digit.2 (by decide)⟩
  · simp [underscore]
  · simp [point]

theorem part_solid (part : isNamePart c = true) : isBlank c = false :=
  visible_solid (Nat.le_trans (by decide) (part_visible part).1) (part_visible part).2

theorem blank_no_part (blank : isBlank c = true) : isNamePart c = false := by
  by_contra part
  rw [part_solid (by simpa using part)] at blank
  cases blank

theorem part_differs (part : isNamePart c = true) (other : Char) (mark : isNamePart other = false) : c ≠ other := by
  rintro rfl
  rw [part] at mark
  cases mark

theorem start_part (start : isNameStart c = true) : isNamePart c = true := by
  rw [isNameStart, Bool.or_eq_true] at start
  rw [isNamePart, Char.isAlphanum]
  rcases start with letter | underscore
  · simp [letter]
  · simp [underscore]

theorem name_parts (named : IsName name) :
    ∃ first others, name = first :: others ∧ isNameStart first = true ∧ ∀ c ∈ first :: others, isNamePart c = true := by
  obtain ⟨start, parts⟩ := named
  cases name with
  | nil => cases start
  | cons first others =>
    exact ⟨first, others, rfl, start, List.forall_mem_cons.mpr ⟨start_part start, List.all_eq_true.mp parts⟩⟩

theorem skip_spacing (spaced : Spacing space) (solid : isBlank c = false) (rest : List Char) :
    skipBlank (space ++ c :: rest) = c :: rest := by
  rw [skipBlank, List.dropWhile_append_of_pos fun c within => (spaced c within).1,
    List.dropWhile_cons_of_neg (by simp [solid])]

theorem trim_end_solid (front back : List Char) (solid : isBlank c = false) :
    trimEnd (front ++ c :: back) = front ++ c :: trimEnd back := by
  by_cases gone : back.reverse.dropWhile isBlank = [] <;>
    simp [trimEnd, List.dropWhile_append, gone, solid]

theorem name_taken {rest : List Char} (named : IsName name) (ends : rest.head?.all (!isNamePart ·) = true) :
    takeName (name ++ rest) = some (name, rest) := by
  obtain ⟨first, others, rfl, start, parts⟩ := name_parts named
  have all : ∀ c ∈ others, isNamePart c = true := fun c within => parts c (List.mem_cons_of_mem _ within)
  have stops : rest.takeWhile isNamePart = [] ∧ rest.dropWhile isNamePart = rest := by
    cases rest with
    | nil => exact ⟨rfl, rfl⟩
    | cons c more =>
      have other : isNamePart c = false := by simpa using ends
      simp [other]
  simp [takeName, start, List.takeWhile_append_of_pos all, List.dropWhile_append_of_pos all, stops]

theorem equals_taken (spaced : Spacing space) (rest : List Char) : takeEquals (space ++ '=' :: rest) = some rest := by
  rw [takeEquals, skip_spacing spaced (by decide)]
  rfl

theorem equals_ends (spaced : Spacing space) (rest : List Char) :
    (space ++ '=' :: rest).head?.all (!isNamePart ·) = true := by
  cases space with
  | nil => rfl
  | cons first more => simp [blank_no_part (spaced first List.mem_cons_self).1]

theorem name_skipped (named : IsName name) (spaced : Spacing space) (rest : List Char) :
    skipBlank (space ++ (name ++ rest)) = name ++ rest ∧ takeEquals (space ++ (name ++ rest)) = none := by
  obtain ⟨first, others, rfl, _, parts⟩ := name_parts named
  have part := parts first List.mem_cons_self
  have skipped := skip_spacing spaced (part_solid part) (others ++ rest)
  refine ⟨skipped, ?_⟩
  rw [takeEquals, List.cons_append, skipped]
  simp [part_differs part '=' (by decide)]

theorem target_taken (opens : Opening opening) (named : IsName name) (spaced : Spacing space) (rest : List Char) :
    takeTarget (opening ++ (name ++ (space ++ '=' :: rest))) = some (name, rest) := by
  have taken := name_taken named (equals_ends spaced rest)
  have equals := equals_taken spaced rest
  cases opens with
  | none => simp [takeTarget, taken, equals]
  | @exported gap present blank =>
    -- The word in front is first taken for the name, and then lacks its equals sign.
    obtain ⟨skipped, noEquals⟩ := name_skipped named blank (space ++ '=' :: rest)
    have word : IsName "export".toList := ⟨by decide, by decide⟩
    have exported : takeName ("export".toList ++ (gap ++ (name ++ (space ++ '=' :: rest)))) =
        some ("export".toList, gap ++ (name ++ (space ++ '=' :: rest))) := by
      apply name_taken word
      obtain ⟨first, others, rfl⟩ := List.exists_cons_of_ne_nil present
      simp [blank_no_part (blank first List.mem_cons_self).1]
    rw [List.append_assoc, takeTarget, exported]
    simp only [noEquals, skipped, taken, equals, if_true, Option.map_some]

theorem target_opens (opens : Opening opening) (named : IsName name) (rest : List Char) :
    ∃ c others, opening ++ (name ++ rest) = c :: others ∧ isNamePart c = true := by
  obtain ⟨first, others, rfl, _, parts⟩ := name_parts named
  cases opens with
  | none => exact ⟨first, others ++ rest, rfl, parts first List.mem_cons_self⟩
  | exported => exact ⟨'e', _, rfl, by decide⟩

theorem guarded_read (text done : List Char) :
    (guardText text).foldlM (Scan.step lookup) ⟨.plain, true, done⟩ = some ⟨.plain, true, text.reverse ++ done⟩ := by
  induction text generalizing done with
  | nil => rfl
  | cons c rest ih =>
    have pushed : (guardChar c).foldlM (Scan.step lookup) ⟨.plain, true, done⟩ = some ⟨.plain, true, c :: done⟩ := by
      by_cases broken : c = '\n'
      · subst broken
        rfl
      by_cases special : c = '\\' ∨ c = '"' ∨ c = '$'
      · rcases special with rfl | rfl | rfl <;> rfl
      · simp only [not_or] at special
        simp [guardChar, broken, special, Scan.step, Scan.stepPlain, Scan.push]
    rw [guardText, List.flatMap_cons, ← guardText, List.foldlM_append]
    simp [pushed, ih]

theorem literal_read (text done : List Char) (quoted : Bool) (plain : '\'' ∉ text) :
    text.foldlM (Scan.step lookup) ⟨.literal, quoted, done⟩ = some ⟨.literal, quoted, text.reverse ++ done⟩ := by
  induction text generalizing done with
  | nil => rfl
  | cons c rest ih =>
    simp only [List.mem_cons, not_or] at plain
    simp [Scan.step, Ne.symm plain.1, ih _ plain.2]

theorem quoted_read (written : Quoted value quoted) :
    quoted.foldlM (Scan.step lookup) Scan.start = some ⟨.plain, false, value.reverse⟩ := by
  cases written with
  | double =>
    have opened : Scan.step lookup Scan.start '"' = some ⟨.plain, true, []⟩ := rfl
    have closed : Scan.step lookup ⟨.plain, true, value.reverse⟩ '"' = some ⟨.plain, false, value.reverse⟩ := rfl
    simp [opened, closed, guarded_read]
  | single plain _ =>
    have opened : Scan.step lookup Scan.start '\'' = some ⟨.literal, false, []⟩ := rfl
    have closed : Scan.step lookup ⟨.literal, false, value.reverse⟩ '\'' = some ⟨.plain, false, value.reverse⟩ := rfl
    simp [opened, closed, literal_read _ _ _ plain]

theorem spaces_read (flat : ∀ c ∈ space, c = ' ' ∨ c = '\t') (text : List Char) :
    space.foldlM (Scan.step lookup) ⟨.ended, false, text⟩ = some ⟨.ended, false, text⟩ := by
  induction space with
  | nil => rfl
  | cons c rest ih =>
    obtain ⟨first, others⟩ := List.forall_mem_cons.mp flat
    simp [Scan.step, first, ih others]

theorem comment_read (comment text : List Char) :
    comment.foldlM (Scan.step lookup) ⟨.comment, false, text⟩ = some ⟨.comment, false, text⟩ := by
  induction comment with
  | nil => rfl
  | cons c rest ih => simp [Scan.step, ih]

theorem ending_read (ends : Ending ending) (text : List Char) :
    ((trimEnd ending).foldlM (Scan.step lookup) ⟨.plain, false, text⟩).bind (Scan.finish lookup) =
      some (String.ofList text.reverse) := by
  cases ends with
  | space spaced =>
    have gone : trimEnd ending = [] := by
      simpa [trimEnd, List.dropWhile_eq_nil_iff] using fun c within => (spaced c within).1
    rw [gone]
    rfl
  | @comment space comment present flat _ =>
    obtain ⟨first, others, rfl⟩ := List.exists_cons_of_ne_nil present
    obtain ⟨blank, flatOthers⟩ := List.forall_mem_cons.mp flat
    have ended : Scan.step lookup ⟨.plain, false, text⟩ first = some ⟨.ended, false, text⟩ := by
      rcases blank with rfl | rfl <;> rfl
    have begun : Scan.step lookup ⟨.ended, false, text⟩ '#' = some ⟨.comment, false, text⟩ := rfl
    rw [trim_end_solid _ _ (by decide)]
    simp [ended, spaces_read flatOthers, begun, comment_read, Scan.finish]

theorem value_read (written : Quoted value quoted) (ends : Ending ending) :
    parseValue lookup (quoted ++ trimEnd ending) = some (String.ofList value) := by
  rw [parseValue, List.foldlM_append, quoted_read written]
  simpa using ending_read ends value.reverse

theorem quoted_marks (written : Quoted value quoted) :
    ∃ mark inside, quoted = mark :: (inside ++ [mark]) ∧ isBlank mark = false ∧ mark ≠ '#' := by
  cases written with
  | double => exact ⟨'"', guardText value, rfl, by decide, by decide⟩
  | single => exact ⟨'\'', value, rfl, by decide, by decide⟩

theorem quoted_line_parsed {name value : String} {line : List Char} (named : IsName name.toList)
    (written : QuotedLine name value line) : parseLine lookup line = .binding name value := by
  cases written with
  | @of indent opening before after quoted ending indented opens spacedBefore spacedAfter quotes ends =>
    obtain ⟨mark, inside, marked, solid, noHash⟩ := quoted_marks quotes
    obtain ⟨first, others, begins, part⟩ :=
      target_opens opens named (before ++ '=' :: (after ++ (quoted ++ trimEnd ending)))
    have trimmed : trimEnd (indent ++ (opening ++ (name.toList ++ (before ++ '=' :: (after ++ (quoted ++ ending)))))) =
        indent ++ first :: others := by
      have kept := trim_end_solid
        (indent ++ (opening ++ (name.toList ++ (before ++ '=' :: (after ++ mark :: inside))))) ending solid
      rw [← begins, marked]
      simpa using kept
    have noComment : ¬ startsComment (first :: others) = true := by
      simp [startsComment, part_differs part '#' (by decide)]
    have filled : ¬ startsComment (quoted ++ trimEnd ending) = true := by
      simp [marked, startsComment, noHash]
    have behind : skipBlank (after ++ (quoted ++ trimEnd ending)) = quoted ++ trimEnd ending := by
      rw [marked]
      exact skip_spacing spacedAfter solid _
    have taken := target_taken opens named spacedBefore (after ++ (quoted ++ trimEnd ending))
    rw [parseLine, trimmed, skip_spacing indented (part_solid part), if_neg noComment, ← begins, taken]
    dsimp only
    rw [behind, if_neg filled, value_read quotes ends]
    simp

theorem quoted_line_form {name value : String} {line : List Char} (named : IsName name.toList)
    (written : QuotedLine name value line) : Form.Of line (.binding name (value.toList.map .char)) := by
  refine ⟨?_, ?_⟩
  · intro lookup
    rw [quoted_line_parsed named written, Form.under, fill_chars, String.ofList_toList]
  · intro other pieces same referenced mentioned
    cases same
    simp at mentioned

theorem guarded_unbroken (text : List Char) : '\n' ∉ guardText text := by
  intro within
  obtain ⟨c, _, here⟩ := List.mem_flatMap.mp within
  by_cases broken : c = '\n'
  · simp [guardChar, broken] at here
  by_cases special : c = '\\' ∨ c = '"' ∨ c = '$' <;> simp [guardChar, broken, special, Ne.symm broken] at here

theorem quoted_unbroken (written : Quoted value quoted) : '\n' ∉ quoted := by
  cases written with
  | double => simp [guarded_unbroken]
  | single plain unbroken => simp [unbroken]

theorem name_unbroken (named : IsName name) : '\n' ∉ name := by
  obtain ⟨first, others, rfl, _, parts⟩ := name_parts named
  exact fun within => absurd (parts _ within) (by decide)

theorem spacing_unbroken (spaced : Spacing space) : '\n' ∉ space := fun within => (spaced _ within).2 rfl

theorem opening_unbroken (opens : Opening opening) : '\n' ∉ opening := by
  cases opens with
  | none => exact List.not_mem_nil
  | exported _ spaced => simp [spacing_unbroken spaced]

theorem ending_unbroken (ends : Ending ending) : '\n' ∉ ending := by
  cases ends with
  | space spaced => exact spacing_unbroken spaced
  | comment _ flat unbroken =>
    have noBreak : '\n' ∉ _ := fun within => absurd (flat _ within) (by decide)
    simp [unbroken, noBreak]

theorem quoted_line_unbroken {name value : String} {line : List Char} (named : IsName name.toList)
    (written : QuotedLine name value line) : '\n' ∉ line := by
  cases written with
  | of indented opens spacedBefore spacedAfter quotes ends =>
    simp [spacing_unbroken indented, opening_unbroken opens, name_unbroken named, spacing_unbroken spacedBefore,
      spacing_unbroken spacedAfter, quoted_unbroken quotes, ending_unbroken ends]

end NodeProbe.Dotenv
