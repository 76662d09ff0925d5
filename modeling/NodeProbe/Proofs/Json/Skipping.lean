import NodeProbe.Proofs.Json.Recognition

set_option autoImplicit false

namespace NodeProbe.Json

/-! Numbers -/

theorem skip_exponent_run (exponent : Exponent) (rest : List Char) (apart : NoDigit rest) :
    skipExponent (exponent.sign ++ exponent.digits ++ rest) = .ok rest := by
  have signed := exponent_sign_run exponent.sign exponent.digits rest exponent.signed exponent.run
  obtain ⟨first, others, same, digit, otherDigits⟩ := digit_run_first exponent.run
  rw [same] at signed ⊢
  rw [skipExponent, List.append_assoc, signed]
  dsimp only [List.cons_append]
  rw [if_pos digit, skip_digits_run others rest otherDigits apart]

theorem skip_fraction_run (run : List Char) (digits : DigitRun run) (exponent : Option Exponent) (rest : List Char)
    (delimited : Delimited rest) : skipFraction (run ++ (exponentText exponent ++ rest)) = .ok rest := by
  have apart := delimited_no_digit rest delimited
  have behind := skip_digits_run run _ digits.2 (exponent_no_digit exponent rest apart)
  have starts : startsWithDigit (run ++ (exponentText exponent ++ rest)) = true := by
    obtain ⟨first, others, rfl, digit, _⟩ := digit_run_first digits
    exact digit
  rw [skipFraction, if_pos starts, behind]
  cases exponent with
  | some exponent =>
    have lettered := exponent.lettered
    rw [exponentText, Exponent.text, List.cons_append]
    dsimp only
    rw [if_pos lettered]
    exact skip_exponent_run exponent rest apart
  | none =>
    rw [exponentText, List.nil_append]
    cases rest with
    | nil => rfl
    | cons c after =>
      obtain ⟨_, _, notLower, notUpper⟩ := delimited c rfl
      exact if_neg (not_or.mpr ⟨notLower, notUpper⟩)

def skipAfterWhole (after : List Char) : Except Fault (List Char) :=
  match after with
  | [] => .ok []
  | d :: after =>
    if d = '.' then skipFraction after
    else if d = 'e' ∨ d = 'E' then skipExponent after
    else .ok (d :: after)

theorem skip_number_after_whole (first : Char) (rest : List Char) (digit : first.isDigit = true)
    (noLeadingZero : ¬ (first = '0' ∧ startsWithDigit rest = true)) :
    skipNumber (first :: rest) = skipAfterWhole (skipDigits rest) := by
  rw [skipNumber, if_neg (by rw [digit]; exact Bool.false_ne_true), if_neg noLeadingZero]
  rfl

theorem skip_after_whole_run (numeral : Numeral) (rest : List Char) (delimited : Delimited rest) :
    skipAfterWhole (fractionText numeral.fraction ++ (exponentText numeral.exponent ++ rest)) = .ok rest := by
  have runs := numeral.fractionRun
  cases parted : numeral.fraction with
  | some digits => exact skip_fraction_run digits (runs digits parted) numeral.exponent rest delimited
  | none =>
    rw [fractionText, List.nil_append]
    cases numeral.exponent with
    | some exponent =>
      have apart := delimited_no_digit rest delimited
      have skipped := skip_exponent_run exponent rest apart
      rw [exponentText, Exponent.text, List.cons_append, skipAfterWhole]
      obtain ⟨letter, sign, digits, lettered, _, _⟩ := exponent
      have notPoint : letter ≠ '.' := by rcases lettered with rfl | rfl <;> decide
      rw [if_neg notPoint, if_pos lettered]
      exact skipped
    | none =>
      rw [exponentText, List.nil_append]
      cases rest with
      | nil => rfl
      | cons c after =>
        obtain ⟨_, notPoint, notLower, notUpper⟩ := delimited c rfl
        rw [skipAfterWhole, if_neg notPoint, if_neg (not_or.mpr ⟨notLower, notUpper⟩)]

theorem skip_numeral (numeral : Numeral) (rest : List Char) (delimited : Delimited rest) :
    skipNumber (numeral.unsigned ++ rest) = .ok rest := by
  obtain ⟨first, others, same, digit, otherDigits, onlyZero⟩ := whole_first numeral
  have apart := fraction_no_digit numeral.fraction _
    (exponent_no_digit numeral.exponent rest (delimited_no_digit rest delimited))
  rw [Numeral.unsigned, same, List.cons_append, List.cons_append, List.append_assoc, List.append_assoc,
    skip_number_after_whole first _ digit (no_leading_zero onlyZero apart), skip_digits_run others _ otherDigits apart]
  exact skip_after_whole_run numeral rest delimited

theorem skip_exponent_split {text rest : List Char} (read : skipExponent text = .ok rest) :
    ∃ sign run, (sign = [] ∨ sign = ['+'] ∨ sign = ['-']) ∧ DigitRun run ∧ text = sign ++ run ++ rest := by
  obtain ⟨sign, signed, same⟩ := exponent_sign_split text
  unfold skipExponent at read
  cases unsigned : (exponentSign text).2 with
  | nil =>
    rw [unsigned] at read
    cases read
  | cons first others =>
    rw [unsigned] at read same
    dsimp only at read
    by_cases digit : first.isDigit = true
    · rw [if_pos digit] at read
      obtain ⟨run, allDigits, split⟩ := digits_split others
      cases read
      refine ⟨sign, first :: run, signed, (digit_run_cons first run).mpr ⟨digit, allDigits⟩, ?_⟩
      rw [List.append_assoc, List.cons_append, ← split]
      exact same
    · rw [if_neg digit] at read
      cases read

theorem skip_exponent_text {letter : Char} (lettered : letter = 'e' ∨ letter = 'E') {text rest : List Char}
    (read : skipExponent text = .ok rest) : ∃ exponent, letter :: text = exponentText (some exponent) ++ rest := by
  obtain ⟨sign, run, signed, digits, rfl⟩ := skip_exponent_split read
  exact ⟨⟨letter, sign, run, lettered, signed, digits⟩, rfl⟩

theorem skip_fraction_split {text rest : List Char} (read : skipFraction text = .ok rest) :
    ∃ run exponent, DigitRun run ∧ text = run ++ exponentText exponent ++ rest := by
  cases text with
  | nil => cases read
  | cons first others =>
    by_cases digit : first.isDigit = true
    · obtain ⟨run, allDigits, same⟩ := digits_split others
      have digits : DigitRun (first :: run) := (digit_run_cons first run).mpr ⟨digit, allDigits⟩
      have skipped : skipDigits (first :: others) = skipDigits others := List.dropWhile_cons_of_pos digit
      have starts : startsWithDigit (first :: others) = true := digit
      rw [skipFraction, if_pos starts, skipped] at read
      cases behind : skipDigits others with
      | nil =>
        rw [behind] at read same
        cases read
        refine ⟨first :: run, none, digits, ?_⟩
        rw [exponentText, List.append_nil]
        exact congrArg (List.cons first) same
      | cons c after =>
        rw [behind] at read same
        dsimp only at read
        by_cases lettered : c = 'e' ∨ c = 'E'
        · rw [if_pos lettered] at read
          obtain ⟨exponent, spelled⟩ := skip_exponent_text lettered read
          exact ⟨first :: run, some exponent, digits, by rw [same, spelled, List.append_assoc, List.cons_append]⟩
        · rw [if_neg lettered] at read
          cases read
          refine ⟨first :: run, none, digits, ?_⟩
          rw [exponentText, List.append_nil]
          exact congrArg (List.cons first) same
    · have plain : ¬ startsWithDigit (first :: others) = true := digit
      rw [skipFraction, if_neg plain] at read
      cases read

theorem skip_after_whole_split {after rest : List Char} (read : skipAfterWhole after = .ok rest) :
    ∃ fraction exponent, (∀ digits ∈ fraction, DigitRun digits) ∧
      after = fractionText fraction ++ exponentText exponent ++ rest := by
  cases after with
  | nil =>
    cases read
    exact ⟨none, none, nofun, rfl⟩
  | cons d after =>
    rw [skipAfterWhole] at read
    split at read
    · rename_i point
      obtain ⟨run, exponent, digits, same⟩ := skip_fraction_split read
      refine ⟨some run, exponent, ?_, by rw [point, same]; rfl⟩
      intro own present
      cases present
      exact digits
    split at read
    · rename_i lettered
      obtain ⟨exponent, same⟩ := skip_exponent_text lettered read
      exact ⟨none, some exponent, nofun, same⟩
    cases read
    exact ⟨none, none, nofun, rfl⟩

theorem skip_number_split (negative : Bool) {text rest : List Char} (read : skipNumber text = .ok rest) :
    ∃ numeral : Numeral, numeral.negative = negative ∧ text = numeral.unsigned ++ rest := by
  cases text with
  | nil => cases read
  | cons first others =>
    by_cases digit : first.isDigit = true
    · by_cases leadingZero : first = '0' ∧ startsWithDigit others = true
      · rw [skipNumber, if_neg (by rw [digit]; exact Bool.false_ne_true), if_pos leadingZero] at read
        cases read
      · rw [skip_number_after_whole first others digit leadingZero] at read
        obtain ⟨fraction, exponent, runs, behind⟩ := skip_after_whole_split read
        exact numeral_behind_digit negative digit leadingZero runs behind
    · rw [skipNumber, if_pos (by simpa using digit)] at read
      cases read

/-! Text -/

theorem skip_text_escape (text : List Char) :
    skipText ('\\' :: text) =
      match skipEscape text with
      | .error fault => .error fault
      | .ok after => skipText after := by
  rw [skipText, if_neg (by decide), if_pos rfl]
  split <;> simp_all

theorem escape_letters : ['"', '\\', '/', 'b', 'f', 'n', 'r', 't'] = shortEscapes.map Prod.fst := rfl

theorem skip_mark {mark : Mark} {spelled : List Char} (spelling : MarkSpelling mark spelled) (rest : List Char) :
    skipText (spelled ++ rest) = skipText rest := by
  cases spelling with
  | plain notQuote notBackslash visible =>
    rw [List.singleton_append, skipText, if_neg notQuote, if_neg notBackslash, if_neg visible]
  | @short letter c short =>
    have passed : skipEscape (letter :: rest) = .ok rest := by
      have notUnit := short_escape_letter letter c short
      rw [skipEscape, if_neg notUnit, escape_letters, if_pos (List.mem_map_of_mem short)]
    exact (skip_text_escape (letter :: rest)).trans (by rw [passed])
  | @unit unit text spelledUnit =>
    have passed : skipEscape ('u' :: (text ++ rest)) = .ok rest := by
      rw [skipEscape, if_pos rfl, hex_unit_spelling spelledUnit]
    exact (skip_text_escape ('u' :: (text ++ rest))).trans (by rw [passed])

theorem skip_marks {marks : List Mark} {spelled : List Char} (spelling : MarksSpelling marks spelled) (rest : List Char) :
    skipText (spelled ++ '"' :: rest) = .ok rest := by
  induction spelling with
  | nil =>
    rw [List.nil_append, skipText, if_pos rfl]
  | cons spelledMark _ ih => rw [List.append_assoc, skip_mark spelledMark, ih]

theorem skip_escape_split {text rest : List Char} (read : skipEscape text = .ok rest) :
    ∃ mark spelled, MarkSpelling mark ('\\' :: spelled) ∧ text = spelled ++ rest := by
  cases text with
  | nil => cases read
  | cons letter after =>
    rw [skipEscape] at read
    split at read
    · rename_i unit
      cases named : hexUnit after with
      | error fault =>
        rw [named] at read
        cases read
      | ok taken =>
        rw [named] at read
        obtain ⟨spelled, spelling, behind⟩ := hex_unit_split named
        cases read
        exact ⟨.unit taken.1, 'u' :: spelled, .unit spelling, by rw [unit, behind, List.cons_append]⟩
    split at read
    · rename_i known
      rw [escape_letters] at known
      obtain ⟨⟨own, c⟩, short, rfl⟩ := List.mem_map.mp known
      cases read
      exact ⟨.char c, [own], .short short, rfl⟩
    cases read

theorem skip_text_split {text rest : List Char} (read : skipText text = .ok rest) :
    ∃ marks spelled, MarksSpelling marks spelled ∧ text = spelled ++ '"' :: rest := by
  fun_induction skipText text with
  | case1 => cases read
  | case2 after =>
    cases read
    exact ⟨[], [], .nil, rfl⟩
  | case3 => cases read
  | case4 after remaining escaped _ ih =>
    obtain ⟨marks, spelled, spelling, same⟩ := ih read
    obtain ⟨mark, used, spelledMark, taken⟩ := skip_escape_split escaped
    refine ⟨mark :: marks, '\\' :: used ++ spelled, .cons spelledMark spelling, ?_⟩
    simp only [taken, same, List.cons_append, List.append_assoc]
  | case5 => cases read
  | case6 c after notQuote notBackslash visible ih =>
    obtain ⟨marks, spelled, spelling, same⟩ := ih read
    exact ⟨.char c :: marks, c :: spelled, .cons (.plain notQuote notBackslash visible) spelling, congrArg (List.cons c) same⟩

theorem skip_scalar_split {text rest : List Char} (read : skipScalar text = .ok rest) :
    ∃ taken, IsDraft taken ∧ text = taken ++ rest := by
  cases text with
  | nil => cases read
  | cons c after =>
    rw [skipScalar] at read
    split at read
    · rename_i same
      rw [same, literal_split read]
      exact ⟨writeNull, ⟨.null, .null⟩, rfl⟩
    split at read
    · rename_i same
      rw [same, literal_split read]
      exact ⟨writeBoolean true, ⟨.boolean true, .boolean true⟩, rfl⟩
    split at read
    · rename_i same
      rw [same, literal_split read]
      exact ⟨writeBoolean false, ⟨.boolean false, .boolean false⟩, rfl⟩
    split at read
    · rename_i same
      obtain ⟨numeral, negative, behind⟩ := skip_number_split true read
      refine ⟨numeral.text, ⟨.number numeral, .number numeral⟩, ?_⟩
      rw [same, behind, Numeral.text, negative, if_pos rfl, List.cons_append]
    split at read
    · obtain ⟨numeral, negative, behind⟩ := skip_number_split false read
      refine ⟨numeral.text, ⟨.number numeral, .number numeral⟩, ?_⟩
      rw [behind, Numeral.text, negative, if_neg Bool.false_ne_true]
    split at read
    · rename_i same
      obtain ⟨marks, spelled, spelling, behind⟩ := skip_text_split read
      refine ⟨'"' :: (spelled ++ ['"']), ⟨.text marks, .text spelling⟩, ?_⟩
      rw [same, behind, List.cons_append, List.append_assoc, List.singleton_append]
    cases read

/-! Values of any depth -/

theorem skip_numeral_scalar (numeral : Numeral) (rest : List Char) (delimited : Delimited rest) :
    skipScalar (numeral.text ++ rest) = .ok rest := by
  have skipped := skip_numeral numeral rest delimited
  cases sign : numeral.negative with
  | true =>
    rw [Numeral.text, sign, if_pos rfl]
    exact skipped
  | false =>
    obtain ⟨first, behind, opened, digit⟩ := unsigned_first numeral
    obtain ⟨notN, notT, notF, notMinus, _⟩ := digit_not_letter first digit
    rw [Numeral.text, sign, if_neg Bool.false_ne_true]
    rw [opened, List.cons_append] at skipped ⊢
    rw [skipScalar, if_neg notN, if_neg notT, if_neg notF, if_neg notMinus, if_pos digit]
    exact skipped

theorem skip_from_scalar {c : Char} {text others rest : List Char} (outer : List Bracket)
    (spaced : skipSpace text = c :: others) (notList : c ≠ '[') (notObject : c ≠ '\x7b')
    (skipped : skipScalar (c :: others) = .ok rest) : skipFrom .value outer text = skipFrom .closed outer rest := by
  conv => lhs; rw [skipFrom]
  split
  · rename_i other same
    rw [spaced] at same
    exact absurd (List.cons.inj same).1 notList
  · rename_i other same
    rw [spaced] at same
    exact absurd (List.cons.inj same).1 notObject
  · rw [spaced]
    split <;> simp_all

theorem skip_from_name {outer : List Bracket} {text rest : List Char} (named : skipName.run text = .ok ((), rest)) :
    skipFrom (.item .object) outer text = skipFrom .value (.object :: outer) rest := by
  conv => lhs; rw [skipFrom]
  split <;> simp_all

def Bracket.opening : Bracket → Char
  | .list => '['
  | .object => '\x7b'

theorem skip_from_bracket (bracket : Bracket) {outer : List Bracket} {text rest : List Char}
    (spaced : skipSpace text = bracket.opening :: rest) :
    skipFrom .value outer text = skipFrom (.opened bracket) outer rest := by
  conv => lhs; rw [skipFrom]
  cases bracket <;> split <;> simp_all [Bracket.opening]

theorem skip_from_empty (bracket : Bracket) {outer : List Bracket} {text rest : List Char}
    (spaced : skipSpace text = bracket.enclosure.close :: rest) :
    skipFrom (.opened bracket) outer text = skipFrom .closed outer rest := by
  conv => lhs; rw [skipFrom]
  split <;> simp_all

theorem skip_from_first (bracket : Bracket) {outer : List Bracket} {text : List Char}
    (goesOn : ∃ c others, skipSpace text = c :: others ∧ c ≠ bracket.enclosure.close) :
    skipFrom (.opened bracket) outer text = skipFrom (.item bracket) outer (skipSpace text) := by
  obtain ⟨c, others, spaced, different⟩ := goesOn
  conv => lhs; rw [skipFrom]
  split <;> simp_all

theorem skip_from_close (bracket : Bracket) {outer : List Bracket} {text rest : List Char}
    (spaced : skipSpace text = bracket.enclosure.close :: rest) :
    skipFrom .closed (bracket :: outer) text = skipFrom .closed outer rest := by
  have notComma := (comma_not_close bracket).symm
  conv => lhs; rw [skipFrom]
  split <;> simp_all

theorem skip_from_comma (bracket : Bracket) {outer : List Bracket} {text rest : List Char}
    (spaced : skipSpace text = ',' :: rest) :
    skipFrom .closed (bracket :: outer) text = skipFrom (.item bracket) outer rest := by
  conv => lhs; rw [skipFrom]
  split <;> simp_all

-- An item is passed over, wherever it stands.
def Passes (bracket : Bracket) (text : List Char) : Prop :=
  ∀ outer gap rest, Gap gap → Delimited rest →
    skipFrom (.item bracket) outer (gap ++ (text ++ rest)) = skipFrom .closed (bracket :: outer) rest

theorem skip_items (bracket : Bracket) {texts : List (List Char)} {body : List Char}
    (layout : Layout bracket.enclosure.close texts body) (passes : ∀ text ∈ texts, Passes bracket text)
    (nonempty : texts ≠ []) (outer : List Bracket) (rest : List Char) :
    skipFrom (.item bracket) outer (body ++ rest) = skipFrom .closed outer rest := by
  induction layout with
  | empty => exact absurd rfl nonempty
  | @last before text after blankBefore blankAfter =>
    have delimited := delimited_gap after _ blankAfter (close_delimits bracket rest)
    have passed := passes text List.mem_cons_self outer before _ blankBefore delimited
    simp only [List.append_assoc, List.singleton_append]
    rw [passed, skip_from_close bracket (skip_space_gap_solid after rest _ blankAfter (close_solid bracket))]
  | @more before text after second body texts blankBefore blankAfter _ ih =>
    have delimited := delimited_gap after _ blankAfter (comma_delimits (body ++ rest))
    have passed := passes text List.mem_cons_self outer before _ blankBefore delimited
    simp only [List.append_assoc, List.cons_append]
    rw [passed, skip_from_comma bracket (skip_space_gap_solid after (body ++ rest) ',' blankAfter (by decide))]
    exact ih (fun other present => passes other (List.mem_cons_of_mem text present)) (List.cons_ne_nil _ _)

theorem layout_spaced {close : Char} {text : List Char} {texts : List (List Char)} {body : List Char}
    (layout : Layout close (text :: texts) body) (opens : Opens text) :
    ∃ tail, (∀ rest, skipSpace (body ++ rest) = text ++ (tail ++ rest)) ∧ Layout close (text :: texts) (text ++ tail) := by
  have spaced : ∀ before tail rest, Gap before → skipSpace (before ++ (text ++ tail) ++ rest) = text ++ (tail ++ rest) := by
    intro before tail rest blank
    rw [List.append_assoc, List.append_assoc, skip_space_gap_opens blank opens]
  cases layout with
  | @last before _ after blankBefore blankAfter =>
    exact ⟨_, fun rest => spaced before _ rest blankBefore, .last gap_nil blankAfter⟩
  | @more before _ after second body others blankBefore blankAfter later =>
    exact ⟨_, fun rest => spaced before _ rest blankBefore, .more gap_nil blankAfter later⟩

theorem skip_opened (bracket : Bracket) {texts : List (List Char)} {body : List Char}
    (layout : Layout bracket.enclosure.close texts body) (opens : ∀ text ∈ texts, Opens text)
    (passes : ∀ text ∈ texts, Passes bracket text) (outer : List Bracket) (rest : List Char) :
    skipFrom (.opened bracket) outer (body ++ rest) = skipFrom .closed outer rest := by
  cases texts with
  | nil =>
    cases layout with
    | @empty gap blank =>
      rw [List.append_assoc, List.singleton_append]
      exact skip_from_empty bracket (skip_space_gap_solid gap rest _ blank (close_solid bracket))
  | cons text texts =>
    have opensText := opens text List.mem_cons_self
    obtain ⟨tail, spaced, solid⟩ := layout_spaced layout opensText
    have goesOn := opens_not_close bracket text opensText (tail ++ rest)
    rw [skip_from_first bracket (by rwa [spaced]), spaced, ← List.append_assoc]
    exact skip_items bracket solid passes (List.cons_ne_nil _ _) outer rest

theorem skip_name_run {marks : List Mark} {label : List Char} (spelling : NameSpelling marks label) (gap rest : List Char)
    (blank : Gap gap) :
    ∃ after, Gap after ∧ skipName.run (gap ++ (label ++ rest)) = .ok ((), after ++ rest) := by
  obtain ⟨spelled, separator, spelledName, ⟨before, after, blankBefore, blankAfter, rfl⟩, rfl⟩ := spelling
  have whole : gap ++ ('"' :: (spelled ++ '"' :: (before ++ ':' :: after)) ++ rest) =
      gap ++ '"' :: (spelled ++ '"' :: (before ++ ':' :: (after ++ rest))) := by
    simp only [List.append_assoc, List.cons_append]
  refine ⟨after, blankAfter, ?_⟩
  rw [whole]
  simp only [skipName, colon, Reader.bind, Reader.afterSpace, Reader.expect, Reader.ofSkip,
    skip_space_gap_solid gap _ '"' blank (by decide), skip_marks spelledName,
    skip_space_gap_solid before _ ':' blankBefore (by decide), if_true]

theorem skip_scalar_value {text : List Char} (opens : Opens text)
    (scalar : ∃ c others, text = c :: others ∧ c ≠ '[' ∧ c ≠ '\x7b') (outer : List Bracket) {gap rest : List Char}
    (blank : Gap gap) (skipped : skipScalar (text ++ rest) = .ok rest) :
    skipFrom .value outer (gap ++ (text ++ rest)) = skipFrom .closed outer rest := by
  have spaced := skip_space_gap_opens blank opens rest
  obtain ⟨c, others, rfl, notList, notObject⟩ := scalar
  exact skip_from_scalar outer spaced notList notObject skipped

theorem skip_written {draft : Draft} {text : List Char} (written : draft.Written text) (outer : List Bracket)
    (gap rest : List Char) (blank : Gap gap) (delimited : Delimited rest) :
    skipFrom .value outer (gap ++ (text ++ rest)) = skipFrom .closed outer rest := by
  induction written generalizing outer gap rest with
  | null => exact skip_scalar_value (written_opens .null) ⟨_, _, rfl, by decide⟩ outer blank rfl
  | boolean truth =>
    have opens := written_opens (.boolean truth)
    cases truth <;> exact skip_scalar_value opens ⟨_, _, rfl, by decide⟩ outer blank rfl
  | number numeral =>
    obtain ⟨c, others, same, start⟩ := numeral_opens numeral
    obtain ⟨_, notList, notObject, _⟩ := number_start_marks c start
    exact skip_scalar_value (written_opens (.number numeral)) ⟨c, others, same, notList, notObject⟩ outer blank
      (skip_numeral_scalar numeral rest delimited)
  | @text marks spelled spelling =>
    have skipped : skipScalar ('"' :: (spelled ++ ['"']) ++ rest) = .ok rest := by
      rw [List.cons_append, List.append_assoc, List.singleton_append]
      exact skip_marks spelling rest
    exact skip_scalar_value (written_opens (.text spelling)) ⟨_, _, rfl, by decide⟩ outer blank skipped
  | @list entries body each layout ih =>
    have opens : ∀ entry ∈ entries, Opens entry.2 := fun entry present => written_opens (each entry present)
    have passes : ∀ entry ∈ entries, Passes .list entry.2 := by
      intro entry present outer before after blankBefore delimitedAfter
      rw [skipFrom]
      exact ih entry present (.list :: outer) before after blankBefore delimitedAfter
    rw [List.cons_append, skip_from_bracket .list (skip_space_gap_solid gap (body ++ rest) '[' blank (by decide))]
    exact skip_opened .list layout (List.forall_mem_map.mpr opens) (List.forall_mem_map.mpr passes) outer rest
  | @object entries body names each layout ih =>
    have opens : ∀ entry ∈ entries, Opens (entry.label ++ entry.text) :=
      fun entry present => opens_append (name_opens (names entry present)) _
    have passes : ∀ entry ∈ entries, Passes .object (entry.label ++ entry.text) := by
      intro entry present outer before after blankBefore delimitedAfter
      rw [List.append_assoc]
      obtain ⟨behind, blankBehind, named⟩ := skip_name_run (names entry present) before (entry.text ++ after) blankBefore
      rw [skip_from_name named]
      exact ih entry present (.object :: outer) behind after blankBehind delimitedAfter
    rw [List.cons_append, skip_from_bracket .object (skip_space_gap_solid gap (body ++ rest) '\x7b' blank (by decide))]
    exact skip_opened .object layout (List.forall_mem_map.mpr opens) (List.forall_mem_map.mpr passes) outer rest

theorem skip_gives {draft : Draft} {text : List Char} (written : draft.Written text) : skip.Gives text (.ok ()) := by
  intro rest delimited
  have skipped := skip_written written [] [] rest gap_nil delimited
  have closed : skipFrom .closed [] rest = .ok rest := by rw [skipFrom]
  rw [List.nil_append, closed] at skipped
  simp only [skip, Reader.ofSkip, Reading.Ends, skipped]

/-! What is passed over is a draft. -/

def Bracket.Holds : Bracket → List Char → Prop
  | .list => IsDraft
  | .object => IsMember

-- What the text between a value and the rest must be for all brackets around the value to be closed.
def Finishes : List Bracket → List Char → List Char → Prop
  | [], text, rest => text = rest
  | bracket :: outer, text, rest =>
    ∃ texts tail middle, (∀ taken ∈ texts, bracket.Holds taken) ∧ text = tail ++ middle ∧
      (∀ before first, Gap before → Layout bracket.enclosure.close (first :: texts) (before ++ (first ++ tail))) ∧
      Finishes outer middle rest

-- What is left to be read from a place on.
def Place.Remains : Place → List Bracket → List Char → List Char → Prop
  | .value, outer, text, rest =>
    ∃ gap taken middle, Gap gap ∧ IsDraft taken ∧ text = gap ++ (taken ++ middle) ∧ Finishes outer middle rest
  | .item bracket, outer, text, rest =>
    ∃ gap taken middle, Gap gap ∧ bracket.Holds taken ∧ text = gap ++ (taken ++ middle) ∧
      Finishes (bracket :: outer) middle rest
  | .opened bracket, outer, text, rest =>
    ∃ body middle, IsDraft (bracket.opening :: body) ∧ text = body ++ middle ∧ Finishes outer middle rest
  | .closed, outer, text, rest => Finishes outer text rest

theorem bracket_draft (bracket : Bracket) {texts : List (List Char)} {body : List Char}
    (holds : ∀ text ∈ texts, bracket.Holds text) (layout : Layout bracket.enclosure.close texts body) :
    IsDraft (bracket.opening :: body) := by
  cases bracket with
  | list => exact list_is_draft layout holds
  | object => exact object_is_draft layout holds

theorem item_draft (bracket : Bracket) {outer : List Bracket} {text rest : List Char}
    (remains : (Place.item bracket).Remains outer text rest) :
    ∃ body middle, IsDraft (bracket.opening :: body) ∧ text = body ++ middle ∧ Finishes outer middle rest := by
  obtain ⟨gap, taken, _, blank, held, rfl, texts, tail, middle, pieces, rfl, layout, finishes⟩ := remains
  refine ⟨gap ++ (taken ++ tail), middle, ?_, by simp only [List.append_assoc], finishes⟩
  exact bracket_draft bracket (List.forall_mem_cons.mpr ⟨held, pieces⟩) (layout gap taken blank)

theorem of_skip_ok {skipper : List Char → Except Fault (List Char)}
    (shortens : ∀ {text rest}, skipper text = .ok rest → rest.length < text.length) {text rest : List Char} {result : Unit}
    (read : (Reader.ofSkip skipper shortens).run text = .ok (result, rest)) : skipper text = .ok rest := by
  cases inner : skipper text with
  | error fault => simp [Reader.ofSkip, inner] at read
  | ok left =>
    simp only [Reader.ofSkip, inner, Except.ok.injEq, Prod.mk.injEq, true_and] at read
    rw [read]

theorem skip_name_split {text rest : List Char} (read : skipName.run text = .ok ((), rest)) :
    ∃ gap marks spelled before, Gap gap ∧ MarksSpelling marks spelled ∧ Gap before ∧
      text = gap ++ '"' :: (spelled ++ '"' :: (before ++ ':' :: rest)) := by
  obtain ⟨_, opened, quoted, behind⟩ := reader_bind_ok read
  obtain ⟨_, middle, literalRead, colonRead⟩ := reader_bind_ok behind
  obtain ⟨gap, blank, spaced⟩ := skip_space_split text
  have quote : skipSpace text = '"' :: opened := expect_ok quoted
  obtain ⟨marks, spelled, spelling, rfl⟩ := skip_text_split (of_skip_ok skipText_shortens literalRead)
  obtain ⟨before, blankBefore, spacedColon⟩ := skip_space_split middle
  have separated : skipSpace middle = ':' :: rest := expect_ok colonRead
  refine ⟨gap, marks, spelled, before, blank, spelling, blankBefore, ?_⟩
  rw [spaced, quote]
  rw [separated] at spacedColon
  exact congrArg (fun behind => gap ++ '"' :: (spelled ++ '"' :: behind)) spacedColon

theorem skip_from_remains (place : Place) (outer : List Bracket) (text rest : List Char)
    (read : skipFrom place outer text = .ok rest) : place.Remains outer text rest := by
  fun_induction skipFrom place outer text with
  | case1 outer text after spaced ih =>
    obtain ⟨gap, blank, same⟩ := skip_space_split text
    obtain ⟨body, middle, draft, rfl, finishes⟩ := ih read
    exact ⟨gap, '[' :: body, middle, blank, draft, by rw [same, spaced, List.cons_append], finishes⟩
  | case2 outer text after spaced ih =>
    obtain ⟨gap, blank, same⟩ := skip_space_split text
    obtain ⟨body, middle, draft, rfl, finishes⟩ := ih read
    exact ⟨gap, '\x7b' :: body, middle, blank, draft, by rw [same, spaced, List.cons_append], finishes⟩
  | case3 => cases read
  | case4 outer text after _ _ plain ih =>
    obtain ⟨gap, blank, same⟩ := skip_space_split text
    obtain ⟨taken, draft, behind⟩ := skip_scalar_split plain
    exact ⟨gap, taken, after, blank, draft, behind ▸ same, ih read⟩
  | case5 outer text ih => exact ih read
  | case6 => cases read
  | case7 outer text _ after named ih =>
    obtain ⟨gap, marks, spelled, before, blank, spelling, blankBefore, rfl⟩ := skip_name_split named
    obtain ⟨lead, taken, middle, blankLead, ⟨draft, written⟩, rfl, finishes⟩ := ih read
    refine ⟨gap, '"' :: (spelled ++ '"' :: (before ++ ':' :: lead)) ++ taken, middle, blank, ?_, ?_, finishes⟩
    · exact ⟨⟨marks, _, draft, taken⟩, ⟨spelled, _, spelling, ⟨before, lead, blankBefore, blankLead, rfl⟩, rfl⟩, written, rfl⟩
    · simp only [List.cons_append, List.append_assoc]
  | case8 => cases read
  | case9 outer text bracket after spaced ih =>
    obtain ⟨gap, blank, same⟩ := skip_space_split text
    have noItems : ∀ text ∈ ([] : List (List Char)), bracket.Holds text := List.forall_mem_nil _
    refine ⟨gap ++ [bracket.enclosure.close], after, bracket_draft bracket noItems (.empty blank), ?_, ih read⟩
    rw [same, spaced, List.append_assoc, List.singleton_append]
  | case10 outer text bracket c after spaced _ ih =>
    obtain ⟨gap, blank, same⟩ := skip_space_split text
    obtain ⟨lead, taken, middle, blankLead, held, behind, finishes⟩ := ih read
    apply item_draft
    refine ⟨gap ++ lead, taken, middle, gap_append blank blankLead, held, ?_, finishes⟩
    rw [same, spaced, behind, List.append_assoc]
  | case11 text =>
    cases read
    rfl
  | case12 => cases read
  | case13 text bracket outer after spaced ih =>
    obtain ⟨gap, blank, same⟩ := skip_space_split text
    obtain ⟨lead, taken, _, blankLead, held, rfl, texts, tail, middle, pieces, rfl, layout, finishes⟩ := ih read
    refine ⟨taken :: texts, gap ++ ',' :: (lead ++ (taken ++ tail)), middle, ?_, ?_, ?_, finishes⟩
    · exact List.forall_mem_cons.mpr ⟨held, pieces⟩
    · rw [same, spaced]
      simp only [List.append_assoc, List.cons_append]
    · intro before first blankBefore
      exact .more blankBefore blank (layout lead taken blankLead)
  | case14 text bracket outer after spaced _ ih =>
    obtain ⟨gap, blank, same⟩ := skip_space_split text
    refine ⟨[], gap ++ [bracket.enclosure.close], after, List.forall_mem_nil _, ?_, ?_, ih read⟩
    · rw [same, spaced, List.append_assoc, List.singleton_append]
    · intro before first blankBefore
      exact .last blankBefore blank
  | case15 => cases read

theorem skip_takes : skip.Takes IsDraft := by
  intro text result rest read
  have passed := of_skip_ok (fun read => (skipFrom_length read).2 rfl) read
  obtain ⟨gap, taken, middle, blank, draft, same, rfl⟩ := skip_from_remains .value [] text rest passed
  exact ⟨gap, taken, blank, draft, same⟩

end NodeProbe.Json
