import NodeProbe.Proofs.Json.Skipping

set_option autoImplicit false

namespace NodeProbe.Json

/-! Numbers -/

theorem runs_same {first second before after : List Char} (digitsFirst : ∀ c ∈ first, c.isDigit = true)
    (digitsSecond : ∀ c ∈ second, c.isDigit = true) (apartBefore : NoDigit before) (apartAfter : NoDigit after)
    (same : first ++ before = second ++ after) : first = second ∧ before = after := by
  have behind : before = after := by
    rw [← skip_digits_run first before digitsFirst apartBefore, same, skip_digits_run second after digitsSecond apartAfter]
  subst behind
  exact ⟨List.append_cancel_right same, rfl⟩

theorem run_not_sign {run rest : List Char} {sign : Char} (digits : DigitRun run) (other : sign.isDigit = false) :
    run ≠ sign :: rest := by
  rintro rfl
  rw [digits.2 sign List.mem_cons_self] at other
  cases other

theorem exponent_once (first second : Exponent) (same : first.text = second.text) : first = second := by
  obtain ⟨letter, sign, digits, lettered, signed, run⟩ := first
  obtain ⟨otherLetter, otherSign, otherDigits, otherLettered, otherSigned, otherRun⟩ := second
  obtain ⟨rfl, behind⟩ := List.cons.inj same
  rcases signed with rfl | rfl | rfl <;> rcases otherSigned with rfl | rfl | rfl
  · cases (behind : digits = otherDigits)
    rfl
  · exact absurd behind (run_not_sign run rfl)
  · exact absurd behind (run_not_sign run rfl)
  · exact absurd behind.symm (run_not_sign otherRun rfl)
  · cases (List.cons.inj behind).2
    rfl
  · exact absurd (List.cons.inj behind).1 (by decide)
  · exact absurd behind.symm (run_not_sign otherRun rfl)
  · exact absurd (List.cons.inj behind).1 (by decide)
  · cases (List.cons.inj behind).2
    rfl

theorem exponents_once (first second : Option Exponent) (same : exponentText first = exponentText second) :
    first = second := by
  cases first with
  | none =>
    cases second with
    | none => rfl
    | some exponent => cases same
  | some exponent =>
    cases second with
    | none => cases same
    | some other => exact congrArg some (exponent_once exponent other same)

theorem point_not_letter (exponent : Exponent) {rest text : List Char} : '.' :: rest ≠ exponent.text ++ text := by
  intro same
  have letter := (List.cons.inj same).1
  rcases exponent.lettered with lower | upper
  · exact absurd (letter.trans lower) (by decide)
  · exact absurd (letter.trans upper) (by decide)

theorem tails_once (first second : Option (List Char)) (exponent other : Option Exponent)
    (digitsFirst : ∀ run ∈ first, DigitRun run) (digitsSecond : ∀ run ∈ second, DigitRun run)
    (same : fractionText first ++ exponentText exponent = fractionText second ++ exponentText other) :
    first = second ∧ exponent = other := by
  have pointed : ∀ (run : List Char) (last final : Option Exponent),
      fractionText (some run) ++ exponentText last ≠ exponentText final := by
    rintro run last (_ | final) same
    · cases same
    · exact point_not_letter final (same.trans (List.append_nil _).symm)
  cases first with
  | none =>
    cases second with
    | none => exact ⟨rfl, exponents_once exponent other same⟩
    | some run => exact absurd same.symm (pointed run other exponent)
  | some run =>
    cases second with
    | none => exact absurd same (pointed run exponent other)
    | some own =>
      have apart : ∀ last, NoDigit (exponentText last) := by
        intro last
        have behind := exponent_no_digit last [] no_digit_nil
        rwa [List.append_nil] at behind
      obtain ⟨rfl, behind⟩ := runs_same (digitsFirst run rfl).2 (digitsSecond own rfl).2 (apart exponent) (apart other)
        (List.cons.inj same).2
      exact ⟨rfl, exponents_once exponent other behind⟩

theorem unsigned_no_sign (numeral : Numeral) {rest : List Char} : numeral.unsigned ≠ '-' :: rest := by
  obtain ⟨first, behind, opened, digit⟩ := unsigned_first numeral
  intro signed
  rw [opened] at signed
  rw [(List.cons.inj signed).1] at digit
  cases digit

theorem unsigned_once (first second : Numeral) (same : first.unsigned = second.unsigned) :
    first.whole = second.whole ∧ first.fraction = second.fraction ∧ first.exponent = second.exponent := by
  have apart : ∀ numeral : Numeral, NoDigit (fractionText numeral.fraction ++ exponentText numeral.exponent) := by
    intro numeral
    refine fraction_no_digit _ _ ?_
    have behind := exponent_no_digit numeral.exponent [] no_digit_nil
    rwa [List.append_nil] at behind
  obtain ⟨whole, behind⟩ := runs_same first.wholeRun.2 second.wholeRun.2 (apart first) (apart second) same
  exact ⟨whole, tails_once _ _ _ _ first.fractionRun second.fractionRun behind⟩

theorem numeral_once (first second : Numeral) (same : first.text = second.text) : first = second := by
  have parts : first.negative = second.negative ∧ first.unsigned = second.unsigned := by
    unfold Numeral.text at same
    cases signFirst : first.negative <;> cases signSecond : second.negative <;> rw [signFirst, signSecond] at same
    · exact ⟨rfl, same⟩
    · exact absurd same (unsigned_no_sign first)
    · exact absurd same.symm (unsigned_no_sign second)
    · exact ⟨rfl, (List.cons.inj same).2⟩
  obtain ⟨whole, fraction, exponent⟩ := unsigned_once first second parts.2
  obtain ⟨sign, run, point, power, _, _, _⟩ := first
  obtain ⟨otherSign, otherRun, otherPoint, otherPower, _, _, _⟩ := second
  obtain ⟨rfl, _⟩ := parts
  cases whole
  cases fraction
  cases exponent
  rfl

/-! Texts and names -/

theorem unit_once {first second : Nat} {text other before after : List Char} (spelledFirst : UnitSpelling first text)
    (spelledSecond : UnitSpelling second other) (same : text ++ before = other ++ after) :
    first = second ∧ before = after := by
  have read := hex_unit_spelling spelledFirst before
  rw [same, hex_unit_spelling spelledSecond after] at read
  obtain ⟨rfl, rfl⟩ := Prod.mk.inj (Except.ok.inj read)
  exact ⟨rfl, rfl⟩

theorem short_once {letter first second : Char} (shortFirst : (letter, first) ∈ shortEscapes)
    (shortSecond : (letter, second) ∈ shortEscapes) : first = second := by
  have read := escape_short letter first shortFirst []
  rw [escape_short letter second shortSecond []] at read
  exact (Prod.mk.inj (Except.ok.inj read)).1.symm

theorem mark_once {first second : Mark} {text other before after : List Char} (spelledFirst : MarkSpelling first text)
    (spelledSecond : MarkSpelling second other) (same : text ++ before = other ++ after) :
    first = second ∧ before = after := by
  cases spelledFirst with
  | @plain c _ noEscape _ =>
    cases spelledSecond with
    | plain =>
      obtain ⟨rfl, rfl⟩ := List.cons.inj same
      exact ⟨rfl, rfl⟩
    | short => exact absurd (List.cons.inj same).1 noEscape
    | unit => exact absurd (List.cons.inj same).1 noEscape
  | short shortFirst =>
    cases spelledSecond with
    | plain _ noEscape _ => exact absurd (List.cons.inj same).1.symm noEscape
    | short shortSecond =>
      obtain ⟨rfl, rfl⟩ := List.cons.inj (List.cons.inj same).2
      exact ⟨congrArg Mark.char (short_once shortFirst shortSecond), rfl⟩
    | unit => exact absurd (List.cons.inj (List.cons.inj same).2).1 (short_escape_letter _ _ shortFirst)
  | unit spelledUnit =>
    cases spelledSecond with
    | plain _ noEscape _ => exact absurd (List.cons.inj same).1.symm noEscape
    | short shortSecond => exact absurd (List.cons.inj (List.cons.inj same).2).1.symm (short_escape_letter _ _ shortSecond)
    | unit spelledOther =>
      obtain ⟨rfl, rfl⟩ := unit_once spelledUnit spelledOther (List.cons.inj (List.cons.inj same).2).2
      exact ⟨rfl, rfl⟩

theorem mark_no_quote {mark : Mark} {spelled rest text : List Char} (spelling : MarkSpelling mark spelled) :
    spelled ++ text ≠ '"' :: rest := by
  cases spelling with
  | plain noQuote _ _ => exact fun same => noQuote (List.cons.inj same).1
  | short => exact fun same => absurd (List.cons.inj same).1 (by decide)
  | unit => exact fun same => absurd (List.cons.inj same).1 (by decide)

theorem marks_once {first second : List Mark} {text other before after : List Char} (spelledFirst : MarksSpelling first text)
    (spelledSecond : MarksSpelling second other) (same : text ++ '"' :: before = other ++ '"' :: after) :
    first = second ∧ before = after := by
  induction spelledFirst generalizing second other with
  | nil =>
    cases spelledSecond with
    | nil => exact ⟨rfl, (List.cons.inj same).2⟩
    | cons spelled _ => exact absurd (same.symm.trans rfl) (List.append_assoc _ _ _ ▸ mark_no_quote spelled)
  | cons spelled _ ih =>
    cases spelledSecond with
    | nil => exact absurd same (List.append_assoc _ _ _ ▸ mark_no_quote spelled)
    | cons spelledOther others =>
      rw [List.append_assoc, List.append_assoc] at same
      obtain ⟨rfl, behind⟩ := mark_once spelled spelledOther same
      obtain ⟨rfl, rest⟩ := ih others behind
      exact ⟨rfl, rest⟩

/-! Items between brackets -/

-- Two such pieces with the same text in front of them and behind are the same.
def Determined (piece : List Char → Prop) : Prop :=
  ∀ {first second before after : List Char}, piece first → piece second → Delimited before → Delimited after →
    first ++ before = second ++ after → first = second ∧ before = after

theorem draft_determined : Determined IsDraft := by
  rintro first second before after ⟨_, writtenFirst⟩ ⟨_, writtenSecond⟩ delimitedBefore delimitedAfter same
  have skippedFirst : skip.run (first ++ before) = .ok ((), before) := skip_gives writtenFirst before delimitedBefore
  have skippedSecond : skip.run (second ++ after) = .ok ((), after) := skip_gives writtenSecond after delimitedAfter
  rw [same, skippedSecond] at skippedFirst
  obtain rfl : after = before := (Prod.mk.inj (Except.ok.inj skippedFirst)).2
  exact ⟨List.append_cancel_right same, rfl⟩

theorem separators_same {first second before after : List Char} (separatesFirst : Separator first)
    (separatesSecond : Separator second) (opensBefore : Opens before) (opensAfter : Opens after)
    (same : first ++ before = second ++ after) : before = after := by
  have passed : ∀ {separator text : List Char}, Separator separator → Opens text →
      skipSpace (skipSpace (separator ++ text)).tail = text := by
    rintro _ text ⟨front, back, blankFront, blankBack, rfl⟩ opens
    have colon := skip_space_gap_solid front (back ++ text) ':' blankFront rfl
    have value := skip_space_gap_opens blankBack opens []
    rw [List.append_nil] at value
    rw [List.append_assoc, List.cons_append, colon, List.tail_cons, value]
  rw [← passed separatesFirst opensBefore, same, passed separatesSecond opensAfter]

theorem names_once {first second : List Mark} {label other before after : List Char} (spelledFirst : NameSpelling first label)
    (spelledSecond : NameSpelling second other) (opensBefore : Opens before) (opensAfter : Opens after)
    (same : label ++ before = other ++ after) : first = second ∧ before = after := by
  obtain ⟨spelled, separator, marks, separates, rfl⟩ := spelledFirst
  obtain ⟨spelledOther, separatorOther, marksOther, separatesOther, rfl⟩ := spelledSecond
  simp only [List.cons_append, List.append_assoc, List.cons.injEq, true_and] at same
  obtain ⟨rfl, behind⟩ := marks_once marks marksOther same
  exact ⟨rfl, separators_same separates separatesOther opensBefore opensAfter behind⟩

theorem member_opens {text : List Char} (member : IsMember text) : Opens text := by
  obtain ⟨_, named, _, rfl⟩ := member
  exact opens_append (name_opens named) _

theorem member_determined : Determined IsMember := by
  rintro first second before after ⟨own, named, written, rfl⟩ ⟨other, otherNamed, otherWritten, rfl⟩
    delimitedBefore delimitedAfter same
  have whole := same
  rw [List.append_assoc, List.append_assoc] at same
  obtain ⟨_, behind⟩ := names_once named otherNamed (opens_append (written_opens written) before)
    (opens_append (written_opens otherWritten) after) same
  obtain ⟨_, rfl⟩ := draft_determined ⟨_, written⟩ ⟨_, otherWritten⟩ delimitedBefore delimitedAfter behind
  exact ⟨List.append_cancel_right whole, rfl⟩

section Items

variable {piece : List Char → Prop} (bracket : Bracket) {text : List Char} {texts : List (List Char)} {body : List Char}

theorem layout_end (layout : Layout bracket.enclosure.close [] body) : skipSpace body = [bracket.enclosure.close] := by
  cases layout with
  | empty blank => exact skip_space_gap_solid _ [] _ blank (close_solid bracket)

theorem layout_behind (opens : Opens text) (layout : Layout bracket.enclosure.close (text :: texts) body) :
    ∃ tail, skipSpace body = text ++ tail ∧ Delimited tail ∧
      ((texts = [] ∧ skipSpace tail = [bracket.enclosure.close]) ∨
        ∃ later, texts ≠ [] ∧ skipSpace tail = ',' :: later ∧ Layout bracket.enclosure.close texts later) := by
  cases layout with
  | @last before _ after blankBefore blankAfter =>
    have delimited := delimited_gap after _ blankAfter (close_delimits bracket [])
    refine ⟨after ++ [bracket.enclosure.close], ?_, delimited, .inl ⟨rfl, ?_⟩⟩
    · exact skip_space_gap_opens blankBefore opens _
    · exact skip_space_gap_solid after [] _ blankAfter (close_solid bracket)
  | @more before _ after second later others blankBefore blankAfter layout =>
    have delimited := delimited_gap after _ blankAfter (comma_delimits later)
    refine ⟨after ++ ',' :: later, ?_, delimited, .inr ⟨later, ?_, ?_, layout⟩⟩
    · exact skip_space_gap_opens blankBefore opens _
    · exact List.cons_ne_nil second others
    · exact skip_space_gap_solid after later ',' blankAfter rfl

theorem layout_once (opens : ∀ text, piece text → Opens text) (determined : Determined piece) {first second : List (List Char)}
    (layoutFirst : Layout bracket.enclosure.close first body) (layoutSecond : Layout bracket.enclosure.close second body)
    (piecesFirst : ∀ text ∈ first, piece text) (piecesSecond : ∀ text ∈ second, piece text) : first = second := by
  have ended : ∀ {text texts body}, piece text → Layout bracket.enclosure.close (text :: texts) body →
      ¬ Layout bracket.enclosure.close [] body := by
    intro text texts body held layout empty
    obtain ⟨tail, spaced, _⟩ := layout_behind bracket (opens text held) layout
    rw [layout_end bracket empty] at spaced
    obtain ⟨c, rest, rfl, _, notList, notObject⟩ := opens text held
    have close : bracket.enclosure.close = c := (List.cons.inj spaced).1
    cases bracket with
    | list => exact notList close.symm
    | object => exact notObject close.symm
  induction first generalizing second body with
  | nil =>
    cases second with
    | nil => rfl
    | cons text texts => exact absurd layoutFirst (ended (piecesSecond text List.mem_cons_self) layoutSecond)
  | cons text texts ih =>
    obtain ⟨held, others⟩ := List.forall_mem_cons.mp piecesFirst
    cases second with
    | nil => exact absurd layoutSecond (ended held layoutFirst)
    | cons other rest =>
      obtain ⟨heldOther, othersOther⟩ := List.forall_mem_cons.mp piecesSecond
      obtain ⟨tail, spaced, delimited, behind⟩ := layout_behind bracket (opens text held) layoutFirst
      obtain ⟨tailOther, spacedOther, delimitedOther, behindOther⟩ := layout_behind bracket (opens other heldOther) layoutSecond
      obtain ⟨rfl, rfl⟩ := determined held heldOther delimited delimitedOther (spaced.symm.trans spacedOther)
      rcases behind with ⟨rfl, closed⟩ | ⟨later, _, comma, layout⟩
      · rcases behindOther with ⟨rfl, _⟩ | ⟨later, _, comma, _⟩
        · rfl
        · rw [closed] at comma
          exact absurd (List.cons.inj comma).1.symm (comma_not_close bracket)
      · rcases behindOther with ⟨rfl, closed⟩ | ⟨laterOther, _, commaOther, layoutOther⟩
        · rw [closed] at comma
          exact absurd (List.cons.inj comma).1.symm (comma_not_close bracket)
        · rw [comma] at commaOther
          obtain rfl := (List.cons.inj commaOther).2
          rw [ih layout layoutOther others othersOther]

end Items

/-! Whole drafts -/

theorem same_kind {first second : Draft} {text : List Char} (writtenFirst : first.Written text)
    (writtenSecond : second.Written text) : first.kind = second.kind :=
  Option.some.inj ((written_kind writtenFirst).symm.trans (written_kind writtenSecond))

theorem listed_once {entries others : List (Draft × List Char)} (texts : entries.map Prod.snd = others.map Prod.snd)
    (once : ∀ entry ∈ entries, ∀ other : Draft, other.Written entry.2 → entry.1 = other)
    (written : ∀ other ∈ others, Draft.Written other.1 other.2) : entries.map Prod.fst = others.map Prod.fst := by
  induction entries generalizing others with
  | nil =>
    cases others with
    | nil => rfl
    | cons => cases texts
  | cons entry entries ih =>
    cases others with
    | nil => cases texts
    | cons other others =>
      obtain ⟨here, later⟩ := List.cons.inj texts
      obtain ⟨first, rest⟩ := List.forall_mem_cons.mp once
      obtain ⟨writtenHere, writtenLater⟩ := List.forall_mem_cons.mp written
      rw [List.map_cons, List.map_cons, first other.1 (here ▸ writtenHere), ih later rest writtenLater]

theorem members_once {entries others : List DraftMember}
    (texts : (entries.map fun entry => entry.label ++ entry.text) = others.map fun entry => entry.label ++ entry.text)
    (named : ∀ entry ∈ entries, NameSpelling entry.marks entry.label)
    (namedOthers : ∀ other ∈ others, NameSpelling other.marks other.label)
    (opens : ∀ entry ∈ entries, Opens entry.text)
    (once : ∀ entry ∈ entries, ∀ other : Draft, other.Written entry.text → entry.draft = other)
    (written : ∀ other ∈ others, other.draft.Written other.text) :
    (entries.map fun entry => (entry.marks, entry.draft)) = others.map fun entry => (entry.marks, entry.draft) := by
  induction entries generalizing others with
  | nil =>
    cases others with
    | nil => rfl
    | cons => cases texts
  | cons entry entries ih =>
    cases others with
    | nil => cases texts
    | cons other others =>
      obtain ⟨here, later⟩ := List.cons.inj texts
      obtain ⟨own, namedRest⟩ := List.forall_mem_cons.mp named
      obtain ⟨ownOther, namedRestOthers⟩ := List.forall_mem_cons.mp namedOthers
      obtain ⟨open_, opensRest⟩ := List.forall_mem_cons.mp opens
      obtain ⟨first, rest⟩ := List.forall_mem_cons.mp once
      obtain ⟨writtenHere, writtenLater⟩ := List.forall_mem_cons.mp written
      obtain ⟨marks, text⟩ := names_once own ownOther open_ (written_opens writtenHere) here
      rw [List.map_cons, List.map_cons, marks, first other.draft (text ▸ writtenHere),
        ih later namedRest namedRestOthers opensRest rest writtenLater]

theorem written_once {first : Draft} {text : List Char} (writtenFirst : first.Written text) (second : Draft)
    (writtenSecond : second.Written text) : first = second := by
  have kinds := same_kind writtenFirst writtenSecond
  induction writtenFirst generalizing second with
  | null =>
    cases second with
    | null => rfl
    | _ => cases kinds
  | boolean truth =>
    cases second with
    | boolean other =>
      generalize same : writeBoolean truth = text at writtenSecond
      cases writtenSecond
      cases truth <;> cases other <;> first | rfl | cases same
    | _ => cases kinds
  | number numeral =>
    cases second with
    | number other =>
      generalize same : numeral.text = text at writtenSecond
      cases writtenSecond
      rw [numeral_once numeral other same]
    | _ => cases kinds
  | @text marks spelled spelling =>
    cases second with
    | text other =>
      generalize same : '"' :: (spelled ++ ['"']) = text at writtenSecond
      cases writtenSecond with
      | text spellingOther => rw [(marks_once spelling spellingOther (List.cons.inj same).2).1]
    | _ => cases kinds
  | @list entries body each layout ih =>
    cases second with
    | list items =>
      generalize same : '[' :: body = text at writtenSecond
      cases writtenSecond with
      | @list others _ eachOther layoutOther =>
        cases same
        have drafts : ∀ {entries : List (Draft × List Char)}, (∀ entry ∈ entries, entry.1.Written entry.2) →
            ∀ text ∈ entries.map Prod.snd, IsDraft text :=
          fun written => List.forall_mem_map.mpr fun entry present => ⟨entry.1, written entry present⟩
        have texts := layout_once .list (fun _ ⟨_, written⟩ => written_opens written) draft_determined layout layoutOther
          (drafts each) (drafts eachOther)
        have once : ∀ entry ∈ entries, ∀ other : Draft, other.Written entry.2 → entry.1 = other :=
          fun entry present other written => ih entry present other written (same_kind (each entry present) written)
        exact congrArg Draft.list (listed_once texts once eachOther)
    | _ => cases kinds
  | @object entries body named each layout ih =>
    cases second with
    | object members =>
      generalize same : '\x7b' :: body = text at writtenSecond
      cases writtenSecond with
      | @object others _ namedOther eachOther layoutOther =>
        cases same
        have members : ∀ {entries : List DraftMember}, (∀ entry ∈ entries, NameSpelling entry.marks entry.label) →
            (∀ entry ∈ entries, entry.draft.Written entry.text) →
            ∀ text ∈ entries.map (fun entry => entry.label ++ entry.text), IsMember text := by
          intro entries named written
          exact List.forall_mem_map.mpr fun entry present => ⟨entry, named entry present, written entry present, rfl⟩
        have texts := layout_once .object (fun _ => member_opens) member_determined layout layoutOther
          (members named each) (members namedOther eachOther)
        have once : ∀ entry ∈ entries, ∀ other : Draft, other.Written entry.text → entry.draft = other :=
          fun entry present other written => ih entry present other written (same_kind (each entry present) written)
        exact congrArg Draft.object (members_once texts named namedOther
          (fun entry present => written_opens (each entry present)) once eachOther)
    | _ => cases kinds

theorem writes_once {first second : Draft} {text : List Char} (writesFirst : first.Writes text)
    (writesSecond : second.Writes text) : first = second := by
  obtain ⟨before, spelled, after, blankBefore, blankAfter, written, rfl⟩ := writesFirst
  obtain ⟨beforeOther, spelledOther, afterOther, blankBeforeOther, blankAfterOther, writtenOther, same⟩ := writesSecond
  have texts : spelled ++ after = spelledOther ++ afterOther := by
    rw [← skip_space_gap_opens blankBefore (written_opens written), same,
      skip_space_gap_opens blankBeforeOther (written_opens writtenOther)]
  have ended : ∀ {gap : List Char}, Gap gap → Delimited gap :=
    fun {gap} blank => List.append_nil gap ▸ delimited_gap gap [] blank delimited_nil
  obtain ⟨rfl, _⟩ := draft_determined ⟨first, written⟩ ⟨second, writtenOther⟩ (ended blankAfter) (ended blankAfterOther) texts
  exact written_once written second writtenOther

end NodeProbe.Json
