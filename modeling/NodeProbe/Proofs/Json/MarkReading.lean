import NodeProbe.Proofs.Json.Draft

set_option autoImplicit false

namespace NodeProbe.Json

def readMarks : List Mark → Except Cause (List Char)
  | [] => .ok []
  | .char c :: marks => (readMarks marks).map (c :: ·)
  | .unit unit :: marks =>
    if isTrailing unit then .error .loneSurrogate
    else if isLeading unit then
      match marks with
      | .unit second :: marks =>
        if isTrailing second then (readMarks marks).map (pairChar unit second :: ·) else .error .loneSurrogate
      | _ => .error .unfinishedSurrogate
    else (readMarks marks).map (Char.ofNat unit :: ·)

theorem except_map_ok {α β : Type} {f : α → β} {result : Except Cause α} {value : β} (mapped : result.map f = .ok value) :
    ∃ inner, result = .ok inner ∧ f inner = value := by
  cases result with
  | error cause => cases mapped
  | ok inner => exact ⟨inner, rfl, Except.ok.inj mapped⟩

theorem read_marks_resolves (marks : List Mark) (chars : List Char) (read : readMarks marks = .ok chars) :
    Resolves marks chars := by
  fun_induction readMarks marks generalizing chars with
  | case1 =>
    cases read
    exact .nil
  | case2 c marks ih =>
    obtain ⟨inner, here, rfl⟩ := except_map_ok read
    exact .char c (ih inner here)
  | case3 => cases read
  | case4 unit notTrailing leading second marks trailing ih =>
    obtain ⟨inner, here, rfl⟩ := except_map_ok read
    exact .pair leading trailing (ih inner here)
  | case5 => cases read
  | case6 => cases read
  | case7 unit marks notTrailing notLeading ih =>
    obtain ⟨inner, here, rfl⟩ := except_map_ok read
    exact .unit notTrailing notLeading (ih inner here)

theorem resolves_read_marks {marks : List Mark} {chars : List Char} (resolves : Resolves marks chars) :
    readMarks marks = .ok chars := by
  induction resolves with
  | nil => rfl
  | char c _ ih =>
    rw [readMarks, ih]
    rfl
  | @unit unit marks chars notTrailing notLeading _ ih =>
    have single : readMarks (.unit unit :: marks) = (readMarks marks).map (Char.ofNat unit :: ·) := by
      rw [readMarks.eq_def]
      dsimp only
      rw [if_neg notTrailing, if_neg notLeading]
    rw [single, ih]
    rfl
  | pair leading trailing _ ih =>
    rw [readMarks, if_neg (leading_not_trailing _ leading), if_pos leading, if_pos trailing, ih]
    rfl

theorem resolves_once {marks : List Mark} {first second : List Char} (resolvesFirst : Resolves marks first)
    (resolvesSecond : Resolves marks second) : first = second :=
  Except.ok.inj ((resolves_read_marks resolvesFirst).symm.trans (resolves_read_marks resolvesSecond))

theorem name_once {marks : List Mark} {first second : String} (resolvesFirst : Resolves marks first.toList)
    (resolvesSecond : Resolves marks second.toList) : first = second :=
  String.toList_inj.mp (resolves_once resolvesFirst resolvesSecond)

theorem text_body_escape (before text : List Char) :
    textBody before ('\\' :: text) =
      match escape text with
      | .error fault => .error fault
      | .ok (value, after) => textBody (value :: before) after := by
  rw [textBody, if_neg (by decide), if_pos rfl]
  split <;> simp_all

theorem escape_lone_trailing {unit : Nat} {text : List Char} (spelled : UnitSpelling unit text) (trailing : isTrailing unit)
    (rest : List Char) : escape ('u' :: (text ++ rest)) = .error (.before .loneSurrogate rest) := by
  rw [escape_unit, hex_unit_spelling spelled]
  exact if_pos trailing

theorem escape_leading {unit : Nat} {text : List Char} (spelled : UnitSpelling unit text) (leading : isLeading unit)
    (rest : List Char) : escape ('u' :: (text ++ rest)) = trailingUnit unit rest := by
  rw [escape_unit, hex_unit_spelling spelled]
  dsimp only
  rw [if_neg (leading_not_trailing unit leading), if_pos leading]

theorem trailing_unit_other {leading second : Nat} {text : List Char} (spelled : UnitSpelling second text)
    (other : ¬ isTrailing second) (rest : List Char) :
    trailingUnit leading ('\\' :: 'u' :: (text ++ rest)) = .error (.before .loneSurrogate rest) := by
  rw [trailingUnit, hex_unit_spelling spelled]
  exact if_neg other

theorem short_escape_letter (letter c : Char) (short : (letter, c) ∈ shortEscapes) : letter ≠ 'u' := by
  rintro rfl
  revert short
  simp [shortEscapes]

theorem trailing_unit_missing (leading : Nat) {marks : List Mark} {text : List Char} (spelled : MarksSpelling marks text)
    (alone : ∀ second others, marks = .unit second :: others → False) (rest : List Char) :
    ∃ unread, trailingUnit leading (text ++ '"' :: rest) = .error ⟨.unfinishedSurrogate, unread⟩ := by
  cases spelled with
  | nil => exact ⟨_, rfl⟩
  | cons spelledMark =>
    cases spelledMark with
    | @plain c _ notBackslash _ =>
      unfold trailingUnit
      split <;> simp_all [Fault.within]
    | @short letter c short =>
      have notUnit := short_escape_letter letter c short
      unfold trailingUnit
      split <;> simp_all [Fault.within]
    | unit => exact (alone _ _ rfl).elim

theorem text_body_char {c : Char} {spelled others before rest : List Char} {result : Except Cause (List Char)}
    (spelling : CharSpelling c spelled)
    (ends : (textBody (c :: before) (others ++ '"' :: rest)).Ends rest
      (result.map fun chars => String.ofList ((c :: before).reverse ++ chars))) :
    (textBody before (spelled ++ (others ++ '"' :: rest))).Ends rest
      ((result.map (c :: ·)).map fun chars => String.ofList (before.reverse ++ chars)) := by
  rw [char_spelling_read spelling]
  cases result with
  | error cause => exact ends
  | ok chars =>
    simp only [Except.map, List.reverse_cons, List.append_assoc, List.singleton_append] at ends ⊢
    exact ends

theorem text_body_marks {marks : List Mark} {text : List Char} (spelled : MarksSpelling marks text)
    (before rest : List Char) :
    (textBody before (text ++ '"' :: rest)).Ends rest
      ((readMarks marks).map fun chars => String.ofList (before.reverse ++ chars)) := by
  -- The cases of `readMarks`: the reader too looks one mark ahead behind the first half of a pair.
  fun_induction readMarks marks generalizing text before with
  | case1 =>
    cases spelled
    rw [List.nil_append, textBody, if_pos rfl]
    simp only [Except.map, List.append_nil, Reading.Ends]
  | case2 c marks ih =>
    cases spelled with
    | cons spelledMark others =>
      rw [List.append_assoc]
      cases spelledMark with
      | plain notQuote notBackslash visible =>
        exact text_body_char (.plain notQuote notBackslash visible) (ih others (c :: before))
      | short short => exact text_body_char (.short short) (ih others (c :: before))
  | case3 unit marks trailing =>
    cases spelled with
    | cons spelledMark others =>
      cases spelledMark with
      | unit spelledUnit =>
        rw [List.cons_append, List.cons_append, List.cons_append, List.cons_append, List.append_assoc, text_body_escape,
          escape_lone_trailing spelledUnit trailing]
        exact ⟨_, rfl⟩
  | case4 unit notTrailing leading second marks trailing ih =>
    cases spelled with
    | cons spelledMark spelledRest =>
      cases spelledRest with
      | cons spelledSecond others =>
        cases spelledMark with
        | @unit _ first spelledUnit =>
          cases spelledSecond with
          | @unit _ last spelledLast =>
            have both := text_body_char (.pair spelledUnit spelledLast leading trailing) (ih others (pairChar unit second :: before))
            simp only [List.append_assoc, List.cons_append] at both ⊢
            exact both
  | case5 unit notTrailing leading second marks notPair =>
    cases spelled with
    | cons spelledMark spelledRest =>
      cases spelledRest with
      | cons spelledSecond others =>
        cases spelledMark with
        | @unit _ first spelledUnit =>
          cases spelledSecond with
          | @unit _ last spelledLast =>
            simp only [List.append_assoc, List.cons_append]
            rw [text_body_escape, escape_leading spelledUnit leading, trailing_unit_other spelledLast notPair]
            exact ⟨_, rfl⟩
  | case6 unit marks notTrailing leading alone =>
    cases spelled with
    | cons spelledMark others =>
      cases spelledMark with
      | unit spelledUnit =>
        obtain ⟨unread, refused⟩ := trailing_unit_missing unit others alone rest
        simp only [List.append_assoc, List.cons_append]
        rw [text_body_escape, escape_leading spelledUnit leading, refused]
        exact ⟨_, rfl⟩
  | case7 unit marks notTrailing notLeading ih =>
    cases spelled with
    | cons spelledMark others =>
      cases spelledMark with
      | unit spelledUnit =>
        rw [List.append_assoc]
        exact text_body_char (.unit spelledUnit notTrailing notLeading) (ih others (Char.ofNat unit :: before))

theorem text_literal_marks {marks : List Mark} {text : List Char} (spelled : MarksSpelling marks text) (rest : List Char) :
    (textLiteral.run (text ++ '"' :: rest)).Ends rest ((readMarks marks).map String.ofList) :=
  text_body_marks spelled [] rest

/-! Text that needs no escapes -/

def needsNoEscape (c : Char) : Bool := c ≠ '"' ∧ c ≠ '\\' ∧ ¬ c.toNat < 32

theorem plain_resolves (chars : List Char) : Resolves (chars.map Mark.char) chars := by
  induction chars with
  | nil => exact .nil
  | cons c rest ih => exact .char c ih

theorem plain_marks (chars : List Char) (plain : chars.all needsNoEscape = true) :
    MarksSpelling (chars.map Mark.char) chars := by
  induction chars with
  | nil => exact .nil
  | cons c rest ih =>
    rw [List.all_cons, Bool.and_eq_true] at plain
    obtain ⟨notQuote, notBackslash, visible⟩ := of_decide_eq_true plain.1
    exact .cons (.plain notQuote notBackslash visible) (ih plain.2)

def DraftMember.plain (name : List Char) (draft : Draft) (text : List Char) : DraftMember :=
  ⟨name.map Mark.char, '"' :: (name ++ ['"', ':']), draft, text⟩

theorem plain_label (name : List Char) (plain : name.all needsNoEscape = true) (draft : Draft) (text : List Char) :
    NameSpelling (DraftMember.plain name draft text).marks (DraftMember.plain name draft text).label :=
  ⟨name, [':'], plain_marks name plain, ⟨[], [], gap_nil, gap_nil, rfl⟩, rfl⟩

/-! What is read of a text literal is spelled marks. -/

theorem marks_append {first second : List Mark} {before after : List Char} (spelledFirst : MarksSpelling first before)
    (spelledSecond : MarksSpelling second after) : MarksSpelling (first ++ second) (before ++ after) := by
  induction spelledFirst with
  | nil => exact spelledSecond
  | cons spelledMark _ ih =>
    rw [List.cons_append, List.append_assoc]
    exact .cons spelledMark ih

theorem marks_single {mark : Mark} {text : List Char} (spelled : MarkSpelling mark text) : MarksSpelling [mark] text :=
  List.append_nil text ▸ .cons spelled .nil

theorem hex_unit_split {text rest : List Char} {unit : Nat} (read : hexUnit text = .ok (unit, rest)) :
    ∃ spelled, UnitSpelling unit spelled ∧ text = spelled ++ rest := by
  unfold hexUnit at read
  split at read
  · cases read
  · split at read
    · rename_i a b c d remaining _
      split at read
      · rename_i readA readB readC readD
        cases read
        exact ⟨[a, b, c, d], .digits readA readB readC readD, rfl⟩
      · cases read
    · cases read

theorem trailing_unit_split {leading : Nat} {text rest : List Char} {c : Char}
    (read : trailingUnit leading text = .ok (c, rest)) :
    ∃ second spelled, UnitSpelling second spelled ∧ text = '\\' :: 'u' :: (spelled ++ rest) := by
  unfold trailingUnit at read
  split at read
  · simp at read
  · simp at read
  · split at read
    · simp at read
    · rename_i second
      obtain ⟨spelled, spelling, rfl⟩ := hex_unit_split second
      split at read
      · have behind := (Prod.mk.inj (Except.ok.inj read)).2
        exact ⟨_, spelled, spelling, by rw [behind]⟩
      · simp at read
  · simp at read
  · simp at read

theorem escape_split {text rest : List Char} {c : Char} (read : escape text = .ok (c, rest)) :
    ∃ marks spelled, MarksSpelling marks ('\\' :: spelled) ∧ text = spelled ++ rest := by
  cases text with
  | nil => cases read
  | cons letter after =>
    have single : ∀ value, (letter, value) ∈ shortEscapes → (.ok (value, after) : Reading Char) = .ok (c, rest) →
        ∃ marks spelled, MarksSpelling marks ('\\' :: spelled) ∧ letter :: after = spelled ++ rest := by
      intro value short same
      cases same
      exact ⟨[.char c], [letter], marks_single (.short short), rfl⟩
    by_cases unit : letter = 'u'
    · subst unit
      rw [escape_unit] at read
      cases first : hexUnit after with
      | error fault =>
        rw [first] at read
        cases read
      | ok taken =>
        obtain ⟨unit, remaining⟩ := taken
        rw [first] at read
        obtain ⟨spelled, spelling, rfl⟩ := hex_unit_split first
        dsimp only at read
        by_cases trailing : isTrailing unit
        · rw [if_pos trailing] at read
          cases read
        · rw [if_neg trailing] at read
          by_cases leading : isLeading unit
          · rw [if_pos leading] at read
            obtain ⟨second, spelledSecond, spellingSecond, rfl⟩ := trailing_unit_split read
            refine ⟨[.unit unit, .unit second], 'u' :: (spelled ++ '\\' :: 'u' :: spelledSecond), ?_, ?_⟩
            · exact marks_append (marks_single (.unit spelling)) (marks_single (.unit spellingSecond))
            · simp only [List.cons_append, List.append_assoc]
          · rw [if_neg leading] at read
            cases read
            exact ⟨[.unit unit], 'u' :: spelled, marks_single (.unit spelling), rfl⟩
    · unfold escape at read
      dsimp only at read
      split at read
      · rename_i same
        rcases same with rfl | rfl | rfl <;> exact single _ (by decide) read
      split at read
      · subst letter; exact single _ (by decide) read
      split at read
      · subst letter; exact single _ (by decide) read
      split at read
      · subst letter; exact single _ (by decide) read
      split at read
      · subst letter; exact single _ (by decide) read
      split at read
      · subst letter; exact single _ (by decide) read
      cases read

theorem text_body_split {before text rest : List Char} {value : String} (read : textBody before text = .ok (value, rest)) :
    ∃ marks spelled, MarksSpelling marks spelled ∧ text = spelled ++ '"' :: rest := by
  fun_induction textBody before text with
  | case1 => cases read
  | case2 before after =>
    cases read
    exact ⟨[], [], .nil, rfl⟩
  | case3 => cases read
  | case4 before after c remaining escaped _ ih =>
    obtain ⟨marks, spelled, spelling, same⟩ := ih read
    obtain ⟨first, used, spellingFirst, taken⟩ := escape_split escaped
    refine ⟨first ++ marks, '\\' :: used ++ spelled, marks_append spellingFirst spelling, ?_⟩
    rw [taken, same]
    simp only [List.cons_append, List.append_assoc]
  | case5 => cases read
  | case6 before c after notQuote notBackslash visible ih =>
    obtain ⟨marks, spelled, spelling, same⟩ := ih read
    exact ⟨.char c :: marks, c :: spelled, .cons (.plain notQuote notBackslash visible) spelling, congrArg (List.cons c) same⟩

end NodeProbe.Json
