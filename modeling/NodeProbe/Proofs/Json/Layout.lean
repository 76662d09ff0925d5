import NodeProbe.Json.Skip

set_option autoImplicit false

namespace NodeProbe.Json

variable {α β σ : Type}

-- A value is read up to a given rest, or refused for a given cause.
def Reading.Ends (reading : Reading α) (rest : List Char) : Except Cause α → Prop
  | .ok value => reading = .ok (value, rest)
  | .error cause => ∃ unread, reading = .error ⟨cause, unread⟩

def Delimited (rest : List Char) : Prop :=
  ∀ c ∈ rest.head?, c.isDigit = false ∧ c ≠ '.' ∧ c ≠ 'e' ∧ c ≠ 'E'

def Reader.Gives (reader : Reader α) (text : List Char) (result : Except Cause α) : Prop :=
  ∀ rest, Delimited rest → (reader.run (text ++ rest)).Ends rest result

def Opens (text : List Char) : Prop :=
  ∃ c rest, text = c :: rest ∧ isSpace c = false ∧ c ≠ ']' ∧ c ≠ '\x7d'

def Gap (text : List Char) : Prop := ∀ c ∈ text, isSpace c = true

inductive Layout (close : Char) : List (List Char) → List Char → Prop
  | empty {gap : List Char} : Gap gap → Layout close [] (gap ++ [close])
  | last {before text after : List Char} : Gap before → Gap after →
      Layout close [text] (before ++ (text ++ (after ++ [close])))
  | more {before text after second body : List Char} {texts : List (List Char)} : Gap before → Gap after →
      Layout close (second :: texts) body →
      Layout close (text :: second :: texts) (before ++ (text ++ (after ++ ',' :: body)))

-- The states that a reader of items passes through, up to the last item or to one that is refused.
inductive Course (item : σ → Reader σ) : σ → List (List Char) → Except Cause σ → Prop
  | done (state : σ) : Course item state [] (.ok state)
  | next {state after : σ} {text : List Char} {texts : List (List Char)} {result : Except Cause σ} :
      (item state).Gives text (.ok after) → Course item after texts result →
      Course item state (text :: texts) result
  | stop {state : σ} {text : List Char} {texts : List (List Char)} {cause : Cause} :
      (item state).Gives text (.error cause) → Course item state (text :: texts) (.error cause)

theorem gap_nil : Gap [] := nofun

theorem skip_space_gap (gap text : List Char) (blank : Gap gap) : skipSpace (gap ++ text) = skipSpace text :=
  List.dropWhile_append_of_pos blank

theorem skip_space_solid (c : Char) (text : List Char) (solid : isSpace c = false) :
    skipSpace (c :: text) = c :: text := by
  rw [skipSpace, List.dropWhile_cons_of_neg (by simp [solid])]

theorem skip_space_opens (text rest : List Char) (opens : Opens text) : skipSpace (text ++ rest) = text ++ rest := by
  obtain ⟨c, others, rfl, solid, _⟩ := opens
  exact skip_space_solid c _ solid

theorem skip_space_gap_opens {gap text : List Char} (blank : Gap gap) (opens : Opens text) (rest : List Char) :
    skipSpace (gap ++ (text ++ rest)) = text ++ rest := by
  rw [skip_space_gap gap _ blank, skip_space_opens text rest opens]

theorem skip_space_gap_solid (gap text : List Char) (c : Char) (blank : Gap gap) (solid : isSpace c = false) :
    skipSpace (gap ++ c :: text) = c :: text := by
  rw [skip_space_gap gap _ blank, skip_space_solid c text solid]

theorem opens_append {text : List Char} (opens : Opens text) (rest : List Char) : Opens (text ++ rest) := by
  obtain ⟨c, others, rfl, marks⟩ := opens
  exact ⟨c, others ++ rest, rfl, marks⟩

theorem delimited_nil : Delimited [] := nofun

theorem delimited_cons (c : Char) (rest : List Char)
    (mark : c.isDigit = false ∧ c ≠ '.' ∧ c ≠ 'e' ∧ c ≠ 'E') : Delimited (c :: rest) := by
  intro first same
  cases same
  exact mark

theorem space_delimits (c : Char) (space : isSpace c = true) :
    c.isDigit = false ∧ c ≠ '.' ∧ c ≠ 'e' ∧ c ≠ 'E' := by
  simp only [isSpace, Bool.or_eq_true, decide_eq_true_eq] at space
  obtain ((rfl | rfl) | rfl) | rfl := space <;> decide

theorem delimited_gap (gap rest : List Char) (blank : Gap gap) (delimited : Delimited rest) :
    Delimited (gap ++ rest) := by
  cases gap with
  | nil => exact delimited
  | cons c others => exact delimited_cons c _ (space_delimits c (blank c List.mem_cons_self))

theorem close_delimits (bracket : Bracket) (rest : List Char) : Delimited (bracket.enclosure.close :: rest) := by
  cases bracket <;> exact delimited_cons _ _ (by decide)

theorem comma_delimits (rest : List Char) : Delimited (',' :: rest) := delimited_cons _ _ (by decide)

theorem close_solid (bracket : Bracket) : isSpace bracket.enclosure.close = false := by cases bracket <;> decide

theorem comma_not_close (bracket : Bracket) : ',' ≠ bracket.enclosure.close := by cases bracket <;> decide

theorem opens_not_close (bracket : Bracket) (text : List Char) (opens : Opens text) (rest : List Char) :
    ∃ c others, text ++ rest = c :: others ∧ c ≠ bracket.enclosure.close := by
  obtain ⟨c, others, rfl, _, notList, notObject⟩ := opens
  refine ⟨c, others ++ rest, rfl, ?_⟩
  cases bracket with
  | list => exact notList
  | object => exact notObject

theorem gives_map {reader : Reader α} {text : List Char} {result : Except Cause α} (f : α → β)
    (gives : reader.Gives text result) : (reader.map f).Gives text (result.map f) := by
  intro rest delimited
  have ends := gives rest delimited
  cases result with
  | ok value =>
    simp only [Reading.Ends] at ends
    simp only [Reader.map, ends, Except.map, Reading.Ends]
  | error cause =>
    obtain ⟨unread, refused⟩ := ends
    exact ⟨unread, by simp only [Reader.map, refused]⟩

theorem gives_check_ok {reader : Reader α} {text : List Char} {value : α} {result : β}
    (judge : α → Except Cause β) (gives : reader.Gives text (.ok value)) (judged : judge value = .ok result) :
    (reader.check judge).Gives text (.ok result) := by
  intro rest delimited
  have read := gives rest delimited
  simp only [Reading.Ends] at read ⊢
  simp only [Reader.check, read, judged]

theorem gives_check_error {reader : Reader α} {text : List Char} {cause : Cause} (judge : α → Except Cause β)
    (gives : reader.Gives text (.error cause)) : (reader.check judge).Gives text (.error cause) := by
  intro rest delimited
  obtain ⟨unread, refused⟩ := gives rest delimited
  exact ⟨unread, by simp only [Reader.check, refused]⟩

-- The first of two readers may stop anywhere, since the second takes over from it.
theorem gives_bind {first : Reader α} {second : α → Reader β} {before after : List Char} {value : α}
    {result : Except Cause β} (opened : ∀ rest, first.run (before ++ rest) = .ok (value, rest))
    (gives : (second value).Gives after result) : (first.bind second).Gives (before ++ after) result := by
  intro rest delimited
  have ends := gives rest delimited
  simp only [List.append_assoc]
  simpa only [Reader.bind, opened] using ends

theorem gives_after_gap {reader : Reader α} {text : List Char} {result : Except Cause α} (gap : List Char)
    (blank : Gap gap) (opens : Opens text) (gives : reader.Gives text result) :
    reader.afterSpace.Gives (gap ++ text) result := by
  intro rest delimited
  have ends := gives rest delimited
  simpa only [Reader.afterSpace, List.append_assoc, skip_space_gap_opens blank opens rest] using ends

theorem gives_after_space {reader : Reader α} {text : List Char} {result : Except Cause α} (opens : Opens text)
    (gives : reader.Gives text result) : reader.afterSpace.Gives text result :=
  gives_after_gap [] gap_nil opens gives

theorem gives_choose_same {c : Char} {text : List Char} {matching other : Reader α} {result : Except Cause α}
    (gives : matching.Gives (c :: text) result) : (Reader.choose c matching other).Gives (c :: text) result := by
  intro rest delimited
  simpa only [Reader.choose, List.cons_append, List.head?_cons, if_true] using gives rest delimited

theorem gives_choose_other {c first : Char} {text : List Char} {matching other : Reader α}
    {result : Except Cause α} (different : c ≠ first) (gives : other.Gives (c :: text) result) :
    (Reader.choose first matching other).Gives (c :: text) result := by
  intro rest delimited
  have skipped : ¬ some c = some first := fun same => different (Option.some.inj same)
  have ends := gives rest delimited
  change (if some c = some first then _ else _ : Reading α).Ends rest result
  rw [if_neg skipped]
  exact ends

theorem gives_bracketed {reader : Reader α} {text : List Char} {result : Except Cause α} (c : Char)
    (gives : reader.Gives text result) : (Reader.bracketed (some reader)).Gives (c :: text) result :=
  fun rest delimited => gives rest delimited

theorem gives_too_deep (c : Char) (text : List Char) :
    (Reader.bracketed (none : Option (Reader α))).Gives (c :: text) (.error .tooDeep) :=
  fun _ _ => ⟨_, rfl⟩

theorem more_close {enclosure : Enclosure} {item : σ → Reader σ} {state : σ} {text rest : List Char}
    (separator : skipSpace text = enclosure.close :: rest) : enclosure.more item state text = .ok (state, rest) := by
  rw [Enclosure.more]
  split <;> simp_all

theorem more_comma {enclosure : Enclosure} {item : σ → Reader σ} {state : σ} {text rest : List Char}
    (separator : skipSpace text = ',' :: rest) (notClose : ',' ≠ enclosure.close)
    (goesOn : ∃ c others, skipSpace rest = c :: others ∧ c ≠ enclosure.close) :
    enclosure.more item state text =
      match (item state).afterSpace.run rest with
      | .error fault => .error fault
      | .ok (next, remaining) => enclosure.more item next remaining := by
  obtain ⟨c, others, spaced, different⟩ := goesOn
  conv => lhs; rw [Enclosure.more]
  split
  · simp_all
  · rename_i first after same
    obtain ⟨rfl, rfl⟩ := List.cons.inj (same.symm.trans separator)
    rw [if_neg notClose, if_pos rfl, spaced]
    dsimp only
    rw [if_neg different]
    split <;> simp_all

theorem items_close {enclosure : Enclosure} {item : σ → Reader σ} {state : σ} {text rest : List Char}
    (separator : skipSpace text = enclosure.close :: rest) : enclosure.items item state text = .ok (state, rest) := by
  rw [Enclosure.items, separator]
  exact if_pos rfl

theorem items_open {enclosure : Enclosure} {item : σ → Reader σ} {state : σ} {text : List Char}
    (goesOn : ∃ c others, skipSpace text = c :: others ∧ c ≠ enclosure.close) :
    enclosure.items item state text =
      match (item state).run (skipSpace text) with
      | .error fault => .error fault
      | .ok (next, remaining) => enclosure.more item next remaining := by
  obtain ⟨c, others, spaced, different⟩ := goesOn
  rw [Enclosure.items, spaced]
  exact if_neg different

theorem course_step {enclosure : Enclosure} {item : σ → Reader σ} {state : σ} {text tail rest : List Char}
    {texts : List (List Char)} {result : Except Cause σ} (course : Course item state (text :: texts) result)
    (delimited : Delimited tail)
    (onward : ∀ next, Course item next texts result → (enclosure.more item next tail).Ends rest result) :
    (match (item state).run (text ++ tail) with
      | .error fault => .error fault
      | .ok (next, remaining) => enclosure.more item next remaining : Reading σ).Ends rest result := by
  cases course with
  | next gives others =>
    have read := gives tail delimited
    simp only [Reading.Ends] at read
    rw [read]
    exact onward _ others
  | stop gives =>
    obtain ⟨unread, refused⟩ := gives tail delimited
    rw [refused]
    exact ⟨unread, rfl⟩

theorem more_item (bracket : Bracket) {item : σ → Reader σ} {state : σ} {gap before text tail rest : List Char}
    {texts : List (List Char)} {result : Except Cause σ} (course : Course item state (text :: texts) result)
    (blankGap : Gap gap) (blankBefore : Gap before) (opens : Opens text) (delimited : Delimited tail)
    (onward : ∀ next, Course item next texts result → (bracket.enclosure.more item next tail).Ends rest result) :
    (bracket.enclosure.more item state (gap ++ ',' :: (before ++ (text ++ tail)))).Ends rest result := by
  have separator := skip_space_gap_solid gap (before ++ (text ++ tail)) ',' blankGap (by decide)
  have spaced := skip_space_gap_opens blankBefore opens tail
  have goesOn : ∃ c others, skipSpace (before ++ (text ++ tail)) = c :: others ∧ c ≠ bracket.enclosure.close := by
    rw [spaced]
    exact opens_not_close bracket text opens tail
  rw [more_comma separator (comma_not_close bracket) goesOn]
  simp only [Reader.afterSpace, spaced]
  exact course_step course delimited onward

theorem items_item (bracket : Bracket) {item : σ → Reader σ} {state : σ} {before text tail rest : List Char}
    {texts : List (List Char)} {result : Except Cause σ} (course : Course item state (text :: texts) result)
    (blankBefore : Gap before) (opens : Opens text) (delimited : Delimited tail)
    (onward : ∀ next, Course item next texts result → (bracket.enclosure.more item next tail).Ends rest result) :
    (bracket.enclosure.items item state (before ++ (text ++ tail))).Ends rest result := by
  have spaced := skip_space_gap_opens blankBefore opens tail
  have goesOn : ∃ c others, skipSpace (before ++ (text ++ tail)) = c :: others ∧ c ≠ bracket.enclosure.close := by
    rw [spaced]
    exact opens_not_close bracket text opens tail
  rw [items_open goesOn, spaced]
  exact course_step course delimited onward

theorem more_finished (bracket : Bracket) {item : σ → Reader σ} {after rest : List Char} {result : Except Cause σ}
    (blank : Gap after) (next : σ) (course : Course item next [] result) :
    (bracket.enclosure.more item next (after ++ bracket.enclosure.close :: rest)).Ends rest result := by
  cases course
  exact more_close (skip_space_gap_solid after rest _ blank (close_solid bracket))

theorem more_layout (bracket : Bracket) (item : σ → Reader σ) {texts : List (List Char)} {body : List Char}
    (layout : Layout bracket.enclosure.close texts body) (opens : ∀ text ∈ texts, Opens text)
    (nonempty : texts ≠ []) (state : σ) (result : Except Cause σ) (course : Course item state texts result)
    (gap rest : List Char) (blank : Gap gap) :
    (bracket.enclosure.more item state (gap ++ ',' :: (body ++ rest))).Ends rest result := by
  -- An item is followed by the end or by a comma, and what is behind the comma is laid out again.
  induction layout generalizing state gap with
  | empty => exact absurd rfl nonempty
  | @last before text after blankBefore blankAfter =>
    simp only [List.append_assoc, List.singleton_append]
    exact more_item bracket course blank blankBefore (opens text List.mem_cons_self)
      (delimited_gap after _ blankAfter (close_delimits bracket rest)) (more_finished bracket blankAfter)
  | @more before text after second body texts blankBefore blankAfter _ ih =>
    simp only [List.append_assoc, List.cons_append]
    refine more_item bracket course blank blankBefore (opens text List.mem_cons_self)
      (delimited_gap after _ blankAfter (comma_delimits _)) ?_
    intro next others
    exact ih (fun other present => opens other (List.mem_cons_of_mem text present)) (List.cons_ne_nil _ _)
      next others after blankAfter

theorem enclosure_layout (bracket : Bracket) (item : σ → Reader σ) {texts : List (List Char)} {body : List Char}
    (layout : Layout bracket.enclosure.close texts body) (opens : ∀ text ∈ texts, Opens text)
    (state : σ) (result : Except Cause σ) (course : Course item state texts result) :
    (bracket.enclosure.reader item state).Gives body result := by
  intro rest _
  change (bracket.enclosure.items item state (body ++ rest)).Ends rest result
  cases layout with
  | @empty gap blank =>
    cases course
    simp only [List.append_assoc, List.singleton_append]
    exact items_close (skip_space_gap_solid gap rest _ blank (close_solid bracket))
  | @last before text after blankBefore blankAfter =>
    simp only [List.append_assoc, List.singleton_append]
    exact items_item bracket course blankBefore (opens text List.mem_cons_self)
      (delimited_gap after _ blankAfter (close_delimits bracket rest)) (more_finished bracket blankAfter)
  | @more before text after second body texts blankBefore blankAfter others =>
    simp only [List.append_assoc, List.cons_append]
    refine items_item bracket course blankBefore (opens text List.mem_cons_self)
      (delimited_gap after _ blankAfter (comma_delimits _)) ?_
    intro next remaining
    exact more_layout bracket item others (fun other present => opens other (List.mem_cons_of_mem text present))
      (List.cons_ne_nil _ _) next result remaining after rest blankAfter

theorem document_reads {reader : Reader α} {text : List Char} {value : α}
    (gives : reader.Gives text (.ok value)) : reader.document text = .ok value := by
  have read := gives [] delimited_nil
  simp only [Reading.Ends, List.append_nil] at read
  rw [Reader.document, read]
  rfl

theorem document_refuses {reader : Reader α} {text : List Char} {cause : Cause}
    (gives : reader.Gives text (.error cause)) : ∃ position, reader.document text = .error ⟨cause, position⟩ := by
  obtain ⟨unread, refused⟩ := gives [] delimited_nil
  rw [List.append_nil] at refused
  rw [Reader.document, refused]
  exact ⟨_, rfl⟩

end NodeProbe.Json
