import NodeProbe.Proofs.Json.MarkReading
import NodeProbe.Proofs.Json.NumeralReading

set_option autoImplicit false

namespace NodeProbe.Json

variable {α β : Type}

mutual
def Draft.read (depth : Nat) : Draft → Except Cause Value
  | .null => .ok .null
  | .boolean truth => .ok (.boolean truth)
  | .number numeral => numeral.read.map .number
  | .text marks => (readMarks marks).map fun chars => .text (String.ofList chars)
  | .list items =>
    match depth with
    | 0 => .error .tooDeep
    | depth + 1 => (readItems depth items).map .list
  | .object members =>
    match depth with
    | 0 => .error .tooDeep
    | depth + 1 => (readMembers depth [] members).map .object

def readItems (depth : Nat) : List Draft → Except Cause (List Value)
  | [] => .ok []
  | item :: rest => (item.read depth).bind fun first => (readItems depth rest).map (first :: ·)

def readMembers (depth : Nat) (before : Members) : List (List Mark × Draft) → Except Cause Members
  | [] => .ok before
  | (marks, item) :: rest =>
    (readMarks marks).bind fun name => (item.read depth).bind fun first =>
      readMembers depth (Members.insert (String.ofList name) first before) rest
end

theorem numeral_opens (numeral : Numeral) : ∃ c rest, numeral.text = c :: rest ∧ NumberStart c := by
  cases sign : numeral.negative with
  | true => exact ⟨'-', numeral.unsigned, by rw [Numeral.text, sign, if_pos rfl], .inl rfl⟩
  | false =>
    obtain ⟨first, behind, opened, digit⟩ := unsigned_first numeral
    exact ⟨first, behind, by rw [Numeral.text, sign, if_neg Bool.false_ne_true, opened], .inr digit⟩

theorem written_opens {draft : Draft} {text : List Char} (written : draft.Written text) : Opens text := by
  cases written with
  | null => exact opens_cons _ _ (by decide)
  | boolean truth => cases truth <;> exact opens_cons _ _ (by decide)
  | number numeral =>
    obtain ⟨c, rest, same, start⟩ := numeral_opens numeral
    obtain ⟨solid, _, _, notListEnd, notObjectEnd, _⟩ := number_start_marks c start
    exact ⟨c, rest, same, solid, notListEnd, notObjectEnd⟩
  | text spelled => exact opens_cons _ _ (by decide)
  | list each layout => exact opens_cons _ _ (by decide)
  | object labels each layout => exact opens_cons _ _ (by decide)

def headKind (c : Char) : Char := if c = '-' ∨ c.isDigit = true then '0' else if c = 'f' then 't' else c

-- What a draft starts with; all numbers are of one kind, and so are the truth values.
def Draft.kind : Draft → Char
  | .null => 'n'
  | .boolean _ => 't'
  | .number _ => '0'
  | .text _ => '"'
  | .list _ => '['
  | .object _ => '\x7b'

theorem written_kind {draft : Draft} {text : List Char} (written : draft.Written text) :
    text.head?.map headKind = some draft.kind := by
  cases written with
  | null => rfl
  | boolean truth => cases truth <;> rfl
  | number numeral =>
    obtain ⟨c, rest, same, start⟩ := numeral_opens numeral
    rw [same]
    exact congrArg some (if_pos start)
  | text => rfl
  | list => rfl
  | object => rfl

theorem written_apart {draft : Draft} {text : List Char} (written : draft.Written text) {c : Char}
    (apart : (headKind c == draft.kind) = false) : ∃ first rest, text = first :: rest ∧ first ≠ c := by
  have kind := written_kind written
  cases text with
  | nil => cases kind
  | cons first rest =>
    refine ⟨first, rest, rfl, ?_⟩
    rintro rfl
    exact ne_of_beq_false apart (Option.some.inj kind)

theorem name_opens {marks : List Mark} {label : List Char} (spelling : NameSpelling marks label) : Opens label := by
  obtain ⟨spelled, separator, _, _, rfl⟩ := spelling
  exact opens_cons _ _ (by decide)

/-! Scalars -/

theorem reading_map_ends {reading : Reading α} {rest : List Char} {result : Except Cause α} (f : α → β)
    (ends : reading.Ends rest result) : (Reading.map f reading).Ends rest (result.map f) := by
  cases result with
  | ok value =>
    have same : reading = .ok (value, rest) := ends
    rw [same]
    rfl
  | error cause =>
    obtain ⟨unread, same⟩ := ends
    exact ⟨unread, by rw [same]; rfl⟩

theorem scalar_numeral (numeral : Numeral) : scalar.Gives numeral.text (numeral.read.map .number) := by
  intro rest delimited
  have ends := reading_map_ends Scalar.number (numeral_ends numeral rest delimited)
  cases sign : numeral.negative with
  | true =>
    rw [sign] at ends
    rw [Numeral.text, sign, if_pos rfl]
    exact ends
  | false =>
    rw [sign] at ends
    obtain ⟨first, behind, opened, digit⟩ := unsigned_first numeral
    obtain ⟨notN, notT, notF, notMinus, _⟩ := digit_not_letter first digit
    have read : scalarBody (numeral.unsigned ++ rest) = Reading.map .number (number false (numeral.unsigned ++ rest)) := by
      rw [opened, List.cons_append]
      simp only [scalarBody, if_neg notN, if_neg notT, if_neg notF, if_neg notMinus, digit, if_true]
    rw [Numeral.text, sign, if_neg Bool.false_ne_true]
    change (scalarBody (numeral.unsigned ++ rest)).Ends rest _
    rw [read]
    exact ends

theorem scalar_marks {marks : List Mark} {spelled : List Char} (spelling : MarksSpelling marks spelled) :
    scalar.Gives ('"' :: (spelled ++ ['"'])) ((readMarks marks).map fun chars => .text (String.ofList chars)) := by
  intro rest _
  have ends := reading_map_ends Scalar.text (text_literal_marks spelling rest)
  have text : '"' :: (spelled ++ ['"']) ++ rest = '"' :: (spelled ++ '"' :: rest) := by
    rw [List.cons_append, List.append_assoc, List.singleton_append]
  rw [text]
  cases read : readMarks marks <;> rw [read] at ends <;> exact ends

/-! Containers -/

theorem course_reads {σ γ ε : Type} {item : σ → Reader σ} (step : σ → γ → Except Cause σ) (seen : ε → γ)
    (text : ε → List Char) (entries : List ε)
    (each : ∀ entry ∈ entries, ∀ state, (item state).Gives (text entry) (step state (seen entry))) (state : σ) :
    Course item state (entries.map text) ((entries.map seen).foldlM step state) := by
  induction entries generalizing state with
  | nil => exact .done state
  | cons entry rest ih =>
    obtain ⟨first, others⟩ := List.forall_mem_cons.mp each
    have given := first state
    rw [List.map_cons, List.map_cons, List.foldlM_cons]
    cases read : step state (seen entry) with
    | error cause =>
      rw [read] at given
      exact .stop given
    | ok next =>
      rw [read] at given
      exact .next given (ih others next)

theorem read_items_fold (depth : Nat) (items : List Draft) (before : List Value) :
    items.foldlM (fun before item => (item.read depth).map (· :: before)) before =
      (readItems depth items).map fun values => values.reverse ++ before := by
  induction items generalizing before with
  | nil => rfl
  | cons item rest ih =>
    rw [List.foldlM_cons, readItems]
    cases item.read depth with
    | error cause => rfl
    | ok first =>
      refine (ih (first :: before)).trans ?_
      cases readItems depth rest with
      | error cause => rfl
      | ok values =>
        refine congrArg Except.ok ?_
        dsimp only
        rw [List.reverse_cons, List.append_assoc, List.singleton_append]

theorem read_members_fold (depth : Nat) (members : List (List Mark × Draft)) (before : Members) :
    members.foldlM (fun before member => (readMarks member.1).bind fun name => (member.2.read depth).map fun value =>
        Members.insert (String.ofList name) value before) before =
      readMembers depth before members := by
  induction members generalizing before with
  | nil => rfl
  | cons member rest ih =>
    obtain ⟨marks, item⟩ := member
    rw [List.foldlM_cons, readMembers]
    cases readMarks marks with
    | error cause => rfl
    | ok name =>
      cases item.read depth with
      | error cause => rfl
      | ok value => exact ih (Members.insert (String.ofList name) value before)

theorem draft_items_gives {reader : Reader Value} {depth : Nat} (entries : List (Draft × List Char)) {body : List Char}
    (layout : Layout ']' (entries.map Prod.snd) body) (opens : ∀ entry ∈ entries, Opens entry.2)
    (each : ∀ entry ∈ entries, reader.Gives entry.2 (entry.1.read depth)) :
    (listItems reader).Gives body (readItems depth (entries.map Prod.fst)) := by
  have course := course_reads (fun before item => (item.read depth).map (· :: before)) Prod.fst Prod.snd entries
    (fun entry present before => gives_map (· :: before) (gives_after_space (opens entry present) (each entry present))) []
  have given := gives_map List.reverse (enclosure_layout .list _ layout (List.forall_mem_map.mpr opens) [] _ course)
  rw [read_items_fold] at given
  cases read : readItems depth (entries.map Prod.fst) with
  | error cause =>
    rw [read] at given
    exact given
  | ok values =>
    rw [read] at given
    simp only [Except.map, List.append_nil, List.reverse_reverse] at given
    exact given

theorem name_gives {next : String → Reader α} {marks : List Mark} {label text : List Char}
    {result : List Char → Except Cause α} (spelling : NameSpelling marks label)
    (gives : ∀ chars separator, readMarks marks = .ok chars → Separator separator →
      (next (String.ofList chars)).Gives (separator ++ text) (result chars)) :
    (memberName.bind next).Gives (label ++ text) ((readMarks marks).bind result) := by
  obtain ⟨spelled, separator, spelledName, separates, rfl⟩ := spelling
  intro rest delimited
  have behind : '"' :: (spelled ++ '"' :: separator) ++ text ++ rest =
      '"' :: (spelled ++ '"' :: (separator ++ text ++ rest)) := by
    simp only [List.cons_append, List.append_assoc]
  have taken : memberName.run ('"' :: (spelled ++ '"' :: (separator ++ text ++ rest))) =
      textLiteral.run (spelled ++ '"' :: (separator ++ text ++ rest)) := rfl
  have ends := text_literal_marks spelledName (separator ++ text ++ rest)
  rw [behind]
  simp only [Reader.bind, taken]
  cases read : readMarks marks with
  | error cause =>
    rw [read] at ends
    obtain ⟨unread, refused⟩ := ends
    rw [refused]
    exact ⟨unread, rfl⟩
  | ok chars =>
    rw [read] at ends
    have same : textLiteral.run (spelled ++ '"' :: (separator ++ text ++ rest)) =
        .ok (String.ofList chars, separator ++ text ++ rest) := ends
    rw [same]
    exact gives chars separator read separates rest delimited

theorem draft_object_gives {reader : Reader Value} {depth : Nat} (entries : List DraftMember) {body : List Char}
    (layout : Layout '\x7d' (entries.map fun entry => entry.label ++ entry.text) body)
    (names : ∀ entry ∈ entries, NameSpelling entry.marks entry.label) (opens : ∀ entry ∈ entries, Opens entry.text)
    (each : ∀ entry ∈ entries, reader.Gives entry.text (entry.draft.read depth)) :
    (objectItems reader).Gives body (readMembers depth [] (entries.map fun entry => (entry.marks, entry.draft))) := by
  have labelled : ∀ entry ∈ entries, Opens (entry.label ++ entry.text) :=
    fun entry present => opens_append (name_opens (names entry present)) _
  rw [← read_members_fold]
  refine enclosure_layout .object _ layout (List.forall_mem_map.mpr labelled) [] _
    (course_reads _ (fun entry : DraftMember => (entry.marks, entry.draft)) _ entries ?_ [])
  intro entry present before
  apply name_gives (names entry present)
  intro chars separator _ separates
  exact gives_map _ (after_colon_gives separates (opens entry present) (each entry present))

theorem value_of_scalar {c : Char} {rest : List Char} {result : Except Cause Scalar} (depth : Nat)
    (opens : Opens (c :: rest)) (notList : c ≠ '[') (notObject : c ≠ '\x7b') (gives : scalar.Gives (c :: rest) result) :
    (value depth).Gives (c :: rest) (result.map Scalar.toValue) := by
  rw [value_choices]
  exact gives_after_space opens
    (gives_choose_other notList (gives_choose_other notObject (gives_map Scalar.toValue gives)))

theorem bracketed_ends {content : Reader α} {depth : Nat} {result : Except Cause α} {body : List Char} (c : Char)
    (inside : ∀ inner, depth = inner + 1 → content.Gives body result) (outside : depth = 0 → result = .error .tooDeep) :
    (Reader.bracketed (deeper depth content)).Gives (c :: body) result := by
  cases depth with
  | zero =>
    rw [outside rfl]
    exact gives_too_deep c body
  | succ inner => exact gives_bracketed c (inside inner rfl)

theorem draft_gives {draft : Draft} {text : List Char} (written : draft.Written text) (depth : Nat) :
    (value depth).Gives text (draft.read depth) := by
  induction written generalizing depth with
  | null =>
    exact value_of_scalar depth (written_opens .null) (by decide) (by decide) (@scalar_gives .null _ .null)
  | boolean truth =>
    have given := @scalar_gives (.boolean truth) _ (.boolean truth)
    have opens := written_opens (.boolean truth)
    cases truth <;> exact value_of_scalar depth opens (by decide) (by decide) given
  | number numeral =>
    have given := scalar_numeral numeral
    have opens := written_opens (.number numeral)
    obtain ⟨c, rest, same, start⟩ := numeral_opens numeral
    obtain ⟨_, notList, notObject, _⟩ := number_start_marks c start
    rw [same] at given opens ⊢
    have read := value_of_scalar depth opens notList notObject given
    rw [Draft.read]
    cases evaluated : numeral.read <;> rw [evaluated] at read <;> exact read
  | @text marks spelled spelling =>
    have read := value_of_scalar depth (written_opens (.text spelling)) (by decide) (by decide) (scalar_marks spelling)
    rw [Draft.read]
    cases resolved : readMarks marks <;> rw [resolved] at read <;> exact read
  | @list entries body each layout ih =>
    have opens : ∀ entry ∈ entries, Opens entry.2 := fun entry present => written_opens (each entry present)
    have bracketed : (Reader.bracketed (deeper depth (listItems (value (depth - 1))))).Gives ('[' :: body)
        (match depth with
        | 0 => .error .tooDeep
        | inner + 1 => readItems inner (entries.map Prod.fst)) := by
      apply bracketed_ends
      · rintro inner rfl
        exact draft_items_gives entries layout opens fun entry present => ih entry present inner
      · rintro rfl
        rfl
    have given := gives_map Value.list bracketed
    rw [value_choices]
    refine gives_after_space (written_opens (.list each layout)) (gives_choose_same ?_)
    cases depth <;> rw [Draft.read] <;> exact given
  | @object entries body names each layout ih =>
    have opens : ∀ entry ∈ entries, Opens entry.text := fun entry present => written_opens (each entry present)
    have bracketed : (Reader.bracketed (deeper depth (objectItems (value (depth - 1))))).Gives ('\x7b' :: body)
        (match depth with
        | 0 => .error .tooDeep
        | inner + 1 => readMembers inner [] (entries.map fun entry => (entry.marks, entry.draft))) := by
      apply bracketed_ends
      · rintro inner rfl
        exact draft_object_gives entries layout names opens fun entry present => ih entry present inner
      · rintro rfl
        rfl
    have given := gives_map Value.object bracketed
    rw [value_choices]
    refine gives_after_space (written_opens (.object names each layout))
      (gives_choose_other (by decide) (gives_choose_same ?_))
    cases depth <;> rw [Draft.read] <;> exact given

end NodeProbe.Json
