import NodeProbe.Proofs.Json.Denotation
import NodeProbe.Proofs.Json.DraftReading

set_option autoImplicit false

namespace NodeProbe.Json

variable {α β σ : Type}

-- What a reader takes off a text is one of these pieces, perhaps with space in front.
def Reader.Takes (reader : Reader α) (piece : List Char → Prop) : Prop :=
  ∀ text value rest, reader.run text = .ok (value, rest) →
    ∃ gap taken, Gap gap ∧ piece taken ∧ text = gap ++ (taken ++ rest)

theorem skip_space_split (text : List Char) : ∃ gap, Gap gap ∧ text = gap ++ skipSpace text :=
  ⟨text.takeWhile isSpace, fun _ present => List.mem_takeWhile_imp present, List.takeWhile_append_dropWhile.symm⟩

theorem gap_append {first second : List Char} (blankFirst : Gap first) (blankSecond : Gap second) : Gap (first ++ second) :=
  List.forall_mem_append.mpr ⟨blankFirst, blankSecond⟩

theorem takes_after_space {reader : Reader α} {piece : List Char → Prop} (takes : reader.Takes piece) :
    reader.afterSpace.Takes piece := by
  intro text value rest read
  obtain ⟨gap, blank, same⟩ := skip_space_split text
  obtain ⟨more, taken, blankMore, held, behind⟩ := takes (skipSpace text) value rest read
  refine ⟨gap ++ more, taken, gap_append blank blankMore, held, ?_⟩
  rw [List.append_assoc, ← behind]
  exact same

theorem reader_map_ok {f : α → β} {reader : Reader α} {text rest : List Char} {result : β}
    (read : (reader.map f).run text = .ok (result, rest)) : ∃ value, reader.run text = .ok (value, rest) ∧ f value = result := by
  simp only [Reader.map] at read
  cases inner : reader.run text with
  | error fault =>
    rw [inner] at read
    cases read
  | ok taken =>
    rw [inner] at read
    cases read
    exact ⟨taken.1, rfl, rfl⟩

theorem takes_map (f : α → β) {reader : Reader α} {piece : List Char → Prop} (takes : reader.Takes piece) :
    (reader.map f).Takes piece := by
  intro text value rest read
  obtain ⟨inner, own, _⟩ := reader_map_ok read
  exact takes text inner rest own

theorem reader_bind_ok {first : Reader α} {second : α → Reader β} {text rest : List Char} {result : β}
    (read : (first.bind second).run text = .ok (result, rest)) :
    ∃ value middle, first.run text = .ok (value, middle) ∧ (second value).run middle = .ok (result, rest) := by
  simp only [Reader.bind] at read
  cases inner : first.run text with
  | error fault =>
    rw [inner] at read
    cases read
  | ok taken =>
    rw [inner] at read
    exact ⟨taken.1, taken.2, rfl, read⟩

theorem expect_ok {expected : Char} {unfinished mismatch : Cause} {text rest : List Char} {result : Unit}
    (read : (Reader.expect expected unfinished mismatch).run text = .ok (result, rest)) : text = expected :: rest := by
  cases text with
  | nil => cases read
  | cons c others =>
    by_cases same : c = expected
    · have taken : (.ok ((), others) : Reading Unit) = .ok (result, rest) := (if_pos same).symm.trans read
      cases taken
      rw [same]
    · have refused : (.error (.within mismatch (c :: others)) : Reading Unit) = .ok (result, rest) :=
        (if_neg same).symm.trans read
      cases refused

/-! Items between brackets -/

theorem more_split {enclosure : Enclosure} {item : σ → Reader σ} {piece : List Char → Prop}
    (takes : ∀ state, (item state).Takes piece) (state : σ) {text rest : List Char} {result : σ}
    (read : enclosure.more item state text = .ok (result, rest)) :
    ∃ texts tail, (∀ taken ∈ texts, piece taken) ∧ text = tail ++ rest ∧
      ∀ before first, Gap before → Layout enclosure.close (first :: texts) (before ++ (first ++ tail)) := by
  -- On the length of the text, which every item shortens.
  induction size : text.length using Nat.strongRecOn generalizing text state with
  | _ total ih =>
    obtain ⟨gap, blank, spaced⟩ := skip_space_split text
    rw [Enclosure.more] at read
    split at read
    · cases read
    · rename_i c after here
      rw [here] at spaced
      split at read
      · rename_i closes
        cases read
        refine ⟨[], gap ++ [c], nofun, by rw [spaced, List.append_assoc, List.singleton_append], ?_⟩
        intro before first blankBefore
        rw [closes]
        exact .last blankBefore blank
      · split at read
        · rename_i comma
          split at read
          · cases read
          · split at read
            · cases read
            · split at read
              · cases read
              · rename_i next remaining inner
                obtain ⟨lead, taken, blankLead, held, behind⟩ := takes_after_space (takes state) after next remaining inner
                have shorter : remaining.length < total := by
                  have bound := (item state).afterSpace.shortens inner
                  rw [← size, spaced, List.length_append, List.length_cons]
                  omega
                obtain ⟨texts, tail, pieces, onward, layout⟩ := ih remaining.length shorter next read rfl
                refine ⟨taken :: texts, gap ++ ',' :: (lead ++ (taken ++ tail)), ?_, ?_, ?_⟩
                · exact List.forall_mem_cons.mpr ⟨held, pieces⟩
                · rw [spaced, comma, behind, onward]
                  simp only [List.append_assoc, List.cons_append]
                · intro before first blankBefore
                  exact .more blankBefore blank (layout lead taken blankLead)
        · cases read

theorem enclosure_split {enclosure : Enclosure} {item : σ → Reader σ} {piece : List Char → Prop}
    (takes : ∀ state, (item state).Takes piece) (state : σ) {text rest : List Char} {result : σ}
    (read : (enclosure.reader item state).run text = .ok (result, rest)) :
    ∃ texts body, Layout enclosure.close texts body ∧ (∀ taken ∈ texts, piece taken) ∧ text = body ++ rest := by
  obtain ⟨gap, blank, spaced⟩ := skip_space_split text
  change enclosure.items item state text = .ok (result, rest) at read
  rw [Enclosure.items] at read
  split at read
  · cases read
  · rename_i c after here
    rw [here] at spaced
    split at read
    · rename_i closes
      cases read
      refine ⟨[], gap ++ [c], closes ▸ .empty blank, nofun, ?_⟩
      rw [spaced, List.append_assoc, List.singleton_append]
    · split at read
      · cases read
      · rename_i next remaining inner
        obtain ⟨lead, taken, blankLead, held, behind⟩ := takes state (c :: after) next remaining inner
        obtain ⟨texts, tail, pieces, onward, layout⟩ := more_split takes next read
        refine ⟨taken :: texts, gap ++ lead ++ (taken ++ tail), layout _ taken (gap_append blank blankLead),
          List.forall_mem_cons.mpr ⟨held, pieces⟩, ?_⟩
        rw [spaced, behind, onward]
        simp only [List.append_assoc]

/-! Values -/

theorem literal_split {word text rest : List Char} (read : literal word text = .ok rest) : text = word ++ rest := by
  induction word generalizing text with
  | nil =>
    cases read
    rfl
  | cons expected word ih =>
    cases text with
    | nil => cases read
    | cons c after =>
      rw [literal] at read
      by_cases same : c = expected
      · rw [if_pos same] at read
        rw [same, ih read, List.cons_append]
      · rw [if_neg same] at read
        cases read

theorem literal_as_split {value result : α} {word text rest : List Char}
    (read : literalAs value word text = .ok (result, rest)) : text = word ++ rest := by
  unfold literalAs at read
  cases inner : literal word text with
  | error fault =>
    rw [inner] at read
    cases read
  | ok remaining =>
    rw [inner] at read
    cases read
    exact literal_split inner

def IsDraft (text : List Char) : Prop := ∃ draft : Draft, draft.Written text

theorem scalar_split {text rest : List Char} {found : Scalar} (read : scalar.run text = .ok (found, rest)) :
    ∃ taken, IsDraft taken ∧ text = taken ++ rest := by
  change scalarBody text = .ok (found, rest) at read
  cases text with
  | nil => cases read
  | cons c after =>
    rw [scalarBody] at read
    split at read
    · rename_i same
      rw [same, literal_as_split read]
      exact ⟨writeNull, ⟨.null, .null⟩, rfl⟩
    split at read
    · rename_i same
      rw [same, literal_as_split read]
      exact ⟨writeBoolean true, ⟨.boolean true, .boolean true⟩, rfl⟩
    split at read
    · rename_i same
      rw [same, literal_as_split read]
      exact ⟨writeBoolean false, ⟨.boolean false, .boolean false⟩, rfl⟩
    split at read
    · rename_i same
      obtain ⟨value, inner, _⟩ := Reading.map_ok read
      obtain ⟨numeral, negative, behind⟩ := number_split inner
      refine ⟨numeral.text, ⟨.number numeral, .number numeral⟩, ?_⟩
      rw [same, behind, Numeral.text, negative, if_pos rfl, List.cons_append]
    split at read
    · obtain ⟨value, inner, _⟩ := Reading.map_ok read
      obtain ⟨numeral, negative, behind⟩ := number_split inner
      refine ⟨numeral.text, ⟨.number numeral, .number numeral⟩, ?_⟩
      rw [behind, Numeral.text, negative, if_neg Bool.false_ne_true]
    split at read
    · rename_i same
      obtain ⟨value, inner, _⟩ := Reading.map_ok read
      obtain ⟨marks, spelled, spelling, behind⟩ := text_body_split inner
      refine ⟨'"' :: (spelled ++ ['"']), ⟨.text marks, .text spelling⟩, ?_⟩
      rw [same, behind, List.cons_append, List.append_assoc, List.singleton_append]
    cases read

def IsMember (text : List Char) : Prop :=
  ∃ entry : DraftMember, NameSpelling entry.marks entry.label ∧ entry.draft.Written entry.text ∧
    text = entry.label ++ entry.text

-- What follows the name of a member: a colon, and a value behind it.
def IsContent (text : List Char) : Prop :=
  ∃ separator taken, Separator separator ∧ IsDraft taken ∧ text = separator ++ taken

theorem after_colon_takes {reader : Reader α} (takes : reader.Takes IsDraft) : reader.afterColon.Takes IsContent := by
  intro text result rest read
  obtain ⟨_, behindColon, colonRead, last⟩ := reader_bind_ok read
  obtain ⟨gap, blank, spaced⟩ := skip_space_split text
  have separated : skipSpace text = ':' :: behindColon := expect_ok colonRead
  obtain ⟨lead, taken, blankLead, draft, behind⟩ := takes_after_space takes behindColon result rest last
  refine ⟨[], gap ++ ':' :: lead ++ taken, gap_nil, ⟨_, taken, ⟨gap, lead, blank, blankLead, rfl⟩, draft, rfl⟩, ?_⟩
  rw [spaced, separated, behind]
  simp only [List.nil_append, List.cons_append, List.append_assoc]

theorem name_takes {next : String → Reader α} (takes : ∀ name, (next name).Takes IsContent) :
    (memberName.bind next).Takes IsMember := by
  intro text result rest read
  obtain ⟨name, middle, named, afterName⟩ := reader_bind_ok read
  obtain ⟨_, opened, quoted, literalRead⟩ := reader_bind_ok named
  obtain ⟨marks, spelled, spelling, behindName⟩ := text_body_split literalRead
  obtain ⟨gap, content, blank, ⟨separator, taken, ⟨before, after, blankBefore, blankAfter, rfl⟩, ⟨draft, written⟩, rfl⟩,
    behind⟩ := takes name middle result rest afterName
  have separates : Separator (gap ++ (before ++ ':' :: after)) :=
    ⟨gap ++ before, after, gap_append blank blankBefore, blankAfter, (List.append_assoc gap before _).symm⟩
  refine ⟨[], '"' :: (spelled ++ '"' :: (gap ++ (before ++ ':' :: after))) ++ taken, gap_nil, ?_, ?_⟩
  · exact ⟨⟨marks, _, draft, taken⟩, ⟨spelled, _, spelling, separates, rfl⟩, written, rfl⟩
  · rw [expect_ok quoted, behindName, behind]
    simp only [List.nil_append, List.cons_append, List.append_assoc]

theorem member_takes {reader : Reader Value} (takes : reader.Takes IsDraft) (members : Members) :
    (memberName.bind fun name => reader.afterColon.map fun value => Members.insert name value members).Takes IsMember :=
  name_takes fun _ => takes_map _ (after_colon_takes takes)

theorem list_is_draft {texts : List (List Char)} {body : List Char} (layout : Layout ']' texts body)
    (pieces : ∀ taken ∈ texts, IsDraft taken) : IsDraft ('[' :: body) := by
  obtain ⟨entries, rfl, each⟩ := entries_of Prod.snd (fun entry : Draft × List Char => entry.1.Written entry.2) texts (by
    intro taken present
    obtain ⟨draft, written⟩ := pieces taken present
    exact ⟨(draft, taken), rfl, written⟩)
  exact ⟨_, .list each layout⟩

theorem object_is_draft {texts : List (List Char)} {body : List Char} (layout : Layout '\x7d' texts body)
    (pieces : ∀ taken ∈ texts, IsMember taken) : IsDraft ('\x7b' :: body) := by
  obtain ⟨entries, rfl, each⟩ := entries_of (fun entry : DraftMember => entry.label ++ entry.text)
    (fun entry => NameSpelling entry.marks entry.label ∧ entry.draft.Written entry.text) texts (by
      intro taken present
      obtain ⟨entry, named, written, whole⟩ := pieces taken present
      exact ⟨entry, whole.symm, named, written⟩)
  exact ⟨_, .object (fun entry present => (each entry present).1) (fun entry present => (each entry present).2) layout⟩

theorem list_items_split {reader : Reader α} (takes : reader.Takes IsDraft) {text rest : List Char} {items : List α}
    (read : (listItems reader).run text = .ok (items, rest)) : ∃ body, IsDraft ('[' :: body) ∧ text = body ++ rest := by
  obtain ⟨state, inner, _⟩ := reader_map_ok read
  obtain ⟨texts, body, layout, pieces, behind⟩ :=
    enclosure_split (fun before => takes_map (· :: before) (takes_after_space takes)) [] inner
  exact ⟨body, list_is_draft layout pieces, behind⟩

theorem object_items_split {reader : Reader Value} (takes : reader.Takes IsDraft) {text rest : List Char} {members : Members}
    (read : (objectItems reader).run text = .ok (members, rest)) :
    ∃ body, IsDraft ('\x7b' :: body) ∧ text = body ++ rest := by
  obtain ⟨texts, body, layout, pieces, behind⟩ := enclosure_split (member_takes takes) [] read
  exact ⟨body, object_is_draft layout pieces, behind⟩

theorem bracketed_ok {content : Option (Reader α)} {c : Char} {text rest : List Char} {result : α}
    (read : (Reader.bracketed content).run (c :: text) = .ok (result, rest)) :
    ∃ reader, content = some reader ∧ reader.run text = .ok (result, rest) := by
  cases content with
  | none => cases read
  | some reader => exact ⟨reader, rfl, read⟩

theorem level_takes (inner : Option (Reader Value)) (takes : ∀ reader ∈ inner, reader.Takes IsDraft) :
    (level inner).Takes IsDraft := by
  intro text result rest read
  have whole : ∃ taken, IsDraft taken ∧ text = taken ++ rest := by
    change (if text.head? = some '[' then _ else _ : Reading Value) = _ at read
    split at read
    · rename_i opened
      obtain ⟨others, rfl⟩ := List.head?_eq_some_iff.mp opened
      obtain ⟨items, bracketed, _⟩ := reader_map_ok read
      obtain ⟨reader, mapped, itemsRead⟩ := bracketed_ok bracketed
      obtain ⟨own, present, rfl⟩ := Option.map_eq_some_iff.mp mapped
      obtain ⟨body, draft, behind⟩ := list_items_split (takes own present) itemsRead
      exact ⟨'[' :: body, draft, congrArg (List.cons '[') behind⟩
    · change (if text.head? = some '\x7b' then _ else _ : Reading Value) = _ at read
      split at read
      · rename_i opened
        obtain ⟨others, rfl⟩ := List.head?_eq_some_iff.mp opened
        obtain ⟨members, bracketed, _⟩ := reader_map_ok read
        obtain ⟨reader, mapped, membersRead⟩ := bracketed_ok bracketed
        obtain ⟨own, present, rfl⟩ := Option.map_eq_some_iff.mp mapped
        obtain ⟨body, draft, behind⟩ := object_items_split (takes own present) membersRead
        exact ⟨'\x7b' :: body, draft, congrArg (List.cons '\x7b') behind⟩
      · obtain ⟨found, scalarRead, _⟩ := reader_map_ok read
        exact scalar_split scalarRead
  obtain ⟨taken, draft, behind⟩ := whole
  exact ⟨[], taken, gap_nil, draft, behind⟩

theorem value_takes (depth : Nat) : (value depth).Takes IsDraft := by
  induction depth with
  | zero => exact takes_after_space (level_takes none nofun)
  | succ depth ih =>
    apply takes_after_space
    apply level_takes
    intro reader same
    cases same
    exact ih

theorem document_ok {reader : Reader α} {text : List Char} {result : α} (read : reader.document text = .ok result) :
    ∃ rest, reader.run text = .ok (result, rest) ∧ Gap rest := by
  unfold Reader.document at read
  cases inner : reader.run text with
  | error fault =>
    rw [inner] at read
    cases read
  | ok taken =>
    obtain ⟨value, rest⟩ := taken
    rw [inner] at read
    dsimp only at read
    obtain ⟨gap, blank, spaced⟩ := skip_space_split rest
    cases behind : skipSpace rest with
    | nil =>
      rw [behind] at read spaced
      cases read
      rw [List.append_nil] at spaced
      exact ⟨rest, rfl, spaced ▸ blank⟩
    | cons c after =>
      rw [behind] at read
      cases read

theorem parse_is_json (text : String) (value : Value) (parsed : parse text = .ok value) : IsJson text.toList := by
  obtain ⟨rest, read, blank⟩ := document_ok parsed
  obtain ⟨gap, taken, blankGap, ⟨draft, written⟩, same⟩ := value_takes depthLimit _ _ _ read
  exact ⟨draft, gap, taken, rest, blankGap, blank, written, same⟩


theorem value_behind_gap (depth : Nat) (gap text : List Char) (blank : Gap gap) :
    (value depth).run (gap ++ text) = (value depth).run text := by
  rw [value_choices]
  simp only [Reader.afterSpace, skip_space_gap gap text blank]

theorem skip_gap (gap : List Char) (blank : Gap gap) : skipSpace gap = [] := by
  have skipped := skip_space_gap gap [] blank
  rwa [List.append_nil] at skipped

theorem parse_written {draft : Draft} {text : String} (writes : draft.Writes text.toList) :
    match draft.read depthLimit with
    | .ok document => parse text = .ok document
    | .error cause => ∃ position, parse text = .error ⟨cause, position⟩ := by
  obtain ⟨before, spelled, after, blankBefore, blankAfter, written, same⟩ := writes
  have ends := draft_gives written depthLimit after (List.append_nil after ▸ delimited_gap after [] blankAfter delimited_nil)
  rw [← value_behind_gap depthLimit before _ blankBefore, ← same] at ends
  rw [parse, Reader.document]
  cases read : draft.read depthLimit with
  | ok document =>
    rw [read] at ends
    have taken : (value depthLimit).run text.toList = .ok (document, after) := ends
    rw [taken]
    dsimp only
    rw [skip_gap after blankAfter]
  | error cause =>
    rw [read] at ends
    obtain ⟨unread, refused⟩ := ends
    rw [refused]
    exact ⟨_, rfl⟩

theorem parse_denoted {draft : Draft} {text : String} {document : Value} (writes : draft.Writes text.toList)
    (denotes : draft.Denotes document) (shallow : draft.depth ≤ depthLimit) : parse text = .ok document := by
  have parsed := parse_written writes
  rwa [denotes_read denotes depthLimit shallow] at parsed

theorem parse_refused (text : String)
    (unfit : ¬ IsJson text.toList ∨ ∃ draft : Draft, draft.Writes text.toList ∧ (depthLimit < draft.depth ∨ ¬ draft.Paired)) :
    ∃ refusal, parse text = .error refusal := by
  cases parsed : parse text with
  | error refusal => exact ⟨refusal, rfl⟩
  | ok document =>
    rcases unfit with other | ⟨draft, writes, flaw⟩
    · exact absurd (parse_is_json text document parsed) other
    · have own := parse_written writes
      cases read : draft.read depthLimit with
      | error cause =>
        rw [read] at own
        obtain ⟨position, refused⟩ := own
        rw [parsed] at refused
        cases refused
      | ok value =>
        obtain ⟨shallow, paired⟩ := read_shallow_paired draft depthLimit value read
        rcases flaw with deep | half
        · exact absurd shallow (Nat.not_le_of_lt deep)
        · exact absurd paired half

end NodeProbe.Json
