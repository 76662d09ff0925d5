import NodeProbe.Proofs.Json.Recognition
import NodeProbe.Proofs.Json.TypedReading

set_option autoImplicit false

namespace NodeProbe.Json

variable {α β : Type}

theorem choose_ok {first : Char} {matching other : Reader α} {text rest : List Char} {value : α}
    (read : (Reader.choose first matching other).run text = .ok (value, rest)) :
    (∃ others, text = first :: others ∧ matching.run (first :: others) = .ok (value, rest)) ∨
      other.run text = .ok (value, rest) := by
  change (if text.head? = some first then matching.run text else other.run text) = _ at read
  by_cases opened : text.head? = some first
  · rw [if_pos opened] at read
    obtain ⟨others, rfl⟩ := List.head?_eq_some_iff.mp opened
    exact .inl ⟨others, rfl, read⟩
  · rw [if_neg opened] at read
    exact .inr read

theorem reader_check_ok {judge : α → Except Cause β} {reader : Reader α} {text rest : List Char} {result : β}
    (read : (reader.check judge).run text = .ok (result, rest)) :
    ∃ value, reader.run text = .ok (value, rest) ∧ judge value = .ok result := by
  simp only [Reader.check] at read
  cases inner : reader.run text with
  | error fault =>
    rw [inner] at read
    cases read
  | ok taken =>
    rw [inner] at read
    dsimp only at read
    cases judged : judge taken.1 with
    | error cause =>
      rw [judged] at read
      cases read
    | ok own =>
      rw [judged] at read
      cases read
      exact ⟨taken.1, rfl, judged⟩

def Reader.Starts (reader : Reader α) : Prop :=
  ∀ text value rest, reader.run text = .ok (value, rest) → ∃ taken, IsDraft taken ∧ text = taken ++ rest

theorem starts_takes {reader : Reader α} (starts : reader.Starts) : reader.afterSpace.Takes IsDraft := by
  apply takes_after_space
  intro text value rest read
  obtain ⟨taken, draft, same⟩ := starts text value rest read
  exact ⟨[], taken, gap_nil, draft, same⟩

theorem scalar_as_starts (expected : String) (accept : Scalar → Except Cause α) : (scalarAs expected accept).Starts := by
  intro text value rest read
  rcases choose_ok read with ⟨_, _, failed⟩ | read
  · cases failed
  rcases choose_ok read with ⟨_, _, failed⟩ | read
  · cases failed
  obtain ⟨found, scalarRead, _⟩ := reader_check_ok read
  exact scalar_split scalarRead

theorem choose_starts {bracket : Char} {content : Option (Reader α)} {other : Reader α}
    (between : ∀ reader, content = some reader → ∀ text value rest, reader.run text = .ok (value, rest) →
      ∃ body, IsDraft (bracket :: body) ∧ text = body ++ rest) (starts : other.Starts) :
    (Reader.choose bracket (.bracketed content) other).Starts := by
  intro text value rest read
  rcases choose_ok read with ⟨others, rfl, bracketed⟩ | read
  · obtain ⟨reader, present, inner⟩ := bracketed_ok bracketed
    obtain ⟨body, draft, rfl⟩ := between reader present others value rest inner
    exact ⟨bracket :: body, draft, rfl⟩
  · exact starts text value rest read

theorem deeper_some {depth : Nat} {content reader : Reader α} (present : deeper depth content = some reader) :
    content = reader := by
  unfold deeper at present
  split at present
  · cases present
  · exact Option.some.inj present

/-! Records -/

theorem trailing_layout {text : List Char} {texts : List (List Char)} {tail : List Char} (trailing : Trailing texts tail)
    (before : List Char) (blank : Gap before) : Layout ']' (text :: texts) (before ++ (text ++ tail)) := by
  cases texts with
  | nil =>
    obtain ⟨gap, blankGap, rfl⟩ := trailing
    exact .last blank blankGap
  | cons second texts =>
    obtain ⟨gap, body, blankGap, layout, rfl⟩ := trailing
    exact .more blank blankGap layout

theorem pending_end (start : Bool) {gap : List Char} (blank : Gap gap) : Pending start [] (gap ++ [']']) := by
  cases start with
  | true => exact .empty blank
  | false => exact ⟨gap, blank, rfl⟩

theorem trailing_closed {texts : List (List Char)} {tail after rest : List Char} (trailing : Trailing texts tail)
    (same : ']' :: after = tail ++ rest) : texts = [] ∧ after = rest := by
  have solid : ∀ gap behind, Gap gap → ']' :: after = gap ++ behind → gap = [] := by
    intro gap behind blank opened
    cases gap with
    | nil => rfl
    | cons c gap =>
      have space := blank c List.mem_cons_self
      rw [← (List.cons.inj opened).1] at space
      cases space
  cases texts with
  | nil =>
    obtain ⟨gap, blank, rfl⟩ := trailing
    rw [List.append_assoc] at same
    obtain rfl := solid gap _ blank same
    exact ⟨rfl, (List.cons.inj same).2⟩
  | cons text texts =>
    obtain ⟨gap, body, blank, _, rfl⟩ := trailing
    rw [List.append_assoc] at same
    obtain rfl := solid gap _ blank same
    exact absurd (List.cons.inj same).1 (by decide)

def Reader.TakesItems (reader : Reader α) (start : Bool) : Prop :=
  ∀ text value rest, reader.run text = .ok (value, rest) →
    ∃ texts tail, (∀ taken ∈ texts, IsDraft taken) ∧ Pending start texts tail ∧ text = tail ++ rest

theorem list_end_takes (start : Bool) : listEnd.TakesItems start := by
  intro text value rest read
  obtain ⟨gap, blank, spaced⟩ := skip_space_split text
  change listEndBody text = _ at read
  unfold listEndBody at read
  split at read
  · cases read
  · rename_i c after here
    rw [here] at spaced
    split at read
    · rename_i closes
      cases read
      refine ⟨[], gap ++ [']'], List.forall_mem_nil _, pending_end start blank, ?_⟩
      rw [spaced, closes, List.append_assoc, List.singleton_append]
    · split at read
      · split at read <;> cases read
      · cases read

theorem element_ok {element : Reader α} {others : Reader β} {start : Bool} {absent : Except Cause α} {text rest : List Char}
    {result : α × β} (read : (NodeProbe.Json.element start absent element others).run text = .ok (result, rest)) :
    (∃ after later, skipSpace text = ']' :: after ∧ others.run (']' :: after) = .ok (later, rest)) ∨
      ∃ next, (element.bind fun value => others.map (value, ·)).run next = .ok (result, rest) ∧
        (start = true ∧ skipSpace text = next ∨
          start = false ∧ ∃ behind, skipSpace text = ',' :: behind ∧ skipSpace behind = next) := by
  change elementBody start absent element others text = _ at read
  unfold elementBody at read
  split at read
  · cases read
  rename_i c after spaced
  split at read
  · rename_i closes
    subst closes
    split at read
    · cases read
    · obtain ⟨later, onward, _⟩ := reader_map_ok read
      exact .inl ⟨after, later, spaced, onward⟩
  split at read
  · rename_i first
    exact .inr ⟨c :: after, read, .inl ⟨first, spaced⟩⟩
  rename_i notFirst
  split at read
  · rename_i comma
    subst comma
    split at read
    · cases read
    rename_i d behind spacedAfter
    split at read
    · cases read
    · exact .inr ⟨d :: behind, read, .inr ⟨Bool.eq_false_iff.mpr notFirst, after, spaced, spacedAfter⟩⟩
  · cases read

theorem item_takes {element : Reader α} {others : Reader β} (takes : element.Takes IsDraft)
    (takesOthers : others.TakesItems false) {text rest : List Char} {result : α × β}
    (read : (element.bind fun value => others.map (value, ·)).run text = .ok (result, rest)) :
    ∃ gap taken texts tail, Gap gap ∧ IsDraft taken ∧ (∀ taken ∈ texts, IsDraft taken) ∧ Trailing texts tail ∧
      text = gap ++ (taken ++ (tail ++ rest)) := by
  obtain ⟨first, middle, here, later⟩ := reader_bind_ok read
  obtain ⟨gap, taken, blank, draft, rfl⟩ := takes text first middle here
  obtain ⟨_, onward, _⟩ := reader_map_ok later
  obtain ⟨texts, tail, drafts, trailing, rfl⟩ := takesOthers _ _ _ onward
  exact ⟨gap, taken, texts, tail, blank, draft, drafts, trailing, rfl⟩

theorem element_takes {element : Reader α} {others : Reader β} (start : Bool) (absent : Except Cause α)
    (takes : element.Takes IsDraft) (takesOthers : others.TakesItems false) :
    (NodeProbe.Json.element start absent element others).TakesItems start := by
  intro text value rest read
  obtain ⟨gap, blank, spaced⟩ := skip_space_split text
  rcases element_ok read with ⟨after, later, closes, onward⟩ | ⟨next, read, placed⟩
  · obtain ⟨texts, tail, _, trailing, same⟩ := takesOthers _ _ _ onward
    obtain ⟨_, rfl⟩ := trailing_closed trailing same
    refine ⟨[], gap ++ [']'], List.forall_mem_nil _, pending_end start blank, ?_⟩
    rw [spaced, closes, List.append_assoc, List.singleton_append]
  · obtain ⟨lead, taken, texts, tail, blankLead, draft, drafts, trailing, same⟩ := item_takes takes takesOthers read
    have each : ∀ text ∈ taken :: texts, IsDraft text := List.forall_mem_cons.mpr ⟨draft, drafts⟩
    rcases placed with ⟨rfl, here⟩ | ⟨rfl, behind, comma, here⟩
    · refine ⟨taken :: texts, gap ++ lead ++ (taken ++ tail), each, ?_, ?_⟩
      · exact trailing_layout trailing _ (gap_append blank blankLead)
      · rw [spaced, here, same]
        simp only [List.append_assoc]
    · obtain ⟨before, blankBefore, spacedBehind⟩ := skip_space_split behind
      refine ⟨taken :: texts, gap ++ ',' :: (before ++ lead ++ (taken ++ tail)), each, ?_, ?_⟩
      · exact ⟨gap, _, blank, trailing_layout trailing _ (gap_append blankBefore blankLead), rfl⟩
      · rw [spaced, comma, spacedBehind, here, same]
        simp only [List.append_assoc, List.cons_append]

mutual
theorem shape_takes {α : Type} (shape : Shape α) (depth : Nat) : (shape.reader depth).Takes IsDraft := by
  match α, shape with
  | _, .text => exact starts_takes (scalar_as_starts _ _)
  | _, .path => exact starts_takes (scalar_as_starts _ _)
  | _, .boolean => exact starts_takes (scalar_as_starts _ _)
  | _, .word kind => exact starts_takes (scalar_as_starts _ _)
  | _, .optional inner =>
    apply takes_after_space
    intro text value rest read
    rcases choose_ok read with ⟨others, rfl, null⟩ | read
    · obtain ⟨_, scalarRead, _⟩ := reader_map_ok null
      obtain ⟨taken, draft, same⟩ := scalar_split scalarRead
      exact ⟨[], taken, gap_nil, draft, same⟩
    · obtain ⟨_, inside, _⟩ := reader_map_ok read
      exact shape_takes inner depth text _ rest inside
  | _, .list item =>
    refine starts_takes (choose_starts ?_ (scalar_as_starts _ _))
    intro reader present text value rest read
    obtain rfl := deeper_some present
    exact list_items_split (shape_takes item (depth - 1)) read
  | _, .members =>
    refine starts_takes (choose_starts ?_ (scalar_as_starts _ _))
    intro reader present text value rest read
    obtain rfl := deeper_some present
    exact object_items_split (value_takes (depth - 1)) read
  | _, .record name fields build _ =>
    refine starts_takes (choose_starts ?_ (choose_starts ?_ (scalar_as_starts _ _)))
    · intro reader present text value rest read
      obtain rfl := deeper_some present
      obtain ⟨_, inner, _⟩ := reader_map_ok read
      obtain ⟨texts, tail, drafts, layout, same⟩ := fields_takes_items fields (depth - 1) _ 0 text _ rest inner
      exact ⟨tail, list_is_draft layout drafts, same⟩
    · intro reader present text value rest read
      obtain rfl := deeper_some present
      obtain ⟨_, checked, _⟩ := reader_map_ok read
      obtain ⟨_, members, _⟩ := reader_check_ok checked
      obtain ⟨texts, body, layout, pieces, same⟩ :=
        enclosure_split (fun slots => name_takes fun key => fields_take_content fields (depth - 1) key slots) _ members
      exact ⟨body, object_is_draft layout pieces, same⟩

theorem fields_take_content {β : Type} (fields : Fields β) (depth : Nat) (key : String) (slots : fields.Slots) :
    ((fields.member depth key slots).getD (skip.afterColon.map fun _ => slots)).Takes IsContent := by
  match β, fields, slots with
  | _, .done, slots => exact takes_map _ (after_colon_takes skip_takes)
  | _, .field name shape absence rest, slots =>
    obtain ⟨first, others⟩ := slots
    by_cases same : key = name
    · simp only [Fields.member, if_pos same, Option.getD_some]
      cases first with
      | some value => exact fun _ _ _ read => nomatch read
      | none => exact takes_map _ (after_colon_takes (shape_takes shape depth))
    · simp only [Fields.member, if_neg same]
      intro text value behind read
      have left := (member_rest (rest.member depth key others) first others text).symm.trans read
      exact takes_map _ (fields_take_content rest depth key others) text value behind left

theorem fields_takes_items {β : Type} (fields : Fields β) (depth : Nat) (tooShort : Nat → Cause) (read : Nat) :
    (fields.elements depth tooShort read).TakesItems (decide (read = 0)) := by
  match β, fields with
  | _, .done => exact list_end_takes _
  | _, .field name shape absence rest =>
    exact element_takes _ _ (shape_takes shape depth) (fields_takes_items rest depth tooShort (read + 1))
end

/-! Whole texts -/

theorem shape_behind_gap (shape : Shape α) (depth : Nat) (gap text : List Char) (blank : Gap gap) :
    (shape.reader depth).run (gap ++ text) = (shape.reader depth).run text := by
  cases shape <;> simp only [Shape.reader, Reader.afterSpace, skip_space_gap gap text blank]

theorem decode_written (shape : Shape α) {draft : Draft} {text : String} (writes : draft.Writes text.toList) :
    (shape.decode text).toOption = shape.read depthLimit draft := by
  obtain ⟨before, spelled, after, blankBefore, blankAfter, written, same⟩ := writes
  obtain ⟨outcome, gives, read⟩ := shape_settles shape written depthLimit
  have ends := gives after (List.append_nil after ▸ delimited_gap after [] blankAfter delimited_nil)
  rw [← shape_behind_gap shape depthLimit before _ blankBefore, ← same] at ends
  rw [← read, Shape.decode, Reader.document]
  cases outcome with
  | ok value =>
    have taken : (shape.reader depthLimit).run text.toList = .ok (value, after) := ends
    rw [taken]
    dsimp only
    rw [skip_gap after blankAfter]
    rfl
  | error cause =>
    obtain ⟨unread, refused⟩ := ends
    rw [refused]
    rfl

theorem decode_is_json (shape : Shape α) (text : String) (value : α) (decoded : shape.decode text = .ok value) :
    IsJson text.toList := by
  obtain ⟨rest, read, blank⟩ := document_ok decoded
  obtain ⟨gap, taken, blankGap, ⟨draft, written⟩, same⟩ := shape_takes shape depthLimit _ _ _ read
  exact ⟨draft, gap, taken, rest, blankGap, blank, written, same⟩

theorem decode_ok_iff (shape : Shape α) (text : String) (value : α) :
    shape.decode text = .ok value ↔ ∃ draft : Draft, draft.Writes text.toList ∧ shape.read depthLimit draft = some value := by
  constructor
  · intro decoded
    obtain ⟨draft, writes⟩ := decode_is_json shape text value decoded
    exact ⟨draft, writes, (decode_written shape writes).symm.trans (to_option_some.mpr decoded)⟩
  · rintro ⟨draft, writes, read⟩
    exact to_option_some.mp ((decode_written shape writes).trans read)

end NodeProbe.Json
