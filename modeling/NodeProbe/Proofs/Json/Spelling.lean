import NodeProbe.Json.Typed
import NodeProbe.Proofs.Json.IntegerLiteral
import NodeProbe.Proofs.Json.Order
import NodeProbe.Proofs.Json.TextSpelling
import Mathlib.Data.List.Forall2

set_option autoImplicit false

namespace NodeProbe.Json

variable {α β γ σ : Type}

def Separator (text : List Char) : Prop :=
  ∃ before after, Gap before ∧ Gap after ∧ text = before ++ ':' :: after

-- A member of a written object; the label is its text up to where the value starts.
structure WrittenMember where
  name : String
  label : List Char
  value : Value
  text : List Char

def LabelSpelling (name : String) (label : List Char) : Prop :=
  ∃ spelled separator, TextSpelling name.toList spelled ∧ Separator separator ∧
    label = '"' :: (spelled ++ '"' :: separator)

inductive Spelling : Value → List Char → Prop
  | null : Spelling .null writeNull
  | boolean (value : Bool) : Spelling (.boolean value) (writeBoolean value)
  | integer (value : Integer) : Spelling (.number (.integer value)) (Decimal.signed value.value)
  | text {value : String} {spelled : List Char} : TextSpelling value.toList spelled →
      Spelling (.text value) ('"' :: (spelled ++ ['"']))
  | list {entries : List (Value × List Char)} {body : List Char} : (∀ entry ∈ entries, Spelling entry.1 entry.2) →
      Layout ']' (entries.map Prod.snd) body → Spelling (.list (entries.map Prod.fst)) ('[' :: body)
  | object {entries : List WrittenMember} {body : List Char} :
      (∀ entry ∈ entries, LabelSpelling entry.name entry.label) →
      (∀ entry ∈ entries, Spelling entry.value entry.text) →
      Layout '\x7d' (entries.map fun entry => entry.label ++ entry.text) body →
      Spelling (.object (entries.map fun entry => (entry.name, entry.value))) ('\x7b' :: body)

theorem opens_cons (c : Char) (rest : List Char) (mark : isSpace c = false ∧ c ≠ ']' ∧ c ≠ '\x7d') :
    Opens (c :: rest) := ⟨c, rest, rfl, mark⟩

theorem number_start_marks (c : Char) (start : NumberStart c) :
    isSpace c = false ∧ c ≠ '[' ∧ c ≠ '\x7b' ∧ c ≠ ']' ∧ c ≠ '\x7d' ∧ c ≠ 'n' := by
  rcases start with rfl | digit
  · decide
  · obtain ⟨notN, _, _, _, _, notList, notObject, notListEnd, notObjectEnd, solid⟩ := digit_not_letter c digit
    exact ⟨solid, notList, notObject, notListEnd, notObjectEnd, notN⟩

theorem spelling_opens {value : Value} {text : List Char} (spelling : Spelling value text) : Opens text := by
  cases spelling with
  | null => exact opens_cons _ _ (by decide)
  | boolean value => cases value <;> exact opens_cons _ _ (by decide)
  | integer value =>
    obtain ⟨c, rest, same, start⟩ := signed_opens value
    obtain ⟨solid, _, _, notListEnd, notObjectEnd, _⟩ := number_start_marks c start
    exact ⟨c, rest, same, solid, notListEnd, notObjectEnd⟩
  | text spelled => exact opens_cons _ _ (by decide)
  | list each layout => exact opens_cons _ _ (by decide)
  | object labels each layout => exact opens_cons _ _ (by decide)

theorem label_opens {name : String} {label : List Char} (spelling : LabelSpelling name label) : Opens label := by
  obtain ⟨spelled, separator, _, _, rfl⟩ := spelling
  exact opens_cons _ _ (by decide)

theorem scalar_gives {found : Scalar} {text : List Char} (spelling : Spelling found.toValue text) :
    scalar.Gives text (.ok found) := by
  intro rest delimited
  cases found with
  | null => cases spelling; rfl
  | boolean value => cases spelling; cases value <;> rfl
  | number value =>
    cases spelling with
    | integer value => exact scalar_integer value rest delimited
  | text value =>
    cases spelling with
    | text spelled =>
      have read := text_literal_read spelled rest
      simp only [Reading.Ends, List.cons_append, List.append_assoc, List.nil_append]
      rw [scalar]
      simp only [scalarBody, read, Reading.map]
      rfl

theorem scalar_not_bracket {found : Scalar} {text : List Char} (spelling : Spelling found.toValue text) :
    ∃ c rest, text = c :: rest ∧ c ≠ '[' ∧ c ≠ '\x7b' := by
  cases found with
  | null => cases spelling; exact ⟨_, _, rfl, by decide⟩
  | boolean value => cases spelling; cases value <;> exact ⟨_, _, rfl, by decide⟩
  | number value =>
    cases spelling with
    | integer value =>
      obtain ⟨c, rest, same, start⟩ := signed_opens value
      obtain ⟨_, notList, notObject, _⟩ := number_start_marks c start
      exact ⟨c, rest, same, notList, notObject⟩
  | text value => cases spelling; exact ⟨_, _, rfl, by decide⟩

theorem label_gives {next : String → Reader α} {name : String} {label text : List Char} {result : Except Cause α}
    (spelling : LabelSpelling name label)
    (gives : ∀ separator, Separator separator → (next name).Gives (separator ++ text) result) :
    (memberName.bind next).Gives (label ++ text) result := by
  obtain ⟨spelled, separator, spelledName, separates, rfl⟩ := spelling
  have opened : ∀ rest, memberName.run (('"' :: (spelled ++ ['"'])) ++ rest) = .ok (name, rest) := by
    intro rest
    have read := text_literal_read spelledName rest
    simpa [memberName, Reader.bind, Reader.expect] using read
  have both := gives_bind opened (gives separator separates)
  simpa only [List.cons_append, List.append_assoc, List.singleton_append, List.nil_append] using both

theorem after_colon_gives {reader : Reader α} {separator text : List Char} {result : Except Cause α}
    (separates : Separator separator) (opens : Opens text) (gives : reader.Gives text result) :
    reader.afterColon.Gives (separator ++ text) result := by
  obtain ⟨before, after, blankBefore, blankAfter, rfl⟩ := separates
  have opened : ∀ rest, colon.run ((before ++ [':']) ++ rest) = .ok ((), rest) := by
    intro rest
    simp only [colon, Reader.afterSpace, List.append_assoc, List.singleton_append,
      skip_space_gap_solid before rest ':' blankBefore (by decide)]
    rfl
  have spaced := gives_after_gap after blankAfter opens gives
  have both : (colon.bind fun _ => reader.afterSpace).Gives ((before ++ [':']) ++ (after ++ text)) result :=
    gives_bind opened spaced
  simpa only [Reader.afterColon, List.append_assoc, List.cons_append, List.nil_append] using both

def within (depth nesting : Nat) (read : α) : Except Cause α :=
  if nesting ≤ depth then .ok read else .error .tooDeep

theorem within_zero (depth : Nat) (read : α) : within depth 0 read = .ok read := if_pos (Nat.zero_le depth)

theorem within_succ (depth nesting : Nat) (read : α) :
    within (depth + 1) (nesting + 1) read = within depth nesting read := by
  simp only [within, Nat.add_le_add_iff_right]

theorem within_map (depth nesting : Nat) (read : α) (f : α → β) :
    (within depth nesting read).map f = within depth nesting (f read) := by
  unfold within
  split <;> rfl

theorem within_max_shallow {depth first : Nat} (second : Nat) (read : α) (shallow : first ≤ depth) :
    within depth (max first second) read = within depth second read := by
  simp only [within, Nat.max_le, shallow, true_and]

theorem within_deep {depth nesting : Nat} (read : α) (deep : ¬ nesting ≤ depth) :
    within depth nesting read = .error .tooDeep := if_neg deep

theorem within_max_deep {depth first : Nat} (second : Nat) (read : α) (deep : ¬ first ≤ depth) :
    within depth (max first second) read = .error .tooDeep :=
  within_deep read fun both => deep (Nat.max_le.mp both).1

theorem gives_check_within {reader : Reader α} {text : List Char} {depth nesting : Nat} {value : α}
    {result : β} (judge : α → Except Cause β) (gives : reader.Gives text (within depth nesting value))
    (judged : judge value = .ok result) : (reader.check judge).Gives text (within depth nesting result) := by
  by_cases fits : nesting ≤ depth
  · rw [within, if_pos fits] at gives ⊢
    exact gives_check_ok judge gives judged
  · rw [within_deep _ fits] at gives ⊢
    exact gives_check_error judge gives

def ItemsRead (reader : Reader α) (depth : Nat) (entries : List (Value × List Char)) (values : List α) : Prop :=
  List.Forall₂ (fun entry value => reader.Gives entry.2 (within depth entry.1.depth value)) entries values

theorem items_course {reader : Reader α} {depth : Nat} {entries : List (Value × List Char)} {values : List α}
    (opens : ∀ entry ∈ entries, Opens entry.2) (each : ItemsRead reader depth entries values) (before : List α) :
    Course (fun before => reader.afterSpace.map (· :: before)) before (entries.map Prod.snd)
      (within depth (depthItems (entries.map Prod.fst)) (values.reverse ++ before)) := by
  induction each generalizing before with
  | nil =>
    rw [List.map_nil, List.map_nil, depthItems, within_zero]
    exact .done before
  | @cons entry value entries values first others ih =>
    have given := gives_map (· :: before) (gives_after_space (opens entry List.mem_cons_self) first)
    rw [within_map] at given
    rw [List.map_cons, List.map_cons, depthItems]
    by_cases fits : entry.1.depth ≤ depth
    · rw [within, if_pos fits] at given
      rw [within_max_shallow _ _ fits, List.reverse_cons, List.append_assoc]
      exact .next given (ih (fun other present => opens other (List.mem_cons_of_mem entry present)) (value :: before))
    · rw [within_deep _ fits] at given
      rw [within_max_deep _ _ fits]
      exact .stop given

theorem list_items_gives {reader : Reader α} {depth : Nat} {entries : List (Value × List Char)} {values : List α}
    {body : List Char} (layout : Layout ']' (entries.map Prod.snd) body)
    (opens : ∀ entry ∈ entries, Opens entry.2) (each : ItemsRead reader depth entries values) :
    (listItems reader).Gives body (within depth (depthItems (entries.map Prod.fst)) values) := by
  have given := gives_map List.reverse
    (enclosure_layout .list _ layout (List.forall_mem_map.mpr opens) [] _ (items_course opens each []))
  rwa [within_map, List.append_nil, List.reverse_reverse] at given

theorem members_course {reader : Reader Value} {depth : Nat} (entries : List WrittenMember)
    (labels : ∀ entry ∈ entries, LabelSpelling entry.name entry.label)
    (opens : ∀ entry ∈ entries, Opens entry.text)
    (each : ∀ entry ∈ entries, reader.Gives entry.text (within depth entry.value.depth entry.value.sorted))
    (before : Members) :
    Course (fun members => memberName.bind fun name =>
        reader.afterColon.map fun value => Members.insert name value members)
      before (entries.map fun entry => entry.label ++ entry.text)
      (within depth (depthMembers (entries.map fun entry => (entry.name, entry.value)))
        (insertAll before (entries.map fun entry => (entry.name, entry.value.sorted)))) := by
  induction entries generalizing before with
  | nil =>
    rw [List.map_nil, List.map_nil, depthMembers, within_zero]
    exact .done before
  | cons entry rest ih =>
    have given : (memberName.bind fun name => reader.afterColon.map fun value => Members.insert name value before).Gives
        (entry.label ++ entry.text)
        (within depth entry.value.depth (Members.insert entry.name entry.value.sorted before)) := by
      refine label_gives (labels entry List.mem_cons_self) ?_
      intro separator separates
      rw [← within_map depth _ entry.value.sorted fun value => Members.insert entry.name value before]
      exact gives_map _ (after_colon_gives separates (opens entry List.mem_cons_self) (each entry List.mem_cons_self))
    rw [List.map_cons, List.map_cons, depthMembers]
    by_cases fits : entry.value.depth ≤ depth
    · rw [within, if_pos fits] at given
      rw [within_max_shallow _ _ fits]
      exact .next given (ih (fun other present => labels other (List.mem_cons_of_mem entry present))
        (fun other present => opens other (List.mem_cons_of_mem entry present))
        (fun other present => each other (List.mem_cons_of_mem entry present)) _)
    · rw [within_deep _ fits] at given
      rw [within_max_deep _ _ fits]
      exact .stop given

theorem object_items_gives {reader : Reader Value} {depth : Nat} (entries : List WrittenMember) {body : List Char}
    (layout : Layout '\x7d' (entries.map fun entry => entry.label ++ entry.text) body)
    (labels : ∀ entry ∈ entries, LabelSpelling entry.name entry.label)
    (opens : ∀ entry ∈ entries, Opens entry.text)
    (each : ∀ entry ∈ entries, reader.Gives entry.text (within depth entry.value.depth entry.value.sorted)) :
    (objectItems reader).Gives body
      (within depth (depthMembers (entries.map fun entry => (entry.name, entry.value)))
        (Members.ofList (entries.map fun entry => (entry.name, entry.value.sorted)))) :=
  enclosure_layout .object _ layout
    (List.forall_mem_map.mpr fun entry present => opens_append (label_opens (labels entry present)) _) [] _
    (members_course entries labels opens each [])

theorem bracketed_gives {content : Reader α} {depth nesting : Nat} {read : α} {body : List Char} (c : Char)
    (gives : ∀ inner, depth = inner + 1 → content.Gives body (within inner nesting read)) :
    (Reader.bracketed (deeper depth content)).Gives (c :: body) (within depth (nesting + 1) read) := by
  cases depth with
  | zero =>
    rw [within_deep _ (Nat.not_succ_le_zero nesting)]
    exact gives_too_deep c body
  | succ inner =>
    rw [within_succ]
    exact gives_bracketed c (gives inner rfl)

theorem value_choices (depth : Nat) :
    value depth =
      (Reader.choose '[' ((Reader.bracketed (deeper depth (listItems (value (depth - 1))))).map .list)
        (.choose '\x7b' ((Reader.bracketed (deeper depth (objectItems (value (depth - 1))))).map .object)
          (scalar.map Scalar.toValue))).afterSpace := by
  cases depth <;> rfl

theorem value_scalar (found : Scalar) {text : List Char} (spelling : Spelling found.toValue text) (depth : Nat) :
    (value depth).Gives text (within depth found.toValue.depth found.toValue.sorted) := by
  have shallow : within depth found.toValue.depth found.toValue.sorted = .ok found.toValue := by
    cases found <;> exact within_zero depth _
  have given := gives_map Scalar.toValue (scalar_gives spelling)
  have opens := spelling_opens spelling
  obtain ⟨c, rest, rfl, notList, notObject⟩ := scalar_not_bracket spelling
  rw [shallow, value_choices]
  exact gives_after_space opens (gives_choose_other notList (gives_choose_other notObject given))

theorem value_gives {document : Value} {text : List Char} (spelling : Spelling document text) (depth : Nat) :
    (value depth).Gives text (within depth document.depth document.sorted) := by
  induction spelling generalizing depth with
  | null => exact value_scalar .null .null depth
  | boolean truth => exact value_scalar (.boolean truth) (.boolean truth) depth
  | integer number => exact value_scalar (.number (.integer number)) (.integer number) depth
  | @text content _ spelled => exact value_scalar (.text content) (.text spelled) depth
  | @list entries body each layout ih =>
    have opens : ∀ entry ∈ entries, Opens entry.2 := fun entry present => spelling_opens (each entry present)
    have read : ∀ inner, ItemsRead (value inner) inner entries (entries.map fun entry => entry.1.sorted) :=
      fun inner => List.forall₂_map_right_iff.mpr (List.forall₂_same.mpr fun entry present => ih entry present inner)
    have bracketed : (Reader.bracketed (deeper depth (listItems (value (depth - 1))))).Gives ('[' :: body)
        (within depth (depthItems (entries.map Prod.fst) + 1) (entries.map fun entry => entry.1.sorted)) := by
      refine bracketed_gives '[' ?_
      rintro inner rfl
      exact list_items_gives layout opens (read inner)
    have given := gives_map Value.list bracketed
    rw [within_map] at given
    rw [value_choices, sorted_list, List.map_map]
    exact gives_after_space (spelling_opens (.list each layout)) (gives_choose_same given)
  | @object entries body labels each layout ih =>
    have opens : ∀ entry ∈ entries, Opens entry.text := fun entry present => spelling_opens (each entry present)
    have bracketed : (Reader.bracketed (deeper depth (objectItems (value (depth - 1))))).Gives ('\x7b' :: body)
        (within depth (depthMembers (entries.map fun entry => (entry.name, entry.value)) + 1)
          (Members.ofList (entries.map fun entry => (entry.name, entry.value.sorted)))) := by
      refine bracketed_gives '\x7b' ?_
      rintro inner rfl
      exact object_items_gives entries layout labels opens fun entry present => ih entry present inner
    have given := gives_map Value.object bracketed
    rw [within_map] at given
    rw [value_choices, sorted_object, List.map_map]
    exact gives_after_space (spelling_opens (.object labels each layout))
      (gives_choose_other (by decide) (gives_choose_same given))

end NodeProbe.Json
