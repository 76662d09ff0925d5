import NodeProbe.Proofs.Json.FloatLiteral
import NodeProbe.Proofs.Json.Pretty
import NodeProbe.Proofs.Json.Unambiguous

set_option autoImplicit false

namespace NodeProbe.Json

-- The members in the order of the document.
inductive Draft.States : Draft → Value → Prop
  | null : States .null .null
  | boolean (truth : Bool) : States (.boolean truth) (.boolean truth)
  | integer {numeral : Numeral} {value : Integer} : numeral.Spells value.value →
      States (.number numeral) (.number (.integer value))
  | float {numeral : Numeral} {value : Float} : numeral.text = Decimal.Layout.exponential.write value →
      States (.number numeral) (.number (.float value))
  | text {marks : List Mark} {content : String} : Resolves marks content.toList → States (.text marks) (.text content)
  | list {entries : List (Draft × Value)} : (∀ entry ∈ entries, States entry.1 entry.2) →
      States (.list (entries.map Prod.fst)) (.list (entries.map Prod.snd))
  | object {entries : List DenotedMember} : (∀ entry ∈ entries, Resolves entry.marks entry.name.toList) →
      (∀ entry ∈ entries, States entry.draft entry.value) →
      States (.object (entries.map fun entry => (entry.marks, entry.draft)))
        (.object (entries.map fun entry => (entry.name, entry.value)))

-- A text that states the document.
def Printed (value : Value) (text : List Char) : Prop := ∃ draft : Draft, draft.States value ∧ draft.Written text

theorem number_printed (number : Number) : Printed (.number number) number.write := by
  cases number with
  | integer value =>
    obtain ⟨numeral, text, spells⟩ := integer_numeral_text value
    have written := Draft.Written.number numeral
    rw [text] at written
    exact ⟨.number numeral, .integer spells, written⟩
  | float value =>
    obtain ⟨numeral, text⟩ := float_numeral value
    have written := Draft.Written.number numeral
    rw [text] at written
    exact ⟨.number numeral, .float text, written⟩

theorem char_marks {c : Char} {spelled : List Char} (spelling : CharSpelling c spelled) :
    ∃ marks, MarksSpelling marks spelled ∧ ∀ {others : List Mark} {chars : List Char}, Resolves others chars →
      Resolves (marks ++ others) (c :: chars) := by
  cases spelling with
  | plain notQuote notBackslash visible =>
    exact ⟨_, marks_single (.plain notQuote notBackslash visible), fun behind => .char c behind⟩
  | short escaped => exact ⟨_, marks_single (.short escaped), fun behind => .char c behind⟩
  | unit spelled notTrailing notLeading =>
    exact ⟨_, marks_single (.unit spelled), fun behind => .unit notTrailing notLeading behind⟩
  | @pair leading trailing first second spelledFirst spelledSecond isLeading isTrailing =>
    have both := marks_append (marks_single (.unit spelledFirst)) (marks_single (.unit spelledSecond))
    exact ⟨[.unit leading, .unit trailing], both, fun behind => .pair isLeading isTrailing behind⟩

theorem chars_marks {chars spelled : List Char} (spelling : TextSpelling chars spelled) :
    ∃ marks, MarksSpelling marks spelled ∧ Resolves marks chars := by
  induction spelling with
  | nil => exact ⟨[], .nil, .nil⟩
  | cons first _ ih =>
    obtain ⟨marks, spelled, before⟩ := char_marks first
    obtain ⟨others, spelledOthers, resolves⟩ := ih
    exact ⟨marks ++ others, marks_append spelled spelledOthers, before resolves⟩

theorem text_printed (content : String) : Printed (.text content) (quote content) := by
  obtain ⟨marks, spelled, resolves⟩ := chars_marks (escape_chars_spelling content.toList)
  exact ⟨.text marks, .text resolves, .text spelled⟩

theorem name_printed {name : String} {label : List Char} (spelling : LabelSpelling name label) :
    ∃ marks, Resolves marks name.toList ∧ NameSpelling marks label := by
  obtain ⟨_, separator, spelled, separates, same⟩ := spelling
  obtain ⟨marks, spelledMarks, resolves⟩ := chars_marks spelled
  exact ⟨marks, resolves, _, separator, spelledMarks, separates, same⟩

theorem list_printed (items : List Value) (text : Value → List Char) {body : List Char}
    (each : ∀ item ∈ items, Printed item (text item)) (layout : Layout ']' (items.map text) body) :
    Printed (.list items) ('[' :: body) := by
  obtain ⟨entries, rfl, stated⟩ := entries_of Prod.snd
    (fun entry : Draft × Value => entry.1.States entry.2 ∧ entry.1.Written (text entry.2)) items (by
      intro item present
      obtain ⟨draft, states, written⟩ := each item present
      exact ⟨(draft, item), rfl, states, written⟩)
  refine ⟨_, .list fun entry present => (stated entry present).1, ?_⟩
  have written := @Draft.Written.list (entries.map fun entry => (entry.1, text entry.2)) body
    (List.forall_mem_map.mpr fun entry present => (stated entry present).2) (by rwa [List.map_map] at layout ⊢)
  rwa [List.map_map] at written

theorem object_printed (members : Members) (label : String → List Char) (text : Value → List Char) {body : List Char}
    (labels : ∀ name, LabelSpelling name (label name)) (each : ∀ member ∈ members, Printed member.2 (text member.2))
    (layout : Layout '\x7d' (members.map fun member => label member.1 ++ text member.2) body) :
    Printed (.object members) ('\x7b' :: body) := by
  obtain ⟨entries, rfl, stated⟩ := entries_of (fun entry : DenotedMember => (entry.name, entry.value))
    (fun entry => (Resolves entry.marks entry.name.toList ∧ NameSpelling entry.marks (label entry.name)) ∧
      entry.draft.States entry.value ∧ entry.draft.Written (text entry.value)) members (by
      intro member present
      obtain ⟨draft, states, written⟩ := each member present
      obtain ⟨marks, resolves, spelling⟩ := name_printed (labels member.1)
      exact ⟨⟨marks, draft, member.1, member.2⟩, rfl, ⟨resolves, spelling⟩, states, written⟩)
  refine ⟨_, .object (fun entry present => (stated entry present).1.1) (fun entry present => (stated entry present).2.1), ?_⟩
  have written := @Draft.Written.object
    (entries.map fun entry => ⟨entry.marks, label entry.name, entry.draft, text entry.value⟩) body
    (List.forall_mem_map.mpr fun entry present => (stated entry present).1.2)
    (List.forall_mem_map.mpr fun entry present => (stated entry present).2.2) (by rwa [List.map_map] at layout ⊢)
  rwa [List.map_map] at written

theorem compact_printed (document : Value) : Printed document document.write := by
  induction document using value_induction with
  | null => exact ⟨.null, .null, .null⟩
  | boolean truth => exact ⟨.boolean truth, .boolean truth, .boolean truth⟩
  | number number => exact number_printed number
  | text content => exact text_printed content
  | list items ih =>
    cases items with
    | nil => exact list_printed [] Value.write ih (.empty gap_nil)
    | cons item rest =>
      rw [Value.write, write_items_separated]
      exact list_printed (item :: rest) Value.write ih (separated_layout ']' item.write _)
  | object members ih =>
    cases members with
    | nil => exact object_printed [] writeLabel Value.write write_label_spelling ih (.empty gap_nil)
    | cons member rest =>
      rw [write_object_separated]
      exact object_printed (member :: rest) writeLabel Value.write write_label_spelling ih (separated_layout _ _ _)

theorem pretty_printed (document : Value) (depth : Nat) : Printed document (document.writePretty depth) := by
  induction document using value_induction generalizing depth with
  | null => exact ⟨.null, .null, .null⟩
  | boolean truth => exact ⟨.boolean truth, .boolean truth, .boolean truth⟩
  | number number => exact number_printed number
  | text content => exact text_printed content
  | list items ih =>
    have each : ∀ item ∈ items, Printed item (item.writePretty (depth + 1)) := fun item present => ih item present (depth + 1)
    cases items with
    | nil => exact list_printed [] (Value.writePretty (depth + 1)) each (.empty gap_nil)
    | cons item rest =>
      rw [pretty_list_lined]
      exact list_printed (item :: rest) (Value.writePretty (depth + 1)) each (lined_layout depth ']' _ _)
  | object members ih =>
    have each : ∀ member ∈ members, Printed member.2 (member.2.writePretty (depth + 1)) :=
      fun member present => ih member present (depth + 1)
    cases members with
    | nil => exact object_printed [] prettyLabel (Value.writePretty (depth + 1)) pretty_label_spelling each (.empty gap_nil)
    | cons member rest =>
      rw [pretty_object_lined]
      exact object_printed (member :: rest) prettyLabel (Value.writePretty (depth + 1)) pretty_label_spelling each
        (lined_layout depth '\x7d' _ _)

end NodeProbe.Json
