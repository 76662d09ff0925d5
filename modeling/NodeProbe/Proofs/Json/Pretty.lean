import NodeProbe.Json.Document
import NodeProbe.Proofs.Json.Spelling

set_option autoImplicit false

namespace NodeProbe.Json

def separated (close : Char) : List (List Char) → List Char
  | [] => [close]
  | text :: rest => ',' :: (text ++ separated close rest)

theorem separated_layout (close : Char) (text : List Char) (rest : List (List Char)) :
    Layout close (text :: rest) (text ++ separated close rest) := by
  induction rest generalizing text with
  | nil => exact .last gap_nil gap_nil
  | cons second rest ih => exact .more gap_nil gap_nil (ih second)

theorem write_items_separated (items : List Value) : writeItems items = separated ']' (items.map Value.write) := by
  induction items with
  | nil => rfl
  | cons item rest ih => rw [writeItems, ih]; rfl

def writeLabel (name : String) : List Char := quote name ++ [':']

theorem write_members_separated (members : Members) :
    writeMembers members =
      separated '\x7d' (members.map fun member => writeLabel member.1 ++ member.2.write) := by
  induction members with
  | nil => rfl
  | cons member rest ih =>
    obtain ⟨name, value⟩ := member
    rw [writeMembers, ih, List.map_cons, separated, writeLabel]
    simp only [List.append_assoc, List.cons_append, List.nil_append]

theorem write_label_spelling (name : String) : LabelSpelling name (writeLabel name) := by
  refine ⟨_, [':'], escape_chars_spelling name.toList, ⟨[], [], gap_nil, gap_nil, rfl⟩, ?_⟩
  simp only [writeLabel, quote, List.cons_append, List.append_assoc, List.nil_append]

theorem spelling_list (items : List Value) (text : Value → List Char) {body : List Char}
    (each : ∀ item ∈ items, Spelling item (text item)) (layout : Layout ']' (items.map text) body) :
    Spelling (.list items) ('[' :: body) := by
  have spelling := @Spelling.list (items.map fun item => (item, text item)) body (List.forall_mem_map.mpr each)
    (by rwa [List.map_map])
  rw [List.map_map] at spelling
  exact (List.map_id items) ▸ spelling

theorem spelling_object (members : Members) (label : String → List Char) (text : Value → List Char)
    {body : List Char} (labels : ∀ name, LabelSpelling name (label name))
    (each : ∀ member ∈ members, Spelling member.2 (text member.2))
    (layout : Layout '\x7d' (members.map fun member => label member.1 ++ text member.2) body) :
    Spelling (.object members) ('\x7b' :: body) := by
  have spelling := @Spelling.object (members.map fun member => ⟨member.1, label member.1, member.2, text member.2⟩) body
    (List.forall_mem_map.mpr fun member _ => labels member.1) (List.forall_mem_map.mpr each) (by rwa [List.map_map])
  rw [List.map_map] at spelling
  exact (List.map_id members) ▸ spelling

theorem write_object_separated (member : String × Value) (rest : Members) :
    (Value.object (member :: rest)).write =
      '\x7b' :: ((writeLabel member.1 ++ member.2.write) ++
        separated '\x7d' (rest.map fun member => writeLabel member.1 ++ member.2.write)) := by
  obtain ⟨name, value⟩ := member
  rw [Value.write, write_members_separated, writeLabel]
  simp only [List.append_assoc, List.cons_append, List.nil_append]

theorem compact_spelling (document : Value) (exact : document.Exact) : Spelling document document.write := by
  induction document using value_induction with
  | null => exact .null
  | boolean truth => exact .boolean truth
  | number number =>
    cases number with
    | integer value => exact .integer value
    | float value => exact False.elim exact
  | text content => exact .text (escape_chars_spelling content.toList)
  | list items ih =>
    have inner := ((everywhere_list _ items).mp exact).2
    have each : ∀ item ∈ items, Spelling item item.write := fun item present => ih item present (inner item present)
    cases items with
    | nil => exact spelling_list [] Value.write each (.empty gap_nil)
    | cons item rest =>
      rw [Value.write, write_items_separated]
      exact spelling_list (item :: rest) Value.write each (separated_layout ']' item.write _)
  | object members ih =>
    have inner := ((everywhere_object _ members).mp exact).2
    have each : ∀ member ∈ members, Spelling member.2 member.2.write :=
      fun member present => ih member present (inner member present)
    cases members with
    | nil => exact spelling_object [] writeLabel Value.write write_label_spelling each (.empty gap_nil)
    | cons member rest =>
      rw [write_object_separated]
      exact spelling_object (member :: rest) writeLabel Value.write write_label_spelling each (separated_layout _ _ _)


theorem line_break_gap (depth : Nat) : Gap (lineBreak depth) := by
  intro c present
  rcases List.mem_cons.mp present with rfl | indent
  · rfl
  · cases List.eq_of_mem_replicate indent
    rfl

-- Texts on lines of their own, with the closing bracket on a line that is indented less.
def lined (depth : Nat) (close : Char) : List (List Char) → List Char
  | [] => lineBreak depth ++ [close]
  | text :: rest => ',' :: (lineBreak (depth + 1) ++ (text ++ lined depth close rest))

theorem lined_layout (depth : Nat) (close : Char) (text : List Char) (rest : List (List Char)) :
    Layout close (text :: rest) (lineBreak (depth + 1) ++ (text ++ lined depth close rest)) := by
  induction rest generalizing text with
  | nil => exact .last (line_break_gap (depth + 1)) (line_break_gap depth)
  | cons second rest ih => exact .more (line_break_gap (depth + 1)) gap_nil (ih second)

theorem pretty_items_lined (depth : Nat) (items : List Value) :
    prettyItems depth items = lined depth ']' (items.map fun item => item.writePretty (depth + 1)) := by
  induction items with
  | nil => rfl
  | cons item rest ih =>
    rw [prettyItems, ih, List.map_cons, lined, List.cons_append, List.cons_append, List.append_assoc]

def prettyLabel (name : String) : List Char := quote name ++ [':', ' ']

theorem pretty_members_lined (depth : Nat) (members : Members) :
    prettyMembers depth members =
      lined depth '\x7d' (members.map fun member => prettyLabel member.1 ++ member.2.writePretty (depth + 1)) := by
  induction members with
  | nil => rfl
  | cons member rest ih =>
    obtain ⟨name, value⟩ := member
    rw [prettyMembers, ih, List.map_cons, lined, prettyLabel]
    simp only [List.append_assoc, List.cons_append, List.nil_append]

theorem pretty_label_spelling (name : String) : LabelSpelling name (prettyLabel name) := by
  have space : Gap [' '] := by
    intro c present
    cases List.mem_singleton.mp present
    rfl
  refine ⟨_, [':', ' '], escape_chars_spelling name.toList, ⟨[], [' '], gap_nil, space, rfl⟩, ?_⟩
  simp only [prettyLabel, quote, List.cons_append, List.append_assoc, List.nil_append]

theorem pretty_list_lined (depth : Nat) (item : Value) (rest : List Value) :
    (Value.list (item :: rest)).writePretty depth =
      '[' :: (lineBreak (depth + 1) ++ (item.writePretty (depth + 1) ++
        lined depth ']' (rest.map fun item => item.writePretty (depth + 1)))) := by
  rw [Value.writePretty, pretty_items_lined, List.cons_append, List.cons_append, List.append_assoc]

theorem pretty_object_lined (depth : Nat) (member : String × Value) (rest : Members) :
    (Value.object (member :: rest)).writePretty depth =
      '\x7b' :: (lineBreak (depth + 1) ++ ((prettyLabel member.1 ++ member.2.writePretty (depth + 1)) ++
        lined depth '\x7d' (rest.map fun member => prettyLabel member.1 ++ member.2.writePretty (depth + 1)))) := by
  obtain ⟨name, value⟩ := member
  rw [Value.writePretty, pretty_members_lined, prettyLabel]
  simp only [List.append_assoc, List.cons_append, List.nil_append]

theorem pretty_spelling (document : Value) (exact : document.Exact) (depth : Nat) :
    Spelling document (document.writePretty depth) := by
  induction document using value_induction generalizing depth with
  | null => exact .null
  | boolean truth => exact .boolean truth
  | number number =>
    cases number with
    | integer value => exact .integer value
    | float value => exact False.elim exact
  | text content => exact .text (escape_chars_spelling content.toList)
  | list items ih =>
    have inner := ((everywhere_list _ items).mp exact).2
    have each : ∀ item ∈ items, Spelling item (item.writePretty (depth + 1)) :=
      fun item present => ih item present (inner item present) (depth + 1)
    cases items with
    | nil => exact spelling_list [] (Value.writePretty (depth + 1)) each (.empty gap_nil)
    | cons item rest =>
      rw [pretty_list_lined]
      exact spelling_list (item :: rest) (Value.writePretty (depth + 1)) each (lined_layout depth ']' _ _)
  | object members ih =>
    have inner := ((everywhere_object _ members).mp exact).2
    have each : ∀ member ∈ members, Spelling member.2 (member.2.writePretty (depth + 1)) :=
      fun member present => ih member present (inner member present) (depth + 1)
    cases members with
    | nil => exact spelling_object [] prettyLabel (Value.writePretty (depth + 1)) pretty_label_spelling each (.empty gap_nil)
    | cons member rest =>
      rw [pretty_object_lined]
      exact spelling_object (member :: rest) prettyLabel (Value.writePretty (depth + 1)) pretty_label_spelling each
        (lined_layout depth '\x7d' _ _)

theorem spelled_parse (document : Value) (canonical : document.Canonical) (shallow : document.depth ≤ depthLimit)
    {text : List Char} (spelling : Spelling document text) : parse (String.ofList text) = .ok document := by
  have given := value_gives spelling depthLimit
  rw [within, if_pos shallow, sorted_of_canonical document canonical] at given
  rw [parse, String.toList_ofList]
  exact document_reads given

theorem pretty_parse (document : Value) (canonical : document.Canonical) (exact : document.Exact)
    (shallow : document.depth ≤ depthLimit) : parse document.pretty = .ok document :=
  spelled_parse document canonical shallow (pretty_spelling document exact 0)

theorem compact_parse (document : Value) (canonical : document.Canonical) (exact : document.Exact)
    (shallow : document.depth ≤ depthLimit) : parse document.compact = .ok document :=
  spelled_parse document canonical shallow (compact_spelling document exact)

end NodeProbe.Json
