import NodeProbe.Proofs.Json.Quoting
import NodeProbe.Proofs.Json.Rendering
import NodeProbe.Rosetta.Query

set_option autoImplicit false

namespace NodeProbe.Json

-- A text without the spaces and line feeds that stand outside its string literals.
def squeeze : List Char → List Char := view fun marked => marked.1 ≠ .outside || !isGap marked.2

-- The string literals of a text, one after another, with their quotes.
def literals : List Char → List Char := view fun marked => marked.1 ≠ .outside || marked.2 = '"'

theorem annotate_filter (quoting : Quoting) (text : List Char) {kept : Quoting × Char → Bool}
    (dropped : ∀ marked, kept marked = false → marked.1 = .outside ∧ marked.2 ≠ '"') :
    quoting.annotate (((quoting.annotate text).filter kept).map Prod.snd) = (quoting.annotate text).filter kept := by
  induction text generalizing quoting with
  | nil => rfl
  | cons c rest ih =>
    rw [Quoting.annotate, List.filter_cons]
    split
    · rw [List.map_cons, Quoting.annotate, ih]
    · rename_i refused
      obtain ⟨outside, other⟩ := dropped (quoting, c) (Bool.eq_false_iff.mpr refused)
      have same : quoting.next c = quoting := by
        rw [show quoting = .outside from outside]
        exact if_neg other
      rw [same, ih]

theorem squeeze_literals (text : List Char) : literals (squeeze text) = literals text := by
  rw [literals, view, squeeze, view, annotate_filter .outside text, List.filter_filter, view]
  · congr 1
    apply List.filter_congr
    rintro ⟨quoting, c⟩ _
    by_cases quote : c = '"'
    · simp [quote, isGap]
    · by_cases outside : quoting = .outside <;> simp [outside, quote]
  · rintro ⟨quoting, c⟩ refused
    have gap : quoting = .outside ∧ isGap c = true := by simpa using refused
    refine ⟨gap.1, ?_⟩
    rintro rfl
    exact absurd gap.2 (by decide)

/-! The compact form -/

def joined (brackets : Brackets) : List (List Char) → List Char
  | [] => [brackets.opening, brackets.closing]
  | text :: rest => brackets.opening :: (text ++ separated brackets.closing rest)

theorem write_list_joined (items : List Value) : (Value.list items).write = joined .square (items.map Value.write) := by
  cases items with
  | nil => rfl
  | cons item rest =>
    rw [Value.write, write_items_separated]
    rfl

theorem write_object_joined (members : Members) :
    (Value.object members).write = joined .curly (members.map fun member => writeLabel member.1 ++ member.2.write) := by
  cases members with
  | nil => rfl
  | cons member rest => exact write_object_separated member rest

theorem separated_flat (close : Char) (texts : List (List Char)) :
    separated close texts = texts.flatMap (',' :: ·) ++ [close] := by
  induction texts with
  | nil => rfl
  | cons text rest ih => rw [separated, ih, List.flatMap_cons, List.cons_append, List.cons_append, List.append_assoc]

theorem squeeze_append {first : List Char} (closed : Closed first) (second : List Char) :
    squeeze (first ++ second) = squeeze first ++ squeeze second := view_append _ closed second

theorem squeeze_unquoted {text : List Char} (unquoted : '"' ∉ text) : squeeze text = text.filter (!isGap ·) := by
  rw [squeeze, view_unquoted _ unquoted]
  apply List.filter_congr
  intro c _
  simp

theorem squeeze_token {text : List Char} (token : Token text) : squeeze text = text := by
  rw [squeeze_unquoted (token_unquoted token), List.filter_eq_self]
  intro c present
  rw [plain_solid (token.plain c present), Bool.not_false]

theorem squeeze_quote (content : String) : squeeze (quote content) = quote content :=
  view_quote _ content (by decide) fun quoting c within => by simp [within]

theorem squeeze_break (depth : Nat) : squeeze (lineBreak depth) = [] := by
  rw [squeeze_unquoted (break_unquoted depth), List.filter_eq_nil_iff, lineBreak]
  exact List.forall_mem_cons.mpr ⟨by decide, fun c indent => by rw [List.eq_of_mem_replicate indent]; decide⟩

theorem squeeze_cons {c : Char} (other : c ≠ '"') (solid : isGap c = false) (text : List Char) :
    squeeze (c :: text) = c :: squeeze text := by
  rw [squeeze, view_cons _ other, if_pos (by simp [solid])]

theorem squeeze_label (name : String) (text : List Char) :
    squeeze (prettyLabel name ++ text) = writeLabel name ++ squeeze text := by
  have colon : squeeze [':', ' '] = [':'] := rfl
  rw [squeeze_append (label_closed name), prettyLabel, squeeze_append (quote_closed name), squeeze_quote, colon, writeLabel]

theorem squeeze_lined (depth : Nat) (brackets : Brackets) {texts : List (List Char)} (closed : ∀ text ∈ texts, Closed text) :
    squeeze (lined depth brackets.closing texts) = separated brackets.closing (texts.map squeeze) := by
  have last : squeeze (lineBreak depth ++ [brackets.closing]) = [brackets.closing] := by
    rw [squeeze_append (break_closed depth), squeeze_break]
    cases brackets <;> rfl
  have comma : squeeze (',' :: lineBreak (depth + 1)) = [','] := by
    rw [squeeze_cons (by decide) (by decide), squeeze_break]
  calc squeeze (lined depth brackets.closing texts)
    _ = texts.flatMap (fun text => squeeze (',' :: lineBreak (depth + 1)) ++ squeeze text) ++
        squeeze (lineBreak depth ++ [brackets.closing]) := view_lined _ depth brackets.closing closed
    _ = separated brackets.closing (texts.map squeeze) := by
      rw [comma, last, separated_flat, List.flatMap_map]
      rfl

theorem squeeze_nested (depth : Nat) (brackets : Brackets) {texts : List (List Char)} (closed : ∀ text ∈ texts, Closed text) :
    squeeze (nested depth brackets texts) = joined brackets (texts.map squeeze) := by
  cases texts with
  | nil => cases brackets <;> rfl
  | cons text rest =>
    obtain ⟨first, others⟩ := List.forall_mem_cons.mp closed
    have solid : isGap brackets.opening = false := by cases brackets <;> rfl
    rw [nested, squeeze_cons (opening_not_quote brackets) solid, squeeze_append (break_closed (depth + 1)), squeeze_break,
      List.nil_append, squeeze_append first, squeeze_lined depth brackets others]
    rfl

theorem squeeze_pretty (value : Value) (depth : Nat) : squeeze (value.writePretty depth) = value.write := by
  induction value using value_induction generalizing depth with
  | null => rfl
  | boolean truth => exact squeeze_token (boolean_token truth)
  | number number => exact squeeze_token (number_token number)
  | text content => exact squeeze_quote content
  | list items ih =>
    rw [pretty_list_nested, squeeze_nested depth .square (item_texts_closed (depth + 1) items), write_list_joined, List.map_map]
    exact congrArg _ (List.map_congr_left fun item present => ih item present (depth + 1))
  | object members ih =>
    rw [pretty_object_nested, squeeze_nested depth .curly (member_texts_closed (depth + 1) members), write_object_joined,
      List.map_map]
    refine congrArg _ (List.map_congr_left fun member present => ?_)
    exact (squeeze_label member.1 _).trans (congrArg (writeLabel member.1 ++ ·) (ih member present (depth + 1)))

example : squeeze "[\n    \" , [\\\" \",\n    []\n]".toList = "[\" , [\\\" \",[]]".toList := by decide +kernel

/-! The literals -/

mutual
def Value.texts : Value → List String
  | .text content => [content]
  | .list items => itemTexts items
  | .object members => memberTexts members
  | _ => []

def itemTexts : List Value → List String
  | [] => []
  | item :: rest => item.texts ++ itemTexts rest

def memberTexts : List (String × Value) → List String
  | [] => []
  | (name, value) :: rest => name :: value.texts ++ memberTexts rest
end

theorem item_texts_flat (items : List Value) : itemTexts items = items.flatMap Value.texts := by
  induction items with
  | nil => rfl
  | cons item rest ih => rw [itemTexts, ih, List.flatMap_cons]

theorem member_texts_flat (members : Members) :
    memberTexts members = members.flatMap fun member => member.1 :: member.2.texts := by
  induction members with
  | nil => rfl
  | cons member rest ih => rw [memberTexts, ih, List.flatMap_cons]

theorem literals_append {first : List Char} (closed : Closed first) (second : List Char) :
    literals (first ++ second) = literals first ++ literals second := view_append _ closed second

theorem literals_unquoted {text : List Char} (unquoted : '"' ∉ text) : literals text = [] := by
  rw [literals, view_unquoted _ unquoted, List.filter_eq_nil_iff]
  rintro c present marked
  have quote : c = '"' := by simpa using marked
  exact unquoted (quote ▸ present)

theorem literals_quote (content : String) : literals (quote content) = quote content :=
  view_quote _ content (by decide) fun quoting c within => by simp [within]

theorem literals_label (name : String) (text : List Char) :
    literals (prettyLabel name ++ text) = quote name ++ literals text := by
  have colon : literals [':', ' '] = [] := rfl
  rw [literals_append (label_closed name), prettyLabel, literals_append (quote_closed name), literals_quote, colon,
    List.append_nil]

theorem literals_lined (depth : Nat) (brackets : Brackets) {texts : List (List Char)} (closed : ∀ text ∈ texts, Closed text) :
    literals (lined depth brackets.closing texts) = texts.flatMap literals := by
  have last : literals (lineBreak depth ++ [brackets.closing]) = [] := by
    rw [literals_append (break_closed depth), literals_unquoted (break_unquoted depth)]
    cases brackets <;> rfl
  have comma : literals (',' :: lineBreak (depth + 1)) = [] :=
    literals_unquoted (List.not_mem_cons_of_ne_of_not_mem (by decide) (break_unquoted (depth + 1)))
  calc literals (lined depth brackets.closing texts)
    _ = texts.flatMap (fun text => literals (',' :: lineBreak (depth + 1)) ++ literals text) ++
        literals (lineBreak depth ++ [brackets.closing]) := view_lined _ depth brackets.closing closed
    _ = texts.flatMap literals := by
      rw [comma, last, List.append_nil]
      rfl

theorem literals_nested (depth : Nat) (brackets : Brackets) {texts : List (List Char)} (closed : ∀ text ∈ texts, Closed text) :
    literals (nested depth brackets texts) = texts.flatMap literals := by
  cases texts with
  | nil => cases brackets <;> rfl
  | cons text rest =>
    obtain ⟨first, others⟩ := List.forall_mem_cons.mp closed
    have opening : '"' ∉ brackets.opening :: lineBreak (depth + 1) :=
      List.not_mem_cons_of_ne_of_not_mem (Ne.symm (opening_not_quote brackets)) (break_unquoted (depth + 1))
    rw [nested, ← List.cons_append, literals_append (unquoted_closed opening), literals_unquoted opening, List.nil_append,
      literals_append first, literals_lined depth brackets others, List.flatMap_cons]

theorem literals_pretty (value : Value) (depth : Nat) : literals (value.writePretty depth) = value.texts.flatMap quote := by
  induction value using value_induction generalizing depth with
  | null => rfl
  | boolean truth => exact literals_unquoted (token_unquoted (boolean_token truth))
  | number number => exact literals_unquoted (token_unquoted (number_token number))
  | text content => exact (literals_quote content).trans (List.append_nil _).symm
  | list items ih =>
    rw [pretty_list_nested, literals_nested depth .square (item_texts_closed (depth + 1) items), Value.texts, item_texts_flat,
      List.flatMap_map, List.flatMap_assoc]
    exact List.flatMap_congr fun item present => ih item present (depth + 1)
  | object members ih =>
    rw [pretty_object_nested, literals_nested depth .curly (member_texts_closed (depth + 1) members), Value.texts,
      member_texts_flat, List.flatMap_map, List.flatMap_assoc]
    refine List.flatMap_congr fun member present => ?_
    exact (literals_label member.1 _).trans (congrArg (quote member.1 ++ ·) (ih member present (depth + 1)))

/-- Without the space outside its literals the pretty form is the compact form. -/
theorem pretty_squeezed (value : Value) : ∃ text, value.render = .ok text ∧
    (∀ endpoint, squeeze text.toList = (Rosetta.Request.mk endpoint value).body.toList) ∧
    literals text.toList = literals value.compact.toList ∧ literals text.toList = value.texts.flatMap quote := by
  refine ⟨value.pretty, render_pretty value, ?_⟩
  rw [Value.pretty, Value.compact, String.toList_ofList, String.toList_ofList, ← squeeze_pretty value 0, squeeze_literals]
  refine ⟨fun endpoint => ?_, rfl, literals_pretty value 0⟩
  rw [Rosetta.Request.body, Value.compact, String.toList_ofList, squeeze_pretty]

end NodeProbe.Json
