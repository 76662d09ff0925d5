import NodeProbe.Proofs.Json.Indentation
import NodeProbe.Proofs.Json.Rendering
import Mathlib.Algebra.GroupWithZero.Nat

set_option autoImplicit false

namespace NodeProbe.Json

mutual
-- The lists and objects of a document, each with the number of its items or members.
def Value.containers : Value → List (Brackets × Nat)
  | .list items => (.square, items.length) :: itemContainers items
  | .object members => (.curly, members.length) :: memberContainers members
  | _ => []

def itemContainers : List Value → List (Brackets × Nat)
  | [] => []
  | item :: rest => item.containers ++ itemContainers rest

def memberContainers : List (String × Value) → List (Brackets × Nat)
  | [] => []
  | (_, value) :: rest => value.containers ++ memberContainers rest
end

theorem item_containers_flat (items : List Value) : itemContainers items = items.flatMap Value.containers := by
  induction items with
  | nil => rfl
  | cons item rest ih => rw [itemContainers, ih, List.flatMap_cons]

theorem member_containers_flat (members : Members) :
    memberContainers members = members.flatMap fun member => member.2.containers := by
  induction members with
  | nil => rfl
  | cons member rest ih => rw [memberContainers, ih, List.flatMap_cons]

theorem sum_flat {α β : Type} (values : List α) (parts : α → List β) (own : β → Nat) :
    ((values.flatMap parts).map own).sum = (values.map fun value => ((parts value).map own).sum).sum := by
  rw [List.flatMap_def, List.map_flatten, List.sum_flatten, List.map_map, List.map_map]
  rfl

theorem pretty_measure {measure : List Char → Nat} {own : Brackets × Nat → Nat}
    (token : ∀ text, Token text → measure text = 0) (literal : ∀ content, measure (quote content) = 0)
    (label : ∀ name text, measure (prettyLabel name ++ text) = measure text)
    (around : ∀ depth brackets texts, (∀ text ∈ texts, Block (depth + 1) text) →
      measure (nested depth brackets texts) = own (brackets, texts.length) + (texts.map measure).sum)
    (value : Value) (depth : Nat) : measure (value.writePretty depth) = (value.containers.map own).sum := by
  induction value using value_induction generalizing depth with
  | null => exact token _ null_token
  | boolean truth => exact token _ (boolean_token truth)
  | number number => exact token _ (number_token number)
  | text content => exact literal content
  | list items ih =>
    have blocks := List.forall_mem_map.mpr fun item (_ : item ∈ items) => pretty_block item (depth + 1)
    rw [pretty_list_nested, around depth .square _ blocks, List.length_map, List.map_map, Value.containers, List.map_cons,
      List.sum_cons, item_containers_flat, sum_flat]
    exact congrArg _ (congrArg List.sum (List.map_congr_left fun item present => ih item present (depth + 1)))
  | object members ih =>
    have blocks := List.forall_mem_map.mpr fun member (_ : member ∈ members) =>
      block_label (depth + 1) member.1 (pretty_block member.2 (depth + 1))
    rw [pretty_object_nested, around depth .curly _ blocks, List.length_map, List.map_map, Value.containers, List.map_cons,
      List.sum_cons, member_containers_flat, sum_flat]
    refine congrArg _ (congrArg List.sum (List.map_congr_left fun member present => ?_))
    exact (label member.1 _).trans (ih member present (depth + 1))

/-! Line feeds -/

theorem visible_line {text : List Char} (visible : ∀ c ∈ text, 32 ≤ c.toNat) : text.count '\n' = 0 :=
  List.count_eq_zero.mpr fun newline => absurd (visible '\n' newline) (by decide)

theorem break_feeds (depth : Nat) : (lineBreak depth).count '\n' = 1 := by
  rw [lineBreak, List.count_cons_self, List.count_replicate, if_neg (by decide)]

theorem lined_feeds (depth : Nat) (brackets : Brackets) (texts : List (List Char)) :
    (lined depth brackets.closing texts).count '\n' = texts.length + 1 + (texts.map (List.count '\n')).sum := by
  induction texts with
  | nil =>
    have closing : [brackets.closing].count '\n' = 0 := by cases brackets <;> rfl
    rw [lined, List.count_append, break_feeds, closing]
    rfl
  | cons text rest ih =>
    have comma : ',' ≠ '\n' := by decide
    rw [lined, List.count_cons_of_ne comma, List.count_append, List.count_append, break_feeds, ih, List.length_cons,
      List.map_cons, List.sum_cons]
    omega

-- One line feed in front of each item or member, and one in front of the closing bracket.
def feeds (container : Brackets × Nat) : Nat := if container.2 = 0 then 0 else container.2 + 1

theorem nested_feeds (depth : Nat) (brackets : Brackets) (texts : List (List Char)) :
    (nested depth brackets texts).count '\n' =
      feeds (brackets, texts.length) + (texts.map (List.count '\n')).sum := by
  cases texts with
  | nil => cases brackets <;> rfl
  | cons text rest =>
    have opening : brackets.opening ≠ '\n' := by cases brackets <;> decide
    have own : feeds (brackets, (text :: rest).length) = rest.length + 2 := rfl
    rw [nested, List.count_cons_of_ne opening, List.count_append, List.count_append, break_feeds, lined_feeds, own,
      List.map_cons, List.sum_cons]
    omega

theorem pretty_feeds (value : Value) (depth : Nat) :
    (value.writePretty depth).count '\n' = (value.containers.map feeds).sum := by
  refine pretty_measure ?_ ?_ ?_ ?_ value depth
  · exact fun text token => visible_line fun c present => Nat.le_of_lt (plain_visible (token.plain c present))
  · exact fun content => visible_line (quote_visible content)
  · intro name text
    rw [List.count_append, visible_line (label_visible name), Nat.zero_add]
  · exact fun depth brackets texts _ => nested_feeds depth brackets texts

/-! Brackets side by side -/

def pairs {α : Type} (values : List α) : List (α × α) := values.zip values.tail

theorem pairs_append {α : Type} [BEq α] [LawfulBEq α] {left right : α} {first second : List α}
    (apart : first.getLast? = some left → second.head? ≠ some right) :
    (pairs (first ++ second)).count (left, right) =
      (pairs first).count (left, right) + (pairs second).count (left, right) := by
  induction first with
  | nil => exact (Nat.zero_add _).symm
  | cons value rest ih =>
    cases rest with
    -- The pair at the seam is in neither part.
    | nil =>
      cases second with
      | nil => rfl
      | cons next tail =>
        have different : (value, next) ≠ (left, right) := by
          rintro same
          cases same
          exact apart rfl rfl
        change ((value, next) :: pairs (next :: tail)).count (left, right) = 0 + _
        rw [List.count_cons_of_ne different, Nat.zero_add]
    | cons next tail =>
      change ((value, next) :: pairs (next :: tail ++ second)).count (left, right) =
        ((value, next) :: pairs (next :: tail)).count (left, right) + _
      rw [List.count_cons, List.count_cons, ih apart]
      omega

-- How often an opening bracket outside the literals has the closing one right behind it.
def hollow (brackets : Brackets) (text : List Char) : Nat :=
  (pairs (Quoting.annotate .outside text)).count ((.outside, brackets.opening), (.outside, brackets.closing))

theorem bare_opening {text : List Char} (bare : Bare text) (brackets : Brackets) :
    (Quoting.outside, brackets.opening) ∉ Quoting.annotate .outside text := by
  have opens : isOpening brackets.opening = true := by cases brackets <;> rfl
  exact fun present => Bool.eq_false_iff.mp (bare _ present).1 opens

theorem bare_hollow {text : List Char} (bare : Bare text) (brackets : Brackets) : hollow brackets text = 0 :=
  List.count_eq_zero.mpr fun present => bare_opening bare brackets (List.of_mem_zip present).1

theorem hollow_bare {first : List Char} (closed : Closed first) (bare : Bare first) (brackets : Brackets)
    (second : List Char) : hollow brackets (first ++ second) = hollow brackets second := by
  have apart : (Quoting.annotate .outside first).getLast? ≠ some (.outside, brackets.opening) :=
    fun last => bare_opening bare brackets (List.mem_of_getLast? last)
  rw [hollow, annotate_behind closed, pairs_append fun last => absurd last apart, ← hollow, ← hollow,
    bare_hollow bare, Nat.zero_add]

theorem hollow_append {first second : List Char} (closed : Closed first) {brackets : Brackets}
    (apart : second.head? ≠ some brackets.closing) :
    hollow brackets (first ++ second) = hollow brackets first + hollow brackets second := by
  have other : (Quoting.annotate .outside second).head? ≠ some (.outside, brackets.closing) := by
    intro head
    have char := congrArg (Option.map Prod.snd) head
    rw [← List.head?_map, annotate_chars] at char
    exact apart char
  rw [hollow, annotate_behind closed, pairs_append fun _ => other, ← hollow, ← hollow]

theorem lined_head (depth : Nat) (close : Char) (texts : List (List Char)) (brackets : Brackets) :
    (lined depth close texts).head? ≠ some brackets.closing := by
  cases texts <;> cases brackets <;> exact nofun

theorem hollow_lined (kind : Brackets) (depth : Nat) (brackets : Brackets) {texts : List (List Char)}
    (closed : ∀ text ∈ texts, Closed text) :
    hollow kind (lined depth brackets.closing texts) = (texts.map (hollow kind)).sum := by
  induction texts with
  | nil =>
    rw [lined, hollow_bare (break_closed depth) (bare_break depth)]
    cases brackets <;> rfl
  | cons text rest ih =>
    obtain ⟨first, others⟩ := List.forall_mem_cons.mp closed
    have closedComma : Closed [','] := rfl
    have bareComma : Bare [','] := bare_unquoted (by decide) (List.forall_mem_singleton.mpr (by decide))
    change hollow kind ([','] ++ (lineBreak (depth + 1) ++ (text ++ lined depth brackets.closing rest))) = _
    rw [hollow_bare closedComma bareComma, hollow_bare (break_closed _) (bare_break _), hollow_append first (lined_head _ _ _ _),
      ih others]
    rfl

theorem hollow_nested (kind : Brackets) (depth : Nat) (brackets : Brackets) {texts : List (List Char)}
    (closed : ∀ text ∈ texts, Closed text) :
    hollow kind (nested depth brackets texts) =
      (if (brackets, texts.length) == (kind, 0) then 1 else 0) + (texts.map (hollow kind)).sum := by
  cases texts with
  | nil => cases brackets <;> cases kind <;> rfl
  | cons text rest =>
    obtain ⟨first, others⟩ := List.forall_mem_cons.mp closed
    have opening : hollow kind [brackets.opening] = 0 := rfl
    have apart : (lineBreak (depth + 1) ++ (text ++ lined depth brackets.closing rest)).head? ≠ some kind.closing := by
      cases kind <;> exact nofun
    change hollow kind ([brackets.opening] ++ (lineBreak (depth + 1) ++ (text ++ lined depth brackets.closing rest))) = _
    have closedOpening : Closed [brackets.opening] := cons_closed (opening_not_quote brackets) rfl
    have filled : ((brackets, (text :: rest).length) == (kind, 0)) = false := beq_eq_false_iff_ne.mpr nofun
    rw [hollow_append closedOpening apart, opening, hollow_bare (break_closed _) (bare_break _),
      hollow_append first (lined_head _ _ _ _), hollow_lined kind depth brackets others, filled]
    rfl

theorem count_sum {α : Type} [BEq α] (values : List α) (wanted : α) :
    (values.map fun value => if value == wanted then 1 else 0).sum = values.count wanted := by
  induction values with
  | nil => rfl
  | cons value rest ih => rw [List.map_cons, List.sum_cons, ih, List.count_cons, Nat.add_comm]

theorem pretty_hollow (brackets : Brackets) (value : Value) (depth : Nat) :
    hollow brackets (value.writePretty depth) = value.containers.count (brackets, 0) := by
  rw [← count_sum]
  refine pretty_measure ?_ ?_ ?_ ?_ value depth
  · exact fun text token => bare_hollow (bare_token token) brackets
  · exact fun content => bare_hollow (bare_quote content) brackets
  · exact fun name text => hollow_bare (label_closed name) (bare_label name) brackets text
  · exact fun depth around texts blocks => hollow_nested brackets depth around fun text present => (blocks text present).closed

/-! The whole text -/

/-- The pretty form is indented by its open brackets, line by line. -/
theorem pretty_layout (value : Value) : ∃ text, value.render = .ok text ∧
    (∀ c ∈ text.toList, c.toNat < 32 → c = '\n') ∧
    text.toList.count '\n' = (value.containers.map feeds).sum ∧
    (∀ brackets, hollow brackets text.toList = value.containers.count (brackets, 0)) ∧
    (∀ before after, text.toList = before ++ '\n' :: after →
      before.getLast? ≠ some ' ' ∧ ∃ (k : Nat) (next : Char) (rest : List Char),
        after = List.replicate (4 * k) ' ' ++ next :: rest ∧ isGap next = false ∧
          (k : Int) = openings before - closings before - if isClosing next then 1 else 0) ∧
    text.toList.getLast? ≠ some ' ' ∧ text.toList.getLast? ≠ some '\n' := by
  have block := pretty_block value 0
  refine ⟨value.pretty, render_pretty value, ?_⟩
  rw [Value.pretty, String.toList_ofList]
  refine ⟨block.visible, pretty_feeds value 0, fun brackets => pretty_hollow brackets value 0, ?_, ?_, ?_⟩
  · intro before after split
    obtain ⟨last, k, next, rest, same, solid, level⟩ := block.tidy before after split
    refine ⟨last, k, next, rest, same, solid, ?_⟩
    rw [level, height, Int.natCast_zero, Int.zero_add]
  · exact fun space => absurd (block.ends ' ' space) (by decide)
  · exact fun newline => absurd (block.ends '\n' newline) (by decide)

theorem bracket_text_line : ∃ text, (Value.list [.list [], .text "[\n"]).render = .ok text ∧
    text.toList.count '\n' = 3 ∧ hollow .square text.toList = 1 ∧
    ∃ (k : Nat) (next : Char) (rest : List Char),
      "    \"[\\n\"\n]".toList = List.replicate (4 * k) ' ' ++ next :: rest ∧ isGap next = false ∧
        (k : Int) = openings "[\n    [],".toList - closings "[\n    [],".toList - if isClosing next then 1 else 0 := by
  obtain ⟨text, rendered, -, feeds, hollow, lines, -⟩ := pretty_layout (.list [.list [], .text "[\n"])
  have same : text = Value.pretty (.list [.list [], .text "[\n"]) :=
    Except.ok.inj (rendered.symm.trans (render_pretty _))
  have split : text.toList = "[\n    [],".toList ++ '\n' :: "    \"[\\n\"\n]".toList := by
    rw [same]
    decide +kernel
  exact ⟨text, rendered, feeds, hollow .square, (lines _ _ split).2⟩

end NodeProbe.Json
