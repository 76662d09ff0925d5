import NodeProbe.Proofs.Json.Quoting
import Mathlib.Data.List.Basic

set_option autoImplicit false

namespace NodeProbe.Json

def outer (wanted : Char → Bool) : List Char → List Char := view fun marked => marked.1 = .outside && wanted marked.2

def openings (text : List Char) : Nat := (outer isOpening text).length

def closings (text : List Char) : Nat := (outer isClosing text).length

def height (text : List Char) : Int := openings text - closings text

theorem height_append {first : List Char} (closed : Closed first) (second : List Char) :
    height (first ++ second) = height first + height second := by
  simp only [height, openings, closings, outer, view_append _ closed, List.length_append]
  omega

theorem outer_none {wanted : Char → Bool} {text : List Char}
    (free : ∀ c, (Quoting.outside, c) ∈ Quoting.annotate .outside text → wanted c = false) : outer wanted text = [] := by
  rw [outer, view, List.filter_eq_nil_iff.mpr, List.map_nil]
  rintro ⟨quoting, c⟩ present marked
  obtain ⟨rfl, wants⟩ : quoting = .outside ∧ wanted c = true := by simpa using marked
  exact Bool.eq_false_iff.mp (free c present) wants

def Bare (text : List Char) : Prop :=
  ∀ c, (Quoting.outside, c) ∈ Quoting.annotate .outside text → isOpening c = false ∧ isClosing c = false

theorem bare_height {text : List Char} (bare : Bare text) : height text = 0 := by
  rw [height, openings, closings, outer_none fun c present => (bare c present).1,
    outer_none fun c present => (bare c present).2]
  rfl

theorem bare_append {first second : List Char} (closed : Closed first) (bareFirst : Bare first) (bareSecond : Bare second) :
    Bare (first ++ second) := by
  intro c present
  rw [annotate_behind closed] at present
  exact (List.mem_append.mp present).elim (bareFirst c) (bareSecond c)

theorem bare_unquoted {text : List Char} (unquoted : '"' ∉ text)
    (free : ∀ c ∈ text, isOpening c = false ∧ isClosing c = false) : Bare text := by
  intro c present
  rw [annotate_unquoted unquoted] at present
  obtain ⟨_, among, same⟩ := List.mem_map.mp present
  cases same
  exact free c among

theorem bare_token {text : List Char} (token : Token text) : Bare text :=
  bare_unquoted (token_unquoted token) fun c present => plain_brackets (token.plain c present)

theorem bare_quote (content : String) : Bare (quote content) := by
  obtain ⟨literal, annotated, within⟩ := annotate_quote content
  intro c present
  rw [annotated] at present
  rcases List.mem_cons.mp present with same | inner
  · cases same
    decide
  · exact absurd rfl (within _ inner)

theorem bare_break (depth : Nat) : Bare (lineBreak depth) := by
  refine bare_unquoted (break_unquoted depth) (List.forall_mem_cons.mpr ⟨by decide, fun c indent => ?_⟩)
  rw [List.eq_of_mem_replicate indent]
  decide

theorem bare_label (name : String) : Bare (prettyLabel name) := by
  refine bare_append (quote_closed name) (bare_quote name) (bare_unquoted (by decide) ?_)
  exact List.forall_mem_cons.mpr ⟨by decide, List.forall_mem_singleton.mpr (by decide)⟩

/-! Lines -/

-- A line ends behind the first text, and the next one begins with what the brackets so far and its first character ask for.
def Indented (depth : Int) (before after : List Char) : Prop :=
  before.getLast? ≠ some ' ' ∧ ∃ (k : Nat) (next : Char) (rest : List Char),
    after = List.replicate (4 * k) ' ' ++ next :: rest ∧ isGap next = false ∧
      (k : Int) = depth + height before - if isClosing next then 1 else 0

def Tidy (depth : Int) (text : List Char) : Prop :=
  ∀ before after, text = before ++ '\n' :: after → Indented depth before after

theorem append_split {first second before after : List Char} {c : Char} (split : first ++ second = before ++ c :: after) :
    (∃ more, before = first ++ more ∧ second = more ++ c :: after) ∨
      ∃ less, first = before ++ c :: less ∧ after = less ++ second := by
  rcases List.append_eq_append_iff.mp split with ⟨more, rfl, same⟩ | ⟨less, rfl, same⟩
  · exact .inl ⟨more, rfl, same⟩
  · cases less with
    | nil => exact .inl ⟨[], by simp, same.symm⟩
    | cons _ less =>
      obtain ⟨rfl, rfl⟩ := List.cons_eq_cons.mp same
      exact .inr ⟨less, rfl, rfl⟩

theorem indented_behind {depth : Int} {first before after : List Char} (closed : Closed first)
    (indented : Indented (depth + height first) before after) (edge : before = [] → first.getLast? ≠ some ' ') :
    Indented depth (first ++ before) after := by
  obtain ⟨last, k, next, rest, same, solid, level⟩ := indented
  refine ⟨?_, k, next, rest, same, solid, ?_⟩
  · cases before with
    | nil => rw [List.append_nil]; exact edge rfl
    | cons c before => rwa [List.getLast?_append_of_ne_nil _ (List.cons_ne_nil c before)]
  · rw [level, height_append closed, Int.add_assoc]

theorem tidy_append {depth : Int} {first second : List Char} (closed : Closed first) (tidy : Tidy depth first)
    (behind : Tidy (depth + height first) second) (edge : first.getLast? = some ' ' → second.head? ≠ some '\n') :
    Tidy depth (first ++ second) := by
  intro before after split
  -- A line feed at the seam is one of the second part, with nothing of that part in front of it.
  rcases append_split split with ⟨more, rfl, same⟩ | ⟨less, same, rfl⟩
  · refine indented_behind closed (behind more after same) ?_
    rintro rfl space
    exact edge space (congrArg List.head? same)
  · obtain ⟨last, k, next, rest, rfl, solid, level⟩ := tidy before less same
    exact ⟨last, k, next, rest ++ second, by rw [List.append_assoc, List.cons_append], solid, level⟩

theorem tidy_line {depth : Int} {text : List Char} (line : '\n' ∉ text) : Tidy depth text := by
  rintro before after rfl
  exact absurd (List.mem_append_right before List.mem_cons_self) line

theorem tidy_break {depth : Int} {k : Nat} {first : Char} {rest : List Char} (solid : isGap first = false)
    (level : (k : Int) = depth - if isClosing first then 1 else 0) (tidy : Tidy depth (first :: rest)) :
    Tidy depth (lineBreak k ++ first :: rest) := by
  intro before after split
  have flat : height (lineBreak k) = 0 := bare_height (bare_break k)
  cases before with
  | nil =>
    obtain ⟨-, rfl⟩ := List.cons_eq_cons.mp split
    refine ⟨nofun, k, first, rest, rfl, solid, ?_⟩
    rw [level, show height [] = 0 from rfl, Int.add_zero]
  | cons c before =>
    obtain ⟨rfl, inner⟩ := List.cons_eq_cons.mp split
    rcases append_split inner with ⟨more, rfl, same⟩ | ⟨less, spaces, -⟩
    · change Indented depth (lineBreak k ++ more) after
      refine indented_behind (break_closed k) ?_ ?_
      · rw [flat, Int.add_zero]
        exact tidy more after same
      · rintro rfl
        cases same
        exact absurd solid (by decide)
    -- There is no second line feed among the spaces.
    · have newline : '\n' ∈ List.replicate (4 * k) ' ' := spaces ▸ List.mem_append_right before List.mem_cons_self
      exact absurd (List.eq_of_mem_replicate newline) (by decide)

/-! Pieces of a text -/

-- A piece that stands where so many brackets are open, and behind which so many more are.
structure Stretch (depth rise : Int) (text : List Char) : Prop where
  closed : Closed text
  level : height text = rise
  visible : ∀ c ∈ text, c.toNat < 32 → c = '\n'
  tidy : Tidy depth text

theorem stretch_append {depth rise behind further : Int} {first second : List Char} (before : Stretch depth rise first)
    (after : Stretch behind further second) (edge : first.getLast? = some ' ' → second.head? ≠ some '\n')
    (meet : behind = depth + rise) : Stretch depth (rise + further) (first ++ second) where
  closed := closed_append before.closed after.closed
  level := by rw [height_append before.closed, before.level, after.level]
  visible := List.forall_mem_append.mpr ⟨before.visible, after.visible⟩
  tidy := by
    refine tidy_append before.closed before.tidy ?_ edge
    rw [before.level, ← meet]
    exact after.tidy

theorem stretch_line (depth : Int) {rise : Int} {text : List Char} (closed : Closed text) (level : height text = rise)
    (visible : ∀ c ∈ text, 32 ≤ c.toNat) : Stretch depth rise text where
  closed := closed
  level := level
  visible := fun c present control => absurd (visible c present) (Nat.not_le_of_lt control)
  tidy := tidy_line fun newline => absurd (visible '\n' newline) (by decide)

theorem stretch_break {depth rise : Int} {k : Nat} {first : Char} {rest : List Char} (solid : isGap first = false)
    (level : (k : Int) = depth - if isClosing first then 1 else 0) (stretch : Stretch depth rise (first :: rest)) :
    Stretch depth rise (lineBreak k ++ first :: rest) where
  closed := closed_append (break_closed k) stretch.closed
  level := by rw [height_append (break_closed k), bare_height (bare_break k), stretch.level, Int.zero_add]
  visible := by
    refine List.forall_mem_append.mpr ⟨List.forall_mem_cons.mpr ⟨fun _ => rfl, fun c indent => ?_⟩, stretch.visible⟩
    rw [List.eq_of_mem_replicate indent]
    decide
  tidy := tidy_break solid level stretch.tidy

theorem stretch_opening (depth : Int) (brackets : Brackets) : Stretch depth 1 [brackets.opening] := by
  cases brackets <;> exact stretch_line depth rfl rfl (List.forall_mem_singleton.mpr (by decide))

theorem stretch_closing (depth : Int) (brackets : Brackets) : Stretch depth (-1) [brackets.closing] := by
  cases brackets <;> exact stretch_line depth rfl rfl (List.forall_mem_singleton.mpr (by decide))

theorem stretch_comma (depth : Int) : Stretch depth 0 [','] :=
  stretch_line depth rfl rfl (List.forall_mem_singleton.mpr (by decide))

structure Block (depth : Nat) (text : List Char) : Prop extends Stretch depth 0 text where
  starts : ∃ first rest, text = first :: rest ∧ isGap first = false ∧ isClosing first = false
  ends : ∀ last, text.getLast? = some last → isGap last = false

theorem block_token (depth : Nat) {text : List Char} (token : Token text) : Block depth text where
  toStretch := stretch_line depth (token_closed token) (bare_height (bare_token token)) fun c present =>
    Nat.le_of_lt (plain_visible (token.plain c present))
  starts := by
    obtain ⟨first, rest, rfl⟩ := List.exists_cons_of_ne_nil token.present
    have plain := token.plain first List.mem_cons_self
    exact ⟨first, rest, rfl, plain_solid plain, (plain_brackets plain).2⟩
  ends := fun last same => plain_solid (token.plain last (List.mem_of_getLast? same))

theorem block_quote (depth : Nat) (content : String) : Block depth (quote content) where
  toStretch := stretch_line depth (quote_closed content) (bare_height (bare_quote content)) (quote_visible content)
  starts := ⟨'"', _, rfl, by decide⟩
  ends := by
    intro last same
    rw [quote, List.getLast?_concat] at same
    cases same
    decide

theorem block_label (depth : Nat) (name : String) {text : List Char} (block : Block depth text) :
    Block depth (prettyLabel name ++ text) where
  toStretch := by
    obtain ⟨first, rest, rfl, solid, -⟩ := block.starts
    have line := stretch_line depth (label_closed name) (bare_height (bare_label name)) (label_visible name)
    refine stretch_append line block.toStretch ?_ (Int.add_zero _).symm
    rintro - newline
    cases newline
    exact absurd solid (by decide)
  starts := ⟨'"', _, rfl, by decide⟩
  ends := by
    obtain ⟨first, rest, rfl, -⟩ := block.starts
    rw [List.getLast?_append_of_ne_nil _ (List.cons_ne_nil first rest)]
    exact block.ends

theorem block_entry {depth : Nat} {text tail : List Char} (block : Block (depth + 1) text)
    (behind : Stretch (depth + 1 : Nat) (-1) tail) :
    Stretch (depth + 1 : Nat) (-1) (lineBreak (depth + 1) ++ (text ++ tail)) := by
  obtain ⟨first, rest, rfl, solid, opens⟩ := block.starts
  have edge : (first :: rest).getLast? = some ' ' → tail.head? ≠ some '\n' :=
    fun space => absurd (block.ends ' ' space) (by decide)
  have entry := stretch_append block.toStretch behind edge (Int.add_zero _).symm
  rw [Int.zero_add] at entry
  refine stretch_break solid ?_ entry
  rw [opens, if_neg Bool.false_ne_true, Int.sub_zero]

theorem stretch_lined (depth : Nat) (brackets : Brackets) {texts : List (List Char)}
    (blocks : ∀ text ∈ texts, Block (depth + 1) text) :
    Stretch (depth + 1 : Nat) (-1) (lined depth brackets.closing texts) := by
  induction texts with
  | nil =>
    have solid : isGap brackets.closing = false := by cases brackets <;> rfl
    have closes : isClosing brackets.closing = true := by cases brackets <;> rfl
    refine stretch_break solid ?_ (stretch_closing (depth + 1 : Nat) brackets)
    rw [closes, if_pos rfl, Int.natCast_succ, Int.add_sub_cancel]
  | cons text rest ih =>
    obtain ⟨first, others⟩ := List.forall_mem_cons.mp blocks
    exact stretch_append (stretch_comma (depth + 1 : Nat)) (block_entry first (ih others)) nofun (Int.add_zero _).symm

theorem lined_last (depth : Nat) (close : Char) (texts : List (List Char)) :
    ∃ inner, lined depth close texts = inner ++ [close] := by
  induction texts with
  | nil => exact ⟨lineBreak depth, rfl⟩
  | cons text rest ih =>
    obtain ⟨inner, same⟩ := ih
    refine ⟨',' :: (lineBreak (depth + 1) ++ (text ++ inner)), ?_⟩
    rw [lined, same, List.cons_append, List.append_assoc, List.append_assoc]

theorem nested_last (depth : Nat) (brackets : Brackets) (texts : List (List Char)) :
    ∃ inner, nested depth brackets texts = brackets.opening :: (inner ++ [brackets.closing]) := by
  cases texts with
  | nil => exact ⟨[], rfl⟩
  | cons text rest =>
    obtain ⟨inner, same⟩ := lined_last depth brackets.closing rest
    refine ⟨lineBreak (depth + 1) ++ (text ++ inner), ?_⟩
    rw [nested, same, List.append_assoc, List.append_assoc]

theorem block_nested (depth : Nat) (brackets : Brackets) {texts : List (List Char)}
    (blocks : ∀ text ∈ texts, Block (depth + 1) text) : Block depth (nested depth brackets texts) where
  toStretch := by
    have edge : [brackets.opening].getLast? ≠ some ' ' := by cases brackets <;> decide
    cases texts with
    | nil =>
      exact stretch_append (stretch_opening depth brackets) (stretch_closing (depth + 1) brackets)
        (fun space => absurd space edge) rfl
    | cons text rest =>
      obtain ⟨first, others⟩ := List.forall_mem_cons.mp blocks
      have entries := block_entry first (stretch_lined depth brackets others)
      exact stretch_append (stretch_opening depth brackets) entries (fun space => absurd space edge) (Int.natCast_succ depth)
  starts := by
    obtain ⟨inner, same⟩ := nested_last depth brackets texts
    refine ⟨brackets.opening, _, same, ?_⟩
    cases brackets <;> decide
  ends := by
    obtain ⟨inner, same⟩ := nested_last depth brackets texts
    intro last found
    rw [same, ← List.cons_append, List.getLast?_concat] at found
    cases found
    cases brackets <;> rfl

theorem pretty_block (value : Value) (depth : Nat) : Block depth (value.writePretty depth) := by
  refine @pretty_induction Block ?_ ?_ ?_ ?_ value depth
  · exact fun depth _ token => block_token depth token
  · exact fun depth content => block_quote depth content
  · exact fun depth name _ block => block_label depth name block
  · exact fun depth brackets _ blocks => block_nested depth brackets blocks

end NodeProbe.Json
