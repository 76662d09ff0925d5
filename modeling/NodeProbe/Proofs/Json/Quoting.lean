import NodeProbe.Proofs.Json.FloatLiteral
import NodeProbe.Proofs.Json.Pretty

set_option autoImplicit false

namespace NodeProbe.Json

-- Outside all string literals, inside one, or behind a backslash inside one.
inductive Quoting
  | outside
  | inside
  | escaped
deriving DecidableEq

def Quoting.next : Quoting → Char → Quoting
  | .outside, c => if c = '"' then .inside else .outside
  | .inside, c => if c = '"' then .outside else if c = '\\' then .escaped else .inside
  | .escaped, _ => .inside

def Quoting.after (quoting : Quoting) (text : List Char) : Quoting := text.foldl next quoting

-- The characters of a text with what is left open in front of each. An opening quote is outside, a closing one inside.
def Quoting.annotate : Quoting → List Char → List (Quoting × Char)
  | _, [] => []
  | quoting, c :: rest => (quoting, c) :: annotate (quoting.next c) rest

theorem after_append (quoting : Quoting) (first second : List Char) :
    quoting.after (first ++ second) = (quoting.after first).after second := List.foldl_append

theorem annotate_append (quoting : Quoting) (first second : List Char) :
    quoting.annotate (first ++ second) = quoting.annotate first ++ (quoting.after first).annotate second := by
  induction first generalizing quoting with
  | nil => rfl
  | cons c rest ih => exact congrArg ((quoting, c) :: ·) (ih (quoting.next c))

theorem annotate_chars (quoting : Quoting) (text : List Char) : (quoting.annotate text).map Prod.snd = text := by
  induction text generalizing quoting with
  | nil => rfl
  | cons c rest ih => exact congrArg (c :: ·) (ih (quoting.next c))

def Closed (text : List Char) : Prop := Quoting.after .outside text = .outside

def view (wanted : Quoting × Char → Bool) (text : List Char) : List Char :=
  ((Quoting.annotate .outside text).filter wanted).map Prod.snd

theorem closed_append {first second : List Char} (closedFirst : Closed first) (closedSecond : Closed second) :
    Closed (first ++ second) := by
  rw [Closed, after_append, closedFirst, closedSecond]

theorem annotate_behind {first : List Char} (closed : Closed first) (second : List Char) :
    Quoting.annotate .outside (first ++ second) =
      Quoting.annotate .outside first ++ Quoting.annotate .outside second := by
  rw [annotate_append, closed]

theorem view_append (wanted : Quoting × Char → Bool) {first : List Char} (closed : Closed first) (second : List Char) :
    view wanted (first ++ second) = view wanted first ++ view wanted second := by
  rw [view, annotate_behind closed, List.filter_append, List.map_append, view, view]

/-! Texts without quotes -/

theorem unquoted_closed {text : List Char} (unquoted : '"' ∉ text) : Closed text := by
  induction text with
  | nil => rfl
  | cons c rest ih =>
    obtain ⟨other, later⟩ := not_or.mp (mt List.mem_cons.mpr unquoted)
    have next : Quoting.next .outside c = .outside := if_neg (Ne.symm other)
    rw [Closed, Quoting.after, List.foldl_cons, next]
    exact ih later

theorem annotate_unquoted {text : List Char} (unquoted : '"' ∉ text) :
    Quoting.annotate .outside text = text.map fun c => (.outside, c) := by
  induction text with
  | nil => rfl
  | cons c rest ih =>
    obtain ⟨other, later⟩ := not_or.mp (mt List.mem_cons.mpr unquoted)
    have next : Quoting.next .outside c = .outside := if_neg (Ne.symm other)
    rw [Quoting.annotate, next, ih later, List.map_cons]

theorem view_unquoted (wanted : Quoting × Char → Bool) {text : List Char} (unquoted : '"' ∉ text) :
    view wanted text = text.filter fun c => wanted (.outside, c) := by
  rw [view, annotate_unquoted unquoted, List.filter_map, List.map_map]
  exact List.map_id _

theorem view_cons (wanted : Quoting × Char → Bool) {c : Char} (other : c ≠ '"') (text : List Char) :
    view wanted (c :: text) = if wanted (.outside, c) then c :: view wanted text else view wanted text := by
  have next : Quoting.next .outside c = .outside := if_neg other
  rw [view, Quoting.annotate, next, List.filter_cons]
  split
  · rfl
  · rfl

/-! String literals -/

theorem hex_digit_marks : ∀ value < 16, hexDigit value ≠ '"' ∧ hexDigit value ≠ '\\' ∧ 32 ≤ (hexDigit value).toNat := by
  decide

structure Stays (text : List Char) : Prop where
  after : Quoting.after .inside text = .inside
  within : ∀ marked ∈ Quoting.annotate .inside text, marked.1 ≠ .outside
  visible : ∀ c ∈ text, 32 ≤ c.toNat

theorem stays_append {first second : List Char} (staysFirst : Stays first) (staysSecond : Stays second) :
    Stays (first ++ second) where
  after := by rw [after_append, staysFirst.after, staysSecond.after]
  within := by
    rw [annotate_append, staysFirst.after]
    exact List.forall_mem_append.mpr ⟨staysFirst.within, staysSecond.within⟩
  visible := List.forall_mem_append.mpr ⟨staysFirst.visible, staysSecond.visible⟩

theorem stays_char {c : Char} (notQuote : c ≠ '"') (notBackslash : c ≠ '\\') (visible : 32 ≤ c.toNat) : Stays [c] where
  after := by rw [Quoting.after, List.foldl_cons, Quoting.next, if_neg notQuote, if_neg notBackslash, List.foldl_nil]
  within := List.forall_mem_singleton.mpr nofun
  visible := List.forall_mem_singleton.mpr visible

theorem stays_escape {c : Char} (visible : 32 ≤ c.toNat) : Stays ['\\', c] where
  after := rfl
  within := List.forall_mem_cons.mpr ⟨nofun, List.forall_mem_singleton.mpr nofun⟩
  visible := List.forall_mem_cons.mpr ⟨by decide, List.forall_mem_singleton.mpr visible⟩

theorem escape_char_stays (c : Char) : Stays (escapeChar c) := by
  rw [escapeChar]
  split
  · rename_i marked
    rcases marked with rfl | rfl <;> exact stays_escape (by decide)
  split
  · exact stays_escape (by decide)
  split
  · exact stays_escape (by decide)
  split
  · exact stays_escape (by decide)
  split
  · exact stays_escape (by decide)
  split
  · exact stays_escape (by decide)
  split
  · rename_i control
    obtain ⟨highQuote, highBackslash, highVisible⟩ := hex_digit_marks (c.toNat / 16) (by omega)
    obtain ⟨lowQuote, lowBackslash, lowVisible⟩ := hex_digit_marks (c.toNat % 16) (by omega)
    have zero : Stays ['0'] := stays_char (by decide) (by decide) (by decide)
    have digits := stays_append (stays_char highQuote highBackslash highVisible) (stays_char lowQuote lowBackslash lowVisible)
    exact stays_append (stays_escape (c := 'u') (by decide)) (stays_append zero (stays_append zero digits))
  · rename_i notMarked _ _ _ _ _ visible
    obtain ⟨notQuote, notBackslash⟩ := not_or.mp notMarked
    exact stays_char notQuote notBackslash (Nat.le_of_not_lt visible)

theorem escape_chars_stay (chars : List Char) : Stays (chars.flatMap escapeChar) := by
  induction chars with
  | nil => exact ⟨rfl, nofun, nofun⟩
  | cons c rest ih => exact stays_append (escape_char_stays c) ih

theorem quote_closed (content : String) : Closed (quote content) := by
  have stays := escape_chars_stay content.toList
  rw [Closed, quote, List.cons_append, Quoting.after, List.foldl_cons]
  change Quoting.after .inside (content.toList.flatMap escapeChar ++ ['"']) = .outside
  rw [after_append, stays.after]
  rfl

theorem annotate_quote (content : String) : ∃ literal, Quoting.annotate .outside (quote content) = (.outside, '"') :: literal ∧
    ∀ marked ∈ literal, marked.1 ≠ .outside := by
  have stays := escape_chars_stay content.toList
  refine ⟨Quoting.annotate .inside (content.toList.flatMap escapeChar ++ ['"']), rfl, ?_⟩
  rw [annotate_append, stays.after]
  exact List.forall_mem_append.mpr ⟨stays.within, List.forall_mem_singleton.mpr nofun⟩

theorem quote_visible (content : String) : ∀ c ∈ quote content, 32 ≤ c.toNat := by
  rw [quote, List.cons_append]
  refine List.forall_mem_cons.mpr ⟨by decide, List.forall_mem_append.mpr ⟨(escape_chars_stay _).visible, ?_⟩⟩
  exact List.forall_mem_singleton.mpr (by decide)

theorem view_quote (wanted : Quoting × Char → Bool) (content : String) (opening : wanted (.outside, '"') = true)
    (literal : ∀ quoting c, quoting ≠ Quoting.outside → wanted (quoting, c) = true) :
    view wanted (quote content) = quote content := by
  obtain ⟨inner, annotated, within⟩ := annotate_quote content
  have all : ∀ marked ∈ Quoting.annotate .outside (quote content), wanted marked = true := by
    rw [annotated]
    exact List.forall_mem_cons.mpr ⟨opening, fun marked present => literal marked.1 marked.2 (within marked present)⟩
  rw [view, List.filter_eq_self.mpr all, annotate_chars]

/-! The other tokens -/

def isOpening (c : Char) : Bool := c = '[' || c = '\x7b'

def isClosing (c : Char) : Bool := c = ']' || c = '\x7d'

-- What stands around the items of a list, and around the members of an object.
inductive Brackets
  | square
  | curly
deriving DecidableEq

def Brackets.opening : Brackets → Char
  | .square => '['
  | .curly => '\x7b'

def Brackets.closing : Brackets → Char
  | .square => ']'
  | .curly => '\x7d'

def isGap (c : Char) : Bool := c = ' ' || c = '\n'

def isPlain (c : Char) : Bool := decide (32 < c.toNat) && c ≠ '"' && !isOpening c && !isClosing c

theorem plain_visible {c : Char} (plain : isPlain c = true) : 32 < c.toNat := by
  simp only [isPlain, Bool.and_eq_true, decide_eq_true_eq] at plain
  exact plain.1.1.1

theorem plain_brackets {c : Char} (plain : isPlain c = true) : isOpening c = false ∧ isClosing c = false := by
  simp only [isPlain, Bool.and_eq_true, Bool.not_eq_true'] at plain
  exact ⟨plain.1.2, plain.2⟩

theorem plain_solid {c : Char} (plain : isPlain c = true) : isGap c = false := by
  have visible := plain_visible plain
  rw [isGap, Bool.or_eq_false_iff, decide_eq_false_iff_not, decide_eq_false_iff_not]
  refine ⟨?_, ?_⟩ <;> rintro rfl <;> exact absurd visible (by decide)

theorem digit_plain (c : Char) (digit : c.isDigit = true) : isPlain c = true := by
  obtain ⟨low, high⟩ := Char.isDigit_iff_toNat.mp digit
  have different : ∀ other : Char, other.toNat < 48 ∨ 57 < other.toNat → c ≠ other := by
    rintro other apart rfl
    rcases apart with below | above
    · exact Nat.not_lt_of_le low below
    · exact Nat.not_lt_of_le high above
  have visible : 32 < c.toNat := Nat.lt_of_lt_of_le (by decide) low
  simp [isPlain, isOpening, isClosing, visible, different '"' (by decide), different '[' (by decide),
    different '\x7b' (by decide), different ']' (by decide), different '\x7d' (by decide)]

theorem digits_plain {run : List Char} (digits : DigitRun run) : ∀ c ∈ run, isPlain c = true :=
  fun c present => digit_plain c (digits.2 c present)

theorem exponent_plain (exponent : Exponent) : ∀ c ∈ exponent.text, isPlain c = true := by
  refine List.forall_mem_cons.mpr ⟨?_, List.forall_mem_append.mpr ⟨?_, digits_plain exponent.run⟩⟩
  · rcases exponent.lettered with same | same <;> rw [same] <;> decide
  · rcases exponent.signed with same | same | same <;> exact same ▸ List.all_eq_true.mp rfl

theorem numeral_plain (numeral : Numeral) : ∀ c ∈ numeral.text, isPlain c = true := by
  have fraction : ∀ c ∈ fractionText numeral.fraction, isPlain c = true := by
    cases present : numeral.fraction with
    | none => exact nofun
    | some digits => exact List.forall_mem_cons.mpr ⟨by decide, digits_plain (numeral.fractionRun digits present)⟩
  have exponent : ∀ c ∈ exponentText numeral.exponent, isPlain c = true := by
    cases numeral.exponent with
    | none => exact nofun
    | some exponent => exact exponent_plain exponent
  have unsigned : ∀ c ∈ numeral.unsigned, isPlain c = true :=
    List.forall_mem_append.mpr ⟨digits_plain numeral.wholeRun, List.forall_mem_append.mpr ⟨fraction, exponent⟩⟩
  rw [Numeral.text]
  split
  · exact List.forall_mem_cons.mpr ⟨by decide, unsigned⟩
  · exact unsigned

structure Token (text : List Char) : Prop where
  present : text ≠ []
  plain : ∀ c ∈ text, isPlain c = true

theorem number_token (number : Number) : Token number.write := by
  have spelled : ∃ numeral : Numeral, numeral.text = number.write := by
    cases number with
    | integer value =>
      obtain ⟨numeral, text, _⟩ := integer_numeral_text value
      exact ⟨numeral, text⟩
    | float value => exact float_numeral value
  obtain ⟨numeral, same⟩ := spelled
  rw [← same]
  refine ⟨?_, numeral_plain numeral⟩
  rw [Numeral.text]
  split
  · exact List.cons_ne_nil _ _
  · exact List.append_ne_nil_of_left_ne_nil numeral.wholeRun.1 _

theorem null_token : Token writeNull := ⟨List.cons_ne_nil _ _, List.all_eq_true.mp rfl⟩

theorem boolean_token (truth : Bool) : Token (writeBoolean truth) := by
  cases truth <;> exact ⟨List.cons_ne_nil _ _, List.all_eq_true.mp rfl⟩

theorem token_unquoted {text : List Char} (token : Token text) : '"' ∉ text :=
  fun present => absurd (token.plain '"' present) (by decide)

theorem token_closed {text : List Char} (token : Token text) : Closed text := unquoted_closed (token_unquoted token)

/-! The pretty form -/

theorem break_unquoted (depth : Nat) : '"' ∉ lineBreak depth := by
  rw [lineBreak, List.mem_cons]
  rintro (same | indent)
  · exact absurd same (by decide)
  · exact absurd (List.eq_of_mem_replicate indent) (by decide)

theorem break_closed (depth : Nat) : Closed (lineBreak depth) := unquoted_closed (break_unquoted depth)

theorem opening_not_quote (brackets : Brackets) : brackets.opening ≠ '"' := by cases brackets <;> decide

theorem closing_not_quote (brackets : Brackets) : brackets.closing ≠ '"' := by cases brackets <;> decide

theorem cons_closed {c : Char} (other : c ≠ '"') {text : List Char} (closed : Closed text) : Closed (c :: text) := by
  have next : Quoting.next .outside c = .outside := if_neg other
  rw [Closed, Quoting.after, List.foldl_cons, next]
  exact closed

def nested (depth : Nat) (brackets : Brackets) : List (List Char) → List Char
  | [] => [brackets.opening, brackets.closing]
  | text :: rest => brackets.opening :: (lineBreak (depth + 1) ++ (text ++ lined depth brackets.closing rest))

theorem pretty_list_nested (depth : Nat) (items : List Value) :
    (Value.list items).writePretty depth = nested depth .square (items.map fun item => item.writePretty (depth + 1)) := by
  cases items with
  | nil => rfl
  | cons item rest => exact pretty_list_lined depth item rest

theorem pretty_object_nested (depth : Nat) (members : Members) :
    (Value.object members).writePretty depth =
      nested depth .curly (members.map fun member => prettyLabel member.1 ++ member.2.writePretty (depth + 1)) := by
  cases members with
  | nil => rfl
  | cons member rest => exact pretty_object_lined depth member rest

theorem pretty_induction {holds : Nat → List Char → Prop} (token : ∀ depth text, Token text → holds depth text)
    (literal : ∀ depth content, holds depth (quote content))
    (label : ∀ depth name text, holds depth text → holds depth (prettyLabel name ++ text))
    (around : ∀ depth brackets texts, (∀ text ∈ texts, holds (depth + 1) text) → holds depth (nested depth brackets texts))
    (value : Value) (depth : Nat) : holds depth (value.writePretty depth) := by
  induction value using value_induction generalizing depth with
  | null => exact token depth _ null_token
  | boolean truth => exact token depth _ (boolean_token truth)
  | number number => exact token depth _ (number_token number)
  | text content => exact literal depth content
  | list items ih =>
    rw [pretty_list_nested]
    exact around depth .square _ (List.forall_mem_map.mpr fun item present => ih item present (depth + 1))
  | object members ih =>
    rw [pretty_object_nested]
    exact around depth .curly _ (List.forall_mem_map.mpr fun member present =>
      label (depth + 1) member.1 _ (ih member present (depth + 1)))

theorem lined_closed (depth : Nat) (brackets : Brackets) {texts : List (List Char)} (closed : ∀ text ∈ texts, Closed text) :
    Closed (lined depth brackets.closing texts) := by
  induction texts with
  | nil => exact closed_append (break_closed depth) (cons_closed (closing_not_quote brackets) rfl)
  | cons text rest ih =>
    obtain ⟨first, others⟩ := List.forall_mem_cons.mp closed
    have behind := closed_append first (ih others)
    exact cons_closed (by decide) (closed_append (break_closed (depth + 1)) behind)

theorem nested_closed (depth : Nat) (brackets : Brackets) {texts : List (List Char)} (closed : ∀ text ∈ texts, Closed text) :
    Closed (nested depth brackets texts) := by
  cases texts with
  | nil => exact cons_closed (opening_not_quote brackets) (cons_closed (closing_not_quote brackets) rfl)
  | cons text rest =>
    obtain ⟨first, others⟩ := List.forall_mem_cons.mp closed
    have inner := closed_append first (lined_closed depth brackets others)
    exact cons_closed (opening_not_quote brackets) (closed_append (break_closed (depth + 1)) inner)

theorem label_closed (name : String) : Closed (prettyLabel name) :=
  closed_append (quote_closed name) rfl

theorem label_visible (name : String) : ∀ c ∈ prettyLabel name, 32 ≤ c.toNat := by
  refine List.forall_mem_append.mpr ⟨quote_visible name, ?_⟩
  exact List.forall_mem_cons.mpr ⟨by decide, List.forall_mem_singleton.mpr (by decide)⟩

theorem pretty_closed (value : Value) (depth : Nat) : Closed (value.writePretty depth) := by
  refine @pretty_induction (fun _ text => Closed text) ?_ ?_ ?_ ?_ value depth
  · exact fun _ _ token => token_closed token
  · exact fun _ content => quote_closed content
  · exact fun _ name _ closed => closed_append (label_closed name) closed
  · exact fun depth brackets _ closed => nested_closed depth brackets closed

theorem item_texts_closed (depth : Nat) (items : List Value) :
    ∀ text ∈ items.map fun item => item.writePretty depth, Closed text :=
  List.forall_mem_map.mpr fun item _ => pretty_closed item depth

theorem member_texts_closed (depth : Nat) (members : Members) :
    ∀ text ∈ members.map fun member => prettyLabel member.1 ++ member.2.writePretty depth, Closed text :=
  List.forall_mem_map.mpr fun member _ => closed_append (label_closed member.1) (pretty_closed member.2 depth)

theorem view_lined (wanted : Quoting × Char → Bool) (depth : Nat) (close : Char) {texts : List (List Char)}
    (closed : ∀ text ∈ texts, Closed text) :
    view wanted (lined depth close texts) =
      texts.flatMap (fun text => view wanted (',' :: lineBreak (depth + 1)) ++ view wanted text) ++
        view wanted (lineBreak depth ++ [close]) := by
  induction texts with
  | nil => rfl
  | cons text rest ih =>
    obtain ⟨first, others⟩ := List.forall_mem_cons.mp closed
    have comma : Closed (',' :: lineBreak (depth + 1)) := cons_closed (by decide) (break_closed (depth + 1))
    rw [lined, ← List.cons_append, view_append wanted comma, view_append wanted first, ih others, List.flatMap_cons,
      List.append_assoc, List.append_assoc]

end NodeProbe.Json
