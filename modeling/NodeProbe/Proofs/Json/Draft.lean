import NodeProbe.Proofs.Json.Spelling

set_option autoImplicit false

namespace NodeProbe.Json

-- A character of a text literal, or a 16-bit unit that is named by its number.
inductive Mark
  | char (c : Char)
  | unit (unit : Nat)

def DigitRun (run : List Char) : Prop := run ≠ [] ∧ ∀ c ∈ run, c.isDigit = true

structure Exponent where
  letter : Char
  sign : List Char
  digits : List Char
  lettered : letter = 'e' ∨ letter = 'E'
  signed : sign = [] ∨ sign = ['+'] ∨ sign = ['-']
  run : DigitRun digits

-- A number in its own digits, without a zero in front of the others.
structure Numeral where
  negative : Bool
  whole : List Char
  fraction : Option (List Char)
  exponent : Option Exponent
  wholeRun : DigitRun whole
  noLeadingZero : whole.head? = some '0' → whole = ['0']
  fractionRun : ∀ digits ∈ fraction, DigitRun digits

def Exponent.text (exponent : Exponent) : List Char := exponent.letter :: (exponent.sign ++ exponent.digits)

def exponentText : Option Exponent → List Char
  | none => []
  | some exponent => exponent.text

def fractionText : Option (List Char) → List Char
  | none => []
  | some digits => '.' :: digits

def Numeral.unsigned (numeral : Numeral) : List Char :=
  numeral.whole ++ (fractionText numeral.fraction ++ exponentText numeral.exponent)

def Numeral.text (numeral : Numeral) : List Char :=
  if numeral.negative then '-' :: numeral.unsigned else numeral.unsigned

def Numeral.value (numeral : Numeral) : Int :=
  if numeral.negative then -Int.ofNat (Nat.ofDigitChars 10 numeral.whole 0) else Int.ofNat (Nat.ofDigitChars 10 numeral.whole 0)

inductive Draft
  | null
  | boolean (value : Bool)
  | number (numeral : Numeral)
  | text (marks : List Mark)
  | list (items : List Draft)
  | object (members : List (List Mark × Draft))

theorem draft_induction {holds : Draft → Prop} (null : holds .null)
    (boolean : ∀ value, holds (.boolean value)) (number : ∀ numeral, holds (.number numeral))
    (text : ∀ marks, holds (.text marks))
    (list : ∀ items, (∀ item ∈ items, holds item) → holds (.list items))
    (object : ∀ members, (∀ member ∈ members, holds member.2) → holds (.object members))
    (draft : Draft) : holds draft := by
  refine @Draft.rec holds (fun items => ∀ item ∈ items, holds item)
    (fun members => ∀ member ∈ members, holds member.2) (fun member => holds member.2)
    null boolean number text list object ?_ ?_ ?_ ?_ ?_ draft
  · exact nofun
  · exact fun _ _ first others => List.forall_mem_cons.mpr ⟨first, others⟩
  · exact nofun
  · exact fun _ _ first others => List.forall_mem_cons.mpr ⟨first, others⟩
  · exact fun _ _ inner => inner

mutual
def Draft.depth : Draft → Nat
  | .list items => draftItemsDepth items + 1
  | .object members => draftMembersDepth members + 1
  | _ => 0

def draftItemsDepth : List Draft → Nat
  | [] => 0
  | item :: rest => max item.depth (draftItemsDepth rest)

def draftMembersDepth : List (List Mark × Draft) → Nat
  | [] => 0
  | (_, item) :: rest => max item.depth (draftMembersDepth rest)
end

mutual
def Draft.Everywhere (holds : Draft → Prop) : Draft → Prop
  | .list items => holds (.list items) ∧ DraftItemsEverywhere holds items
  | .object members => holds (.object members) ∧ DraftMembersEverywhere holds members
  | scalar => holds scalar

def DraftItemsEverywhere (holds : Draft → Prop) : List Draft → Prop
  | [] => True
  | item :: rest => item.Everywhere holds ∧ DraftItemsEverywhere holds rest

def DraftMembersEverywhere (holds : Draft → Prop) : List (List Mark × Draft) → Prop
  | [] => True
  | (_, item) :: rest => item.Everywhere holds ∧ DraftMembersEverywhere holds rest
end

inductive Resolves : List Mark → List Char → Prop
  | nil : Resolves [] []
  | char (c : Char) {marks : List Mark} {chars : List Char} : Resolves marks chars → Resolves (.char c :: marks) (c :: chars)
  | unit {unit : Nat} {marks : List Mark} {chars : List Char} : ¬ isTrailing unit → ¬ isLeading unit →
      Resolves marks chars → Resolves (.unit unit :: marks) (Char.ofNat unit :: chars)
  | pair {leading trailing : Nat} {marks : List Mark} {chars : List Char} : isLeading leading → isTrailing trailing →
      Resolves marks chars → Resolves (.unit leading :: .unit trailing :: marks) (pairChar leading trailing :: chars)

def Paired (marks : List Mark) : Prop := ∃ chars, Resolves marks chars

def Lacks (name : String) (members : List (List Mark × Draft)) : Prop :=
  ∀ member ∈ members, ¬ Resolves member.1 name.toList

def Draft.OwnPaired : Draft → Prop
  | .text marks => Json.Paired marks
  | .object members => ∀ member ∈ members, Json.Paired member.1
  | _ => True

-- No text and no name has half of a pair without the other half.
def Draft.Paired (draft : Draft) : Prop := draft.Everywhere Draft.OwnPaired

-- An integer that 64 bits can hold, signed or unsigned, and no zero with a sign.
def Numeral.IsInteger (numeral : Numeral) : Prop :=
  numeral.fraction = none ∧ numeral.exponent = none ∧ ¬ (numeral.negative = true ∧ numeral.value = 0) ∧
    -0x8000000000000000 ≤ numeral.value ∧ numeral.value < 0x10000000000000000

def Draft.OwnIntegral : Draft → Prop
  | .number numeral => numeral.IsInteger
  | _ => True

def Draft.Integral (draft : Draft) : Prop := draft.Everywhere Draft.OwnIntegral

/-! Texts of drafts -/

inductive MarkSpelling : Mark → List Char → Prop
  | plain {c : Char} : c ≠ '"' → c ≠ '\\' → ¬ c.toNat < 32 → MarkSpelling (.char c) [c]
  | short {letter c : Char} : (letter, c) ∈ shortEscapes → MarkSpelling (.char c) ['\\', letter]
  | unit {unit : Nat} {text : List Char} : UnitSpelling unit text → MarkSpelling (.unit unit) ('\\' :: 'u' :: text)

inductive MarksSpelling : List Mark → List Char → Prop
  | nil : MarksSpelling [] []
  | cons {mark : Mark} {marks : List Mark} {spelled text : List Char} : MarkSpelling mark spelled →
      MarksSpelling marks text → MarksSpelling (mark :: marks) (spelled ++ text)

def NameSpelling (marks : List Mark) (label : List Char) : Prop :=
  ∃ spelled separator, MarksSpelling marks spelled ∧ Separator separator ∧
    label = '"' :: (spelled ++ '"' :: separator)

structure DraftMember where
  marks : List Mark
  label : List Char
  draft : Draft
  text : List Char

inductive Draft.Written : Draft → List Char → Prop
  | null : Written .null writeNull
  | boolean (value : Bool) : Written (.boolean value) (writeBoolean value)
  | number (numeral : Numeral) : Written (.number numeral) numeral.text
  | text {marks : List Mark} {spelled : List Char} : MarksSpelling marks spelled →
      Written (.text marks) ('"' :: (spelled ++ ['"']))
  | list {entries : List (Draft × List Char)} {body : List Char} : (∀ entry ∈ entries, Written entry.1 entry.2) →
      Layout ']' (entries.map Prod.snd) body → Written (.list (entries.map Prod.fst)) ('[' :: body)
  | object {entries : List DraftMember} {body : List Char} : (∀ entry ∈ entries, NameSpelling entry.marks entry.label) →
      (∀ entry ∈ entries, Written entry.draft entry.text) →
      Layout '\x7d' (entries.map fun entry => entry.label ++ entry.text) body →
      Written (.object (entries.map fun entry => (entry.marks, entry.draft))) ('\x7b' :: body)

-- A whole text: one draft, with nothing but space around it.
def Draft.Writes (draft : Draft) (text : List Char) : Prop :=
  ∃ before spelled after, Gap before ∧ Gap after ∧ draft.Written spelled ∧ text = before ++ (spelled ++ after)

def IsJson (text : List Char) : Prop := ∃ draft : Draft, draft.Writes text

theorem entries_of {α β : Type} (seen : β → α) (holds : β → Prop) (items : List α)
    (each : ∀ item ∈ items, ∃ entry, seen entry = item ∧ holds entry) :
    ∃ entries : List β, entries.map seen = items ∧ ∀ entry ∈ entries, holds entry := by
  induction items with
  | nil => exact ⟨[], rfl, nofun⟩
  | cons item rest ih =>
    obtain ⟨⟨entry, same, held⟩, others⟩ := List.forall_mem_cons.mp each
    obtain ⟨entries, sameRest, heldRest⟩ := ih others
    exact ⟨entry :: entries, by rw [List.map_cons, same, sameRest], List.forall_mem_cons.mpr ⟨held, heldRest⟩⟩

theorem mapped_related {α β γ : Type} {related : α → β → Prop} {first : γ → α} {second : γ → β} {entries : List γ}
    (each : ∀ entry ∈ entries, related (first entry) (second entry)) :
    List.Forall₂ related (entries.map first) (entries.map second) := by
  rw [List.forall₂_map_left_iff, List.forall₂_map_right_iff, List.forall₂_same]
  exact each

theorem draft_items_depth_le (items : List Draft) (bound : Nat) :
    draftItemsDepth items ≤ bound ↔ ∀ item ∈ items, item.depth ≤ bound := by
  induction items with
  | nil => simp [draftItemsDepth]
  | cons item rest ih => simp only [draftItemsDepth, Nat.max_le, ih, List.forall_mem_cons]

theorem draft_members_depth_le (members : List (List Mark × Draft)) (bound : Nat) :
    draftMembersDepth members ≤ bound ↔ ∀ member ∈ members, member.2.depth ≤ bound := by
  induction members with
  | nil => simp [draftMembersDepth]
  | cons member rest ih =>
    obtain ⟨marks, item⟩ := member
    simp only [draftMembersDepth, Nat.max_le, ih, List.forall_mem_cons]

theorem draft_list_depth_within (items : List Draft) (bound : Nat) :
    (Draft.list items).depth ≤ bound ↔ 0 < bound ∧ ∀ item ∈ items, item.depth ≤ bound - 1 := by
  rw [Draft.depth, ← draft_items_depth_le]
  omega

theorem draft_object_depth_within (members : List (List Mark × Draft)) (bound : Nat) :
    (Draft.object members).depth ≤ bound ↔ 0 < bound ∧ ∀ member ∈ members, member.2.depth ≤ bound - 1 := by
  rw [Draft.depth, ← draft_members_depth_le]
  omega

theorem draft_items_everywhere_iff (holds : Draft → Prop) (items : List Draft) :
    DraftItemsEverywhere holds items ↔ ∀ item ∈ items, item.Everywhere holds := by
  induction items with
  | nil => simp [DraftItemsEverywhere]
  | cons item rest ih => simp only [DraftItemsEverywhere, ih, List.forall_mem_cons]

theorem draft_members_everywhere_iff (holds : Draft → Prop) (members : List (List Mark × Draft)) :
    DraftMembersEverywhere holds members ↔ ∀ member ∈ members, member.2.Everywhere holds := by
  induction members with
  | nil => simp [DraftMembersEverywhere]
  | cons member rest ih =>
    obtain ⟨marks, item⟩ := member
    simp only [DraftMembersEverywhere, ih, List.forall_mem_cons]

theorem draft_list_everywhere (holds : Draft → Prop) (items : List Draft) :
    (Draft.list items).Everywhere holds ↔ holds (.list items) ∧ ∀ item ∈ items, item.Everywhere holds := by
  rw [Draft.Everywhere, draft_items_everywhere_iff]

theorem draft_object_everywhere (holds : Draft → Prop) (members : List (List Mark × Draft)) :
    (Draft.object members).Everywhere holds ↔
      holds (.object members) ∧ ∀ member ∈ members, member.2.Everywhere holds := by
  rw [Draft.Everywhere, draft_members_everywhere_iff]

end NodeProbe.Json
