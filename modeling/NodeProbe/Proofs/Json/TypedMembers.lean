import NodeProbe.Proofs.Json.Admission
import NodeProbe.Proofs.Json.TypedRecognition

set_option autoImplicit false

namespace NodeProbe.Json

variable {α β : Type}

def Numeral.Spells (numeral : Numeral) (value : Int) : Prop :=
  numeral.fraction = none ∧ numeral.exponent = none ∧ ¬ (numeral.negative = true ∧ numeral.value = 0) ∧ numeral.value = value

def Named (members : List (List Mark × Draft)) (named : List (String × Draft)) : Prop :=
  List.Forall₂ (fun member own => Resolves member.1 own.1.toList ∧ own.2 = member.2) members named

def withName (name : String) (named : List (String × Draft)) : List (String × Draft) :=
  named.filter fun member => member.1 = name

-- The members of an object come to these parts, each field by its one member or without one.
def Fields.Reads? (depth : Nat) : {β : Type} → Fields β → List (String × Draft) → β → Prop
  | _, .done, _, _ => True
  | _, .field name shape absence rest, named, (first, others) =>
    ((∃ draft, withName name named = [(name, draft)] ∧ shape.read depth draft = some first) ∨
      (withName name named = [] ∧ absence.value? = some first)) ∧ rest.Reads? depth named others

/-! Scalars -/

theorem long_of_int (value : Int) (bounds : 0 ≤ value ∧ value < 0x10000000000000000) :
    Int.ofNat (UInt64.ofNat value.toNat).toNat = value := by
  have small : value.toNat < UInt64.size := by
    rw [UInt64.size]
    omega
  exact (congrArg Int.ofNat (UInt64.toNat_ofNat_of_lt' small)).trans (Int.toNat_of_nonneg bounds.1)

theorem word_of_int (kind : Word α) (value : Int) (word : α) (given : kind.ofInt? value = some word) :
    (kind.toInteger word).value = value := by
  cases kind with
  | int32 =>
    obtain ⟨⟨lower, upper⟩, same⟩ := Option.ite_none_right_eq_some.mp given
    cases same
    exact Int32.toInt_ofInt_of_le lower upper
  | int64 =>
    obtain ⟨⟨lower, upper⟩, same⟩ := Option.ite_none_right_eq_some.mp given
    cases same
    exact Int64.toInt_ofInt_of_le lower upper
  | uint32 =>
    obtain ⟨⟨lower, upper⟩, same⟩ := Option.ite_none_right_eq_some.mp given
    cases same
    have small : value.toNat < UInt32.size := by
      rw [UInt32.size]
      omega
    exact (congrArg Int.ofNat (UInt32.toNat_ofNat_of_lt' small)).trans (Int.toNat_of_nonneg lower)
  | uint64 =>
    obtain ⟨bounds, same⟩ := Option.ite_none_right_eq_some.mp given
    cases same
    exact long_of_int value bounds
  | size =>
    obtain ⟨bounds, same⟩ := Option.ite_none_right_eq_some.mp given
    cases same
    exact long_of_int value bounds

theorem read_integer_iff (numeral : Numeral) (value : Integer) :
    numeral.read = .ok (.integer value) ↔ numeral.Spells value.value := by
  constructor
  · intro read
    obtain ⟨⟨noFraction, noExponent, unsigned, _⟩, same⟩ := integer_numeral numeral value read
    exact ⟨noFraction, noExponent, unsigned, same.symm⟩
  · rintro ⟨noFraction, noExponent, unsigned, same⟩
    rw [numeral_integer numeral ⟨noFraction, noExponent, unsigned, same ▸ value.lower, same ▸ value.upper⟩]
    obtain ⟨own, lower, upper⟩ := value
    cases same
    rfl

theorem scalar_found {draft : Draft} {found : Scalar} (read : draft.scalar? = some found) :
    (draft = .null ∧ found = .null) ∨ (∃ truth, draft = .boolean truth ∧ found = .boolean truth) ∨
      (∃ numeral number, draft = .number numeral ∧ numeral.read = .ok number ∧ found = .number number) ∨
      ∃ marks chars, draft = .text marks ∧ Resolves marks chars ∧ found = .text (String.ofList chars) := by
  cases draft with
  | null =>
    cases read
    exact .inl ⟨rfl, rfl⟩
  | boolean truth =>
    cases read
    exact .inr (.inl ⟨truth, rfl, rfl⟩)
  | number numeral =>
    obtain ⟨number, evaluated, rfl⟩ := Option.map_eq_some_iff.mp read
    exact .inr (.inr (.inl ⟨numeral, number, rfl, to_option_some.mp evaluated, rfl⟩))
  | text marks =>
    obtain ⟨chars, resolved, rfl⟩ := Option.map_eq_some_iff.mp read
    exact .inr (.inr (.inr ⟨marks, chars, rfl, read_marks_resolves marks chars (to_option_some.mp resolved), rfl⟩))
  | list items => cases read
  | object members => cases read

theorem scalar_text_iff (draft : Draft) (value : String) :
    draft.scalar?.bind Scalar.text? = some value ↔ ∃ marks, draft = .text marks ∧ Resolves marks value.toList := by
  constructor
  · intro read
    obtain ⟨found, here, chosen⟩ := Option.bind_eq_some_iff.mp read
    rcases scalar_found here with ⟨_, rfl⟩ | ⟨_, _, rfl⟩ | ⟨_, _, _, _, rfl⟩ | ⟨marks, chars, rfl, resolves, rfl⟩
    · cases chosen
    · cases chosen
    · cases chosen
    · cases chosen
      exact ⟨marks, rfl, String.toList_ofList ▸ resolves⟩
  · rintro ⟨marks, rfl, resolves⟩
    rw [Draft.scalar?, resolves_read_marks resolves]
    exact congrArg some String.ofList_toList

theorem scalar_boolean_iff (draft : Draft) (value : Bool) :
    draft.scalar?.bind Scalar.boolean? = some value ↔ draft = .boolean value := by
  constructor
  · intro read
    obtain ⟨found, here, chosen⟩ := Option.bind_eq_some_iff.mp read
    rcases scalar_found here with ⟨_, rfl⟩ | ⟨truth, rfl, rfl⟩ | ⟨_, _, _, _, rfl⟩ | ⟨_, _, _, _, rfl⟩
    · cases chosen
    · cases chosen
      rfl
    · cases chosen
    · cases chosen
  · rintro rfl
    rfl

theorem scalar_word_iff (kind : Word α) (draft : Draft) (word : α) :
    draft.scalar?.bind (Scalar.word? kind) = some word ↔
      ∃ numeral, draft = .number numeral ∧ numeral.Spells (kind.toInteger word).value := by
  constructor
  · intro read
    obtain ⟨found, here, chosen⟩ := Option.bind_eq_some_iff.mp read
    rcases scalar_found here with ⟨_, rfl⟩ | ⟨_, _, rfl⟩ | ⟨numeral, number, rfl, evaluated, rfl⟩ | ⟨_, _, _, _, rfl⟩
    · cases chosen
    · cases chosen
    · cases number with
      | float => cases chosen
      | integer value =>
        rw [word_of_int kind value.value word chosen]
        exact ⟨numeral, rfl, (read_integer_iff numeral value).mp evaluated⟩
    · cases chosen
  · rintro ⟨numeral, rfl, spells⟩
    rw [Draft.scalar?, (read_integer_iff numeral _).mpr spells]
    exact kind.ofInt?_toInteger word

/-! Records -/

def takeAll (depth : Nat) (fields : Fields β) (named : List (String × Draft)) (slots : fields.Slots) : Option fields.Slots :=
  named.foldlM (fun slots member => fields.take depth member.1 member.2 slots) slots

-- One slot by the members with its name: the first of them fills it, and there must be no second.
def fillSlot (read : Draft → Option α) (own : List (String × Draft)) (slot : Option α) : Option (Option α) :=
  own.foldlM (fun slot member => if slot.isSome then none else (read member.2).map some) slot

theorem with_name_cons (name : String) (member : String × Draft) (rest : List (String × Draft)) :
    withName name (member :: rest) = if member.1 = name then member :: withName name rest else withName name rest := by
  simp only [withName, List.filter_cons, decide_eq_true_eq]

theorem take_all_cons (depth : Nat) (fields : Fields β) (member : String × Draft) (named : List (String × Draft))
    (slots : fields.Slots) :
    takeAll depth fields (member :: named) slots =
      (fields.take depth member.1 member.2 slots).bind (takeAll depth fields named) := rfl

theorem fill_slot_cons (read : Draft → Option α) (member : String × Draft) (own : List (String × Draft)) (slot : Option α) :
    fillSlot read (member :: own) slot =
      (if slot.isSome then none else (read member.2).map some).bind (fillSlot read own) := rfl

section Field

variable (depth : Nat) (name : String) (shape : Shape α) (absence : Absence α) (rest : Fields β)

def Fields.slots (first : Option α) (others : rest.Slots) : (Fields.field name shape absence rest).Slots := (first, others)

theorem take_own (draft : Draft) (first : Option α) (others : rest.Slots) :
    (Fields.field name shape absence rest).take depth name draft (Fields.slots name shape absence rest first others) =
      (if first.isSome then none else (shape.read depth draft).map some).map fun first =>
        Fields.slots name shape absence rest first others := by
  simp only [Fields.take, if_true]
  cases first with
  | some value => rfl
  | none => cases shape.read depth draft <;> rfl

theorem take_other (key : String) (different : key ≠ name) (draft : Draft) (first : Option α) (others : rest.Slots) :
    (Fields.field name shape absence rest).take depth key draft (Fields.slots name shape absence rest first others) =
      (rest.take depth key draft others).map (Fields.slots name shape absence rest first) := by
  simp only [Fields.take, if_neg different]
  rfl

theorem take_all_field (named : List (String × Draft)) (first last : Option α) (others lastOthers : rest.Slots) :
    takeAll depth (.field name shape absence rest) named (Fields.slots name shape absence rest first others) =
        some (Fields.slots name shape absence rest last lastOthers) ↔
      fillSlot (shape.read depth) (withName name named) first = some last ∧
        takeAll depth rest (named.filter fun member => member.1 ≠ name) others = some lastOthers := by
  induction named generalizing first others with
  | nil =>
    constructor
    · intro same
      cases same
      exact ⟨rfl, rfl⟩
    · rintro ⟨sameFirst, sameOthers⟩
      cases sameFirst
      cases sameOthers
      rfl
  | cons member named ih =>
    obtain ⟨key, draft⟩ := member
    rw [take_all_cons, with_name_cons]
    by_cases same : key = name
    · subst same
      rw [take_own, if_pos rfl, List.filter_cons_of_neg (by simp), fill_slot_cons]
      cases (if first.isSome then none else (shape.read depth draft).map some) with
      | none => exact ⟨nofun, fun both => nomatch both.1⟩
      | some filled => exact ih filled others
    · rw [take_other depth name shape absence rest key same, if_neg same, List.filter_cons_of_pos (by simpa using same),
        take_all_cons]
      cases rest.take depth key draft others with
      | none => exact ⟨nofun, fun both => nomatch both.2⟩
      | some taken => exact ih first taken

theorem collect_field (first : Option α) (others : rest.Slots) (parts : α × β) :
    (Fields.field name shape absence rest).collect (Fields.slots name shape absence rest first others) = .ok parts ↔
      first.or absence.value? = some parts.1 ∧ rest.collect others = .ok parts.2 := by
  simp only [Fields.collect, Fields.slots]
  cases first.or absence.value? with
  | none =>
    constructor
    · intro same
      cases same
    · rintro ⟨same, _⟩
      cases same
  | some value =>
    cases rest.collect others with
    | error cause =>
      constructor
      · intro same
        cases same
      · rintro ⟨_, same⟩
        cases same
    | ok taken =>
      constructor
      · intro same
        cases same
        exact ⟨rfl, rfl⟩
      · rintro ⟨sameFirst, sameOthers⟩
        cases sameFirst
        cases sameOthers
        rfl

end Field

theorem fill_slot_iff (read : Draft → Option α) (own : List (String × Draft)) (slot : Option α) :
    fillSlot read own none = some slot ↔
      (own = [] ∧ slot = none) ∨ ∃ member value, own = [member] ∧ read member.2 = some value ∧ slot = some value := by
  constructor
  · intro filled
    cases own with
    | nil =>
      cases filled
      exact .inl ⟨rfl, rfl⟩
    | cons member others =>
      rw [fill_slot_cons, Option.isSome_none, if_neg Bool.false_ne_true] at filled
      cases here : read member.2 with
      | none =>
        rw [here] at filled
        cases filled
      | some value =>
        rw [here] at filled
        cases others with
        | nil =>
          cases filled
          exact .inr ⟨member, value, rfl, here, rfl⟩
        | cons second others => cases filled
  · rintro (⟨rfl, rfl⟩ | ⟨member, value, rfl, here, rfl⟩)
    · rfl
    · rw [fill_slot_cons, here]
      rfl

theorem with_name_other (name other : String) (different : name ≠ other) (named : List (String × Draft)) :
    withName name (named.filter fun member => member.1 ≠ other) = withName name named := by
  rw [withName, withName, List.filter_filter]
  apply List.filter_congr
  intro member _
  by_cases same : member.1 = name
  · simp [same, different]
  · simp [same]

theorem with_name_same {name : String} {named : List (String × Draft)} {member : String × Draft}
    (present : member ∈ withName name named) : member.1 = name := of_decide_eq_true (List.mem_filter.mp present).2

theorem reads_without {β : Type} (depth : Nat) (fields : Fields β) (name : String) (unknown : name ∉ fields.names)
    (named : List (String × Draft)) (parts : β) :
    fields.Reads? depth (named.filter fun member => member.1 ≠ name) parts ↔ fields.Reads? depth named parts := by
  match β, fields, parts with
  | _, .done, _ => exact Iff.rfl
  | _, .field own shape absence rest, (first, others) =>
    obtain ⟨different, absent⟩ := not_or.mp (mt List.mem_cons.mpr unknown)
    rw [Fields.Reads?, Fields.Reads?, with_name_other own name (Ne.symm different) named,
      reads_without depth rest name absent named others]

theorem take_all_iff {β : Type} (depth : Nat) (fields : Fields β) (unique : fields.names.Nodup)
    (named : List (String × Draft)) (parts : β) :
    (∃ slots, takeAll depth fields named fields.empty = some slots ∧ fields.collect slots = .ok parts) ↔
      fields.Reads? depth named parts := by
  match β, fields, parts with
  | _, .done, _ =>
    have idle : takeAll depth .done named () = some () := by
      induction named with
      | nil => rfl
      | cons member named ih => exact ih
    exact ⟨fun _ => trivial, fun _ => ⟨(), idle, rfl⟩⟩
  | _, .field name shape absence rest, (first, others) =>
    obtain ⟨notLater, uniqueRest⟩ := List.nodup_cons.mp unique
    have onward := take_all_iff depth rest uniqueRest (named.filter fun member => member.1 ≠ name) others
    rw [reads_without depth rest name notLater] at onward
    rw [Fields.Reads?, ← onward]
    constructor
    · rintro ⟨⟨slot, slots⟩, taken, collected⟩
      obtain ⟨filled, takenRest⟩ := (take_all_field depth name shape absence rest named none slot rest.empty slots).mp taken
      obtain ⟨present, collectedRest⟩ := (collect_field name shape absence rest slot slots (first, others)).mp collected
      refine ⟨?_, slots, takenRest, collectedRest⟩
      rcases (fill_slot_iff _ _ _).mp filled with ⟨absent, rfl⟩ | ⟨member, value, single, read, rfl⟩
      · exact .inr ⟨absent, present⟩
      · obtain rfl : value = first := Option.some.inj present
        obtain ⟨key, draft⟩ := member
        obtain rfl : key = name := with_name_same (single ▸ List.mem_singleton_self _)
        exact .inl ⟨draft, single, read⟩
    · rintro ⟨present, slots, takenRest, collectedRest⟩
      have whole : ∀ slot, fillSlot (shape.read depth) (withName name named) none = some slot →
          slot.or absence.value? = some first → ∃ slots, takeAll depth (.field name shape absence rest) named
            (Fields.field name shape absence rest).empty = some slots ∧
              (Fields.field name shape absence rest).collect slots = .ok (first, others) := by
        intro slot filled chosen
        exact ⟨Fields.slots name shape absence rest slot slots,
          (take_all_field depth name shape absence rest named none slot rest.empty slots).mpr ⟨filled, takenRest⟩,
          (collect_field name shape absence rest slot slots (first, others)).mpr ⟨chosen, collectedRest⟩⟩
      rcases present with ⟨draft, single, read⟩ | ⟨absent, missing⟩
      · exact whole (some first) ((fill_slot_iff _ _ _).mpr (.inr ⟨_, first, single, read, rfl⟩)) rfl
      · exact whole none ((fill_slot_iff _ _ _).mpr (.inl ⟨absent, rfl⟩)) missing

/-! What shapes read -/

theorem read_marks_some (marks : List Mark) (chars : List Char) :
    (readMarks marks).toOption = some chars ↔ Resolves marks chars :=
  ⟨fun read => read_marks_resolves marks chars (to_option_some.mp read),
    fun resolves => to_option_some.mpr (resolves_read_marks resolves)⟩

theorem named_fold (step : β → String → Draft → Option β) (members : List (List Mark × Draft)) (state last : β) :
    members.foldlM (fun state member => (readMarks member.1).toOption.bind fun name =>
        step state (String.ofList name) member.2) state = some last ↔
      ∃ named, Named members named ∧ named.foldlM (fun state member => step state member.1 member.2) state = some last := by
  induction members generalizing state with
  | nil =>
    constructor
    · intro same
      exact ⟨[], .nil, same⟩
    · rintro ⟨named, whole, same⟩
      cases whole
      exact same
  | cons member members ih =>
    rw [List.foldlM_cons]
    constructor
    · intro folded
      obtain ⟨after, stepped, onward⟩ := Option.bind_eq_some_iff.mp folded
      obtain ⟨chars, resolved, next⟩ := Option.bind_eq_some_iff.mp stepped
      obtain ⟨named, whole, same⟩ := (ih after).mp onward
      have resolves := (read_marks_some member.1 chars).mp resolved
      refine ⟨(String.ofList chars, member.2) :: named, .cons ⟨by rwa [String.toList_ofList], rfl⟩ whole, ?_⟩
      rw [List.foldlM_cons]
      exact Option.bind_eq_some_iff.mpr ⟨after, next, same⟩
    · rintro ⟨named, whole, same⟩
      cases whole with
      | @cons _ own _ others first later =>
        obtain ⟨resolves, draft⟩ := first
        rw [List.foldlM_cons] at same
        obtain ⟨after, next, onward⟩ := Option.bind_eq_some_iff.mp same
        refine Option.bind_eq_some_iff.mpr ⟨after, ?_, (ih after).mpr ⟨others, later, onward⟩⟩
        refine Option.bind_eq_some_iff.mpr ⟨own.1.toList, (read_marks_some member.1 _).mpr resolves, ?_⟩
        rw [String.ofList_toList, ← draft]
        exact next

theorem inside_some (depth : Nat) (result : Option α) (value : α) :
    inside depth result = some value ↔ 0 < depth ∧ result = some value := by
  unfold inside
  by_cases zero : depth = 0
  · rw [if_pos zero]
    exact ⟨nofun, fun both => absurd zero (Nat.pos_iff_ne_zero.mp both.1)⟩
  · rw [if_neg zero]
    exact ⟨fun same => ⟨Nat.pos_of_ne_zero zero, same⟩, And.right⟩

theorem read_object_iff (depth : Nat) (name : String) (fields : Fields β) (unique : fields.names.Nodup) (build : β → α)
    (parts : α → β) (members : List (List Mark × Draft)) (value : α) :
    (Shape.record name fields build parts).read depth (.object members) = some value ↔
      0 < depth ∧ ∃ named own, Named members named ∧ fields.Reads? (depth - 1) named own ∧ build own = value := by
  rw [Shape.read, inside_some]
  refine and_congr_right fun _ => ?_
  constructor
  · intro read
    obtain ⟨own, collected, built⟩ := Option.map_eq_some_iff.mp read
    obtain ⟨slots, taken, judged⟩ := Option.bind_eq_some_iff.mp collected
    obtain ⟨named, whole, folded⟩ := (named_fold (fun slots key draft => fields.take (depth - 1) key draft slots)
      members fields.empty slots).mp taken
    have accepted : fields.collect slots = .ok own := to_option_some.mp judged
    exact ⟨named, own, whole, (take_all_iff _ fields unique named own).mp ⟨slots, folded, accepted⟩, built⟩
  · rintro ⟨named, own, whole, reads, built⟩
    obtain ⟨slots, folded, accepted⟩ := (take_all_iff _ fields unique named own).mpr reads
    have taken := (named_fold (fun slots key draft => fields.take (depth - 1) key draft slots)
      members fields.empty slots).mpr ⟨named, whole, folded⟩
    exact Option.map_eq_some_iff.mpr ⟨own, Option.bind_eq_some_iff.mpr ⟨slots, taken, to_option_some.mpr accepted⟩, built⟩

theorem read_list_iff (depth : Nat) (name : String) (fields : Fields β) (build : β → α) (parts : α → β) (items : List Draft)
    (value : α) :
    (Shape.record name fields build parts).read depth (.list items) = some value ↔
      0 < depth ∧ ∃ own, fields.readItems (depth - 1) items = some own ∧ build own = value := by
  rw [Shape.read, inside_some, Option.map_eq_some_iff]

theorem items_cons_iff (depth : Nat) (name : String) (shape : Shape α) (absence : Absence α) (rest : Fields β)
    (item : Draft) (items : List Draft) (parts : α × β) :
    (Fields.field name shape absence rest).readItems depth (item :: items) = some parts ↔
      shape.read depth item = some parts.1 ∧ rest.readItems depth items = some parts.2 := by
  rw [Fields.readItems, Option.bind_eq_some_iff]
  constructor
  · rintro ⟨first, here, onward⟩
    obtain ⟨others, later, rfl⟩ := Option.map_eq_some_iff.mp onward
    exact ⟨here, later⟩
  · rintro ⟨here, later⟩
    exact ⟨parts.1, here, Option.map_eq_some_iff.mpr ⟨parts.2, later, rfl⟩⟩

theorem items_nil_iff (depth : Nat) (name : String) (shape : Shape α) (absence : Absence α) (rest : Fields β)
    (parts : α × β) :
    (Fields.field name shape absence rest).readItems depth [] = some parts ↔
      absence.trailing? = some parts.1 ∧ rest.readItems depth [] = some parts.2 := by
  rw [Fields.readItems, Option.bind_eq_some_iff]
  constructor
  · rintro ⟨first, here, onward⟩
    obtain ⟨others, later, rfl⟩ := Option.map_eq_some_iff.mp onward
    exact ⟨here, later⟩
  · rintro ⟨here, later⟩
    exact ⟨parts.1, here, Option.map_eq_some_iff.mpr ⟨parts.2, later, rfl⟩⟩

theorem named_once (members : List (List Mark × Draft)) (first second : List (String × Draft)) (whole : Named members first)
    (again : Named members second) : first = second := by
  induction whole generalizing second with
  | nil =>
    cases again
    rfl
  | @cons member own members named here _ ih =>
    cases again with
    | @cons _ other _ others there later =>
      obtain ⟨resolves, draft⟩ := here
      obtain ⟨resolvesOther, sameDraft⟩ := there
      rw [ih others later, Prod.ext (name_once resolves resolvesOther) (draft.trans sameDraft.symm)]

theorem map_items_iff (read : Draft → Option α) (items : List Draft) (values : List α) :
    items.mapM read = some values ↔ List.Forall₂ (fun item value => read item = some value) items values := by
  induction items generalizing values with
  | nil =>
    constructor
    · intro same
      cases same
      exact .nil
    · intro each
      cases each
      rfl
  | cons item items ih =>
    rw [List.mapM_cons]
    constructor
    · intro same
      obtain ⟨first, here, onward⟩ := Option.bind_eq_some_iff.mp same
      obtain ⟨others, later, whole⟩ := Option.bind_eq_some_iff.mp onward
      cases whole
      exact .cons here ((ih others).mp later)
    · intro each
      cases each with
      | cons here later =>
        exact Option.bind_eq_some_iff.mpr ⟨_, here, Option.bind_eq_some_iff.mpr ⟨_, (ih _).mpr later, rfl⟩⟩

end NodeProbe.Json
