import NodeProbe.Proofs.Json.DraftReading
import Mathlib.Data.List.Perm.Basic

set_option autoImplicit false

namespace NodeProbe.Json

-- The member with this name that no other of the name follows.
def LastNamed (name : String) (value : Value) (members : Members) : Prop :=
  ∃ before after, members = before ++ (name, value) :: after ∧ ∀ member ∈ after, member.1 ≠ name

structure DenotedMember where
  marks : List Mark
  draft : Draft
  name : String
  value : Value

inductive Draft.Denotes : Draft → Value → Prop
  | null : Denotes .null .null
  | boolean (truth : Bool) : Denotes (.boolean truth) (.boolean truth)
  | integer (numeral : Numeral) (value : Integer) : numeral.IsInteger → value.value = numeral.value →
      Denotes (.number numeral) (.number (.integer value))
  | text {marks : List Mark} {chars : List Char} : Resolves marks chars →
      Denotes (.text marks) (.text (String.ofList chars))
  | list {entries : List (Draft × Value)} : (∀ entry ∈ entries, Denotes entry.1 entry.2) →
      Denotes (.list (entries.map Prod.fst)) (.list (entries.map Prod.snd))
  | object {entries : List DenotedMember} {members : Members} :
      (∀ entry ∈ entries, Resolves entry.marks entry.name.toList) →
      (∀ entry ∈ entries, Denotes entry.draft entry.value) → Ascending members →
      (∀ name value, (name, value) ∈ members ↔ LastNamed name value (entries.map fun entry => (entry.name, entry.value))) →
      Denotes (.object (entries.map fun entry => (entry.marks, entry.draft))) (.object members)

/-! Sorting keeps the last member of each name. -/

theorem last_named_nil (name : String) (value : Value) : ¬ LastNamed name value [] := by
  rintro ⟨before, after, same, _⟩
  exact List.append_ne_nil_of_right_ne_nil before (List.cons_ne_nil _ _) same.symm

theorem last_named_cons (name : String) (value : Value) (first : String × Value) (rest : Members) :
    LastNamed name value (first :: rest) ↔
      LastNamed name value rest ∨ first = (name, value) ∧ ∀ member ∈ rest, member.1 ≠ name := by
  constructor
  · rintro ⟨before, after, same, different⟩
    cases before with
    | nil =>
      obtain ⟨rfl, rfl⟩ := List.cons.inj same
      exact .inr ⟨rfl, different⟩
    | cons head before =>
      obtain ⟨rfl, rfl⟩ := List.cons.inj same
      exact .inl ⟨before, after, rfl, different⟩
  · rintro (⟨before, after, rfl, different⟩ | ⟨rfl, different⟩)
    · exact ⟨first :: before, after, rfl, different⟩
    · exact ⟨[], rest, rfl, different⟩

theorem insert_mem_iff (name : String) (value : Value) (members : Members) (ascending : Ascending members)
    (member : String × Value) :
    member ∈ Members.insert name value members ↔ member = (name, value) ∨ member ∈ members ∧ member.1 ≠ name := by
  induction members with
  | nil => simp [Members.insert]
  | cons first rest ih =>
    obtain ⟨below, others⟩ := List.pairwise_cons.mp ascending
    have aboveName : ∀ least, least < first.1 ∨ least = first.1 → ∀ other ∈ rest, other.1 ≠ least := by
      rintro least before other later rfl
      rcases before with before | same
      · exact String.lt_asymm before (below other later)
      · exact String.lt_irrefl _ (same ▸ below other later)
    rw [Members.insert]
    by_cases before : name < first.1
    · rw [if_pos before, List.mem_cons]
      have notFirst : first.1 ≠ name := fun same => String.lt_irrefl _ (same ▸ before)
      have different : member ∈ first :: rest → member.1 ≠ name := by
        intro present
        rcases List.mem_cons.mp present with rfl | later
        · exact notFirst
        · exact aboveName name (.inl before) member later
      exact or_congr_right ⟨fun present => ⟨present, different present⟩, And.left⟩
    · rw [if_neg before]
      by_cases after : first.1 < name
      · have notFirst : first.1 ≠ name := fun same => String.lt_irrefl _ (same ▸ after)
        rw [if_pos after, List.mem_cons, ih others, List.mem_cons]
        constructor
        · rintro (rfl | fresh | ⟨later, different⟩)
          · exact .inr ⟨.inl rfl, notFirst⟩
          · exact .inl fresh
          · exact .inr ⟨.inr later, different⟩
        · rintro (fresh | ⟨rfl | later, different⟩)
          · exact .inr (.inl fresh)
          · exact .inl rfl
          · exact .inr (.inr ⟨later, different⟩)
      · have same : name = first.1 := String.le_antisymm (String.not_lt.mp after) (String.not_lt.mp before)
        rw [if_neg after, List.mem_cons, List.mem_cons]
        constructor
        · rintro (fresh | later)
          · exact .inl fresh
          · exact .inr ⟨.inr later, aboveName name (.inr same) member later⟩
        · rintro (fresh | ⟨rfl | later, different⟩)
          · exact .inl fresh
          · exact absurd same.symm different
          · exact .inr later

theorem insert_all_mem_iff (sorted members : Members) (ascending : Ascending sorted) (name : String) (value : Value) :
    (name, value) ∈ insertAll sorted members ↔
      LastNamed name value members ∨ (name, value) ∈ sorted ∧ ∀ member ∈ members, member.1 ≠ name := by
  induction members generalizing sorted with
  | nil =>
    constructor
    · intro present
      exact .inr ⟨present, nofun⟩
    · rintro (last | ⟨present, _⟩)
      · exact (last_named_nil name value last).elim
      · exact present
  | cons first rest ih =>
    have onward := ih (Members.insert first.1 first.2 sorted) (insert_ascending first.1 first.2 sorted ascending)
    have step : insertAll sorted (first :: rest) = insertAll (Members.insert first.1 first.2 sorted) rest := rfl
    rw [step, onward, last_named_cons, insert_mem_iff _ _ _ ascending, List.forall_mem_cons]
    constructor
    · rintro (last | ⟨fresh | ⟨old, different⟩, others⟩)
      · exact .inl (.inl last)
      · exact .inl (.inr ⟨fresh.symm, others⟩)
      · exact .inr ⟨old, Ne.symm different, others⟩
    · rintro ((last | ⟨rfl, others⟩) | ⟨old, different, others⟩)
      · exact .inl last
      · exact .inr ⟨.inl rfl, others⟩
      · exact .inr ⟨.inr ⟨old, Ne.symm different⟩, others⟩

theorem ascending_nodup (members : Members) (ascending : Ascending members) : members.Nodup := by
  refine List.Pairwise.imp ?_ ascending
  rintro first second below rfl
  exact String.lt_irrefl _ below

theorem ascending_unique (first second : Members) (ascendingFirst : Ascending first) (ascendingSecond : Ascending second)
    (same : ∀ member, member ∈ first ↔ member ∈ second) : first = second := by
  have perm : first.Perm second :=
    (List.perm_ext_iff_of_nodup (ascending_nodup first ascendingFirst) (ascending_nodup second ascendingSecond)).mpr same
  refine List.Perm.eq_of_pairwise ?_ ascendingFirst ascendingSecond perm
  intro one other _ _ below above
  exact absurd above (String.lt_asymm below)

theorem of_list_mem_iff (written : Members) (name : String) (value : Value) :
    (name, value) ∈ Members.ofList written ↔ LastNamed name value written := by
  have inserted := insert_all_mem_iff [] written List.Pairwise.nil name value
  simp only [List.not_mem_nil, false_and, or_false] at inserted
  exact inserted

theorem of_list_last_named (written members : Members) (ascending : Ascending members)
    (kept : ∀ name value, (name, value) ∈ members ↔ LastNamed name value written) : Members.ofList written = members := by
  apply ascending_unique _ _ (of_list_ascending written) ascending
  rintro ⟨name, value⟩
  rw [kept, of_list_mem_iff]

/-! Reading items and members one by one -/

theorem except_bind_ok {α β : Type} {result : Except Cause α} {next : α → Except Cause β} {value : β}
    (bound : result.bind next = .ok value) : ∃ inner, result = .ok inner ∧ next inner = .ok value := by
  cases result with
  | error cause => cases bound
  | ok inner => exact ⟨inner, rfl, bound⟩

theorem read_items_ok {depth : Nat} {items : List Draft} {values : List Value} (read : readItems depth items = .ok values) :
    ∀ item ∈ items, ∃ value, item.read depth = .ok value := by
  induction items generalizing values with
  | nil => exact nofun
  | cons item rest ih =>
    rw [readItems] at read
    obtain ⟨first, here, others⟩ := except_bind_ok read
    obtain ⟨later, onward, _⟩ := except_map_ok others
    exact List.forall_mem_cons.mpr ⟨⟨first, here⟩, ih onward⟩

theorem read_members_ok {depth : Nat} {before result : Members} {members : List (List Mark × Draft)}
    (read : readMembers depth before members = .ok result) :
    ∀ member ∈ members, Paired member.1 ∧ ∃ value, member.2.read depth = .ok value := by
  induction members generalizing before with
  | nil => exact nofun
  | cons member rest ih =>
    obtain ⟨marks, item⟩ := member
    rw [readMembers] at read
    obtain ⟨name, named, behindName⟩ := except_bind_ok read
    obtain ⟨value, here, onward⟩ := except_bind_ok behindName
    exact List.forall_mem_cons.mpr ⟨⟨⟨name, read_marks_resolves marks name named⟩, value, here⟩, ih onward⟩

theorem read_shallow_paired (draft : Draft) (depth : Nat) (value : Value) (read : draft.read depth = .ok value) :
    draft.depth ≤ depth ∧ draft.Paired := by
  induction draft using draft_induction generalizing depth value with
  | null => exact ⟨Nat.zero_le _, trivial⟩
  | boolean truth => exact ⟨Nat.zero_le _, trivial⟩
  | number numeral => exact ⟨Nat.zero_le _, trivial⟩
  | text marks =>
    obtain ⟨chars, resolved, _⟩ := except_map_ok (by rwa [Draft.read] at read)
    exact ⟨Nat.zero_le _, chars, read_marks_resolves marks chars resolved⟩
  | list items ih =>
    cases depth with
    | zero => cases read
    | succ depth =>
      obtain ⟨values, inner, _⟩ := except_map_ok (by rwa [Draft.read] at read)
      have each := read_items_ok inner
      have both : ∀ item ∈ items, item.depth ≤ depth ∧ item.Paired := by
        intro item present
        obtain ⟨own, here⟩ := each item present
        exact ih item present depth own here
      refine ⟨?_, (draft_list_everywhere _ items).mpr ⟨trivial, fun item present => (both item present).2⟩⟩
      exact (draft_list_depth_within items _).mpr ⟨Nat.succ_pos depth, fun item present => (both item present).1⟩
  | object members ih =>
    cases depth with
    | zero => cases read
    | succ depth =>
      obtain ⟨result, inner, _⟩ := except_map_ok (by rwa [Draft.read] at read)
      have each := read_members_ok inner
      have both : ∀ member ∈ members, member.2.depth ≤ depth ∧ member.2.Paired := by
        intro member present
        obtain ⟨_, own, here⟩ := each member present
        exact ih member present depth own here
      refine ⟨?_, (draft_object_everywhere _ members).mpr
        ⟨fun member present => (each member present).1, fun member present => (both member present).2⟩⟩
      exact (draft_object_depth_within members _).mpr ⟨Nat.succ_pos depth, fun member present => (both member present).1⟩

/-! Drafts are read as what they denote. -/

theorem read_items_all {depth : Nat} (entries : List (Draft × Value))
    (each : ∀ entry ∈ entries, entry.1.read depth = .ok entry.2) :
    readItems depth (entries.map Prod.fst) = .ok (entries.map Prod.snd) := by
  induction entries with
  | nil => rfl
  | cons entry rest ih =>
    obtain ⟨first, others⟩ := List.forall_mem_cons.mp each
    rw [List.map_cons, readItems, first, ih others]
    rfl

theorem read_members_all {depth : Nat} (entries : List DenotedMember) (before : Members)
    (names : ∀ entry ∈ entries, Resolves entry.marks entry.name.toList)
    (each : ∀ entry ∈ entries, entry.draft.read depth = .ok entry.value) :
    readMembers depth before (entries.map fun entry => (entry.marks, entry.draft)) =
      .ok (insertAll before (entries.map fun entry => (entry.name, entry.value))) := by
  induction entries generalizing before with
  | nil => rfl
  | cons entry rest ih =>
    obtain ⟨named, namesRest⟩ := List.forall_mem_cons.mp names
    obtain ⟨first, others⟩ := List.forall_mem_cons.mp each
    rw [List.map_cons, readMembers, resolves_read_marks named, first]
    simp only [Except.bind, String.ofList_toList]
    exact ih (Members.insert entry.name entry.value before) namesRest others

theorem denotes_read {draft : Draft} {value : Value} (denotes : draft.Denotes value) (depth : Nat)
    (shallow : draft.depth ≤ depth) : draft.read depth = .ok value := by
  induction denotes generalizing depth with
  | null => rfl
  | boolean truth => rfl
  | integer numeral value integer same =>
    obtain ⟨own, lower, upper⟩ := value
    cases same
    rw [Draft.read, numeral_integer numeral integer]
    rfl
  | text resolves =>
    rw [Draft.read, resolves_read_marks resolves]
    rfl
  | @list entries each ih =>
    obtain ⟨room, items⟩ := (draft_list_depth_within _ depth).mp shallow
    have inner := List.forall_mem_map.mp items
    cases depth with
    | zero => cases room
    | succ depth =>
      rw [Draft.read, read_items_all entries fun entry present => ih entry present depth (inner entry present)]
      rfl
  | @object entries members names each ascending kept ih =>
    obtain ⟨room, drafts⟩ := (draft_object_depth_within _ depth).mp shallow
    have inner := List.forall_mem_map.mp drafts
    cases depth with
    | zero => cases room
    | succ depth =>
      rw [Draft.read, read_members_all entries [] names fun entry present => ih entry present depth (inner entry present)]
      exact congrArg (fun members => Except.ok (Value.object members)) (of_list_last_named _ members ascending kept)

theorem denotes_once {draft : Draft} {first second : Value} (denotesFirst : draft.Denotes first)
    (denotesSecond : draft.Denotes second) : first = second :=
  Except.ok.inj ((denotes_read denotesFirst draft.depth (Nat.le_refl _)).symm.trans
    (denotes_read denotesSecond draft.depth (Nat.le_refl _)))

theorem denotes_some (draft : Draft) (paired : draft.Paired) (integral : draft.Integral) : ∃ value, draft.Denotes value := by
  induction draft using draft_induction with
  | null => exact ⟨_, .null⟩
  | boolean truth => exact ⟨_, .boolean truth⟩
  | number numeral => exact ⟨_, .integer numeral ⟨numeral.value, integral.2.2.2.1, integral.2.2.2.2⟩ integral rfl⟩
  | text marks =>
    obtain ⟨chars, resolves⟩ := paired
    exact ⟨_, .text resolves⟩
  | list items ih =>
    have pairedItems := ((draft_list_everywhere _ items).mp paired).2
    have integralItems := ((draft_list_everywhere _ items).mp integral).2
    obtain ⟨entries, rfl, each⟩ := entries_of Prod.fst (fun entry : Draft × Value => entry.1.Denotes entry.2) items (by
      intro item present
      obtain ⟨value, denotes⟩ := ih item present (pairedItems item present) (integralItems item present)
      exact ⟨(item, value), rfl, denotes⟩)
    exact ⟨_, .list each⟩
  | object members ih =>
    obtain ⟨pairedNames, pairedValues⟩ := (draft_object_everywhere _ members).mp paired
    have integralValues := ((draft_object_everywhere _ members).mp integral).2
    obtain ⟨entries, rfl, each⟩ := entries_of (fun entry : DenotedMember => (entry.marks, entry.draft))
      (fun entry => Resolves entry.marks entry.name.toList ∧ entry.draft.Denotes entry.value) members (by
        intro member present
        obtain ⟨chars, resolves⟩ := pairedNames member present
        obtain ⟨value, denotes⟩ := ih member present (pairedValues member present) (integralValues member present)
        refine ⟨⟨member.1, member.2, String.ofList chars, value⟩, rfl, ?_, denotes⟩
        rwa [String.toList_ofList])
    exact ⟨_, .object (fun entry present => (each entry present).1) (fun entry present => (each entry present).2)
      (of_list_ascending _) (of_list_mem_iff _)⟩

end NodeProbe.Json
