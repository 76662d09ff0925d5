import NodeProbe.Proofs.Json.Spelling
import Mathlib.Data.List.Nodup

set_option autoImplicit false

namespace NodeProbe.Json

def Fields.names : {β : Type} → Fields β → List String
  | _, .done => []
  | _, .field name _ _ rest => name :: rest.names

mutual
-- Records name each member once and are built from their parts, and no option is nested in another.
def Shape.Lawful : {α : Type} → Shape α → Prop
  | _, .optional inner => inner.Lawful ∧ ∀ value, inner.encode value ≠ .null
  | _, .list item => item.Lawful
  | _, .record _ fields build parts => fields.names.Nodup ∧ fields.Lawful ∧ ∀ value, build (parts value) = value
  | _, _ => True

def Fields.Lawful : {β : Type} → Fields β → Prop
  | _, .done => True
  | _, .field _ shape _ rest => shape.Lawful ∧ rest.Lawful
end

mutual
def Shape.Admits : {α : Type} → Shape α → Value → α → Prop
  | _, .text, found, value => found = .text value
  | _, .path, found, value => found = .text value
  | _, .boolean, found, value => found = .boolean value
  | _, .word kind, found, value => found = .number (.integer (kind.toInteger value))
  | _, .optional _, found, none => found = .null
  | _, .optional inner, found, some value => found ≠ .null ∧ inner.Admits found value
  | _, .list item, found, values => ∃ items, found = .list items ∧ List.Forall₂ item.Admits items values
  | _, .members, found, members => ∃ raw, found = .object raw ∧ found.sorted = .object members
  | _, .record _ fields build _, found, value =>
    ∃ members parts, found = .object members ∧ (members.map Prod.fst).Nodup ∧
      (∀ member ∈ members, member.1 ∈ fields.names) ∧ fields.Admits members parts ∧ build parts = value

def Fields.Admits : {β : Type} → Fields β → Members → β → Prop
  | _, .done, _, _ => True
  | _, .field name shape absence rest, members, (first, others) =>
    ((∃ found, (name, found) ∈ members ∧ shape.Admits found first) ∨
      (name ∉ members.map Prod.fst ∧ absence.value? = some first)) ∧ rest.Admits members others
end

def Fields.filled : {β : Type} → (fields : Fields β) → β → List String → fields.Slots
  | _, .done, _, _ => ()
  | _, .field name _ _ rest, (first, others), seen =>
    (if name ∈ seen then some first else none, rest.filled others seen)

theorem filled_nil {β : Type} (fields : Fields β) (parts : β) : fields.filled parts [] = fields.empty := by
  match fields, parts with
  | .done, _ => rfl
  | .field name shape absence rest, (first, others) =>
    rw [Fields.filled, Fields.empty, if_neg List.not_mem_nil, filled_nil rest others]

theorem unseen_slot {α : Type} {own name : String} (seen : List String) (first : α) (different : name ≠ own) :
    (if own ∈ name :: seen then some first else none) = if own ∈ seen then some first else none := by
  by_cases earlier : own ∈ seen
  · rw [if_pos earlier, if_pos (List.mem_cons_of_mem name earlier)]
  · rw [if_neg earlier, if_neg (List.not_mem_cons_of_ne_of_not_mem (Ne.symm different) earlier)]

theorem filled_unknown {β : Type} (fields : Fields β) (parts : β) (name : String) (seen : List String)
    (unknown : name ∉ fields.names) : fields.filled parts (name :: seen) = fields.filled parts seen := by
  match fields, parts with
  | .done, _ => rfl
  | .field own shape absence rest, (first, others) =>
    obtain ⟨different, absent⟩ := not_or.mp (mt List.mem_cons.mpr unknown)
    rw [Fields.filled, Fields.filled, filled_unknown rest others name seen absent,
      unseen_slot seen first different]

theorem collect_filled {β : Type} (fields : Fields β) (members : Members) (parts : β) (seen : List String)
    (admits : fields.Admits members parts) (all : ∀ name, name ∈ seen ↔ name ∈ members.map Prod.fst) :
    fields.collect (fields.filled parts seen) = .ok parts := by
  match fields, parts with
  | .done, _ => rfl
  | .field name shape absence rest, (first, others) =>
    obtain ⟨present, restAdmits⟩ := admits
    have slot : (if name ∈ seen then some first else none).or absence.value? = some first := by
      rcases present with ⟨found, member, _⟩ | ⟨absent, missing⟩
      · rw [if_pos ((all name).mpr (List.mem_map_of_mem member))]
        rfl
      · rw [if_neg (mt (all name).mp absent), missing]
        rfl
    simp only [Fields.filled, Fields.collect, slot, collect_filled rest members others seen restAdmits all]

theorem spelling_not_null {found : Value} {text : List Char} (spelling : Spelling found text) (notNull : found ≠ .null) :
    ∃ c rest, text = c :: rest ∧ c ≠ 'n' := by
  cases spelling with
  | null => exact absurd rfl notNull
  | boolean value => cases value <;> exact ⟨_, _, rfl, by decide⟩
  | integer value =>
    obtain ⟨c, rest, same, start⟩ := signed_opens value
    obtain ⟨_, _, _, _, _, notN⟩ := number_start_marks c start
    exact ⟨c, rest, same, notN⟩
  | text spelled => exact ⟨_, _, rfl, by decide⟩
  | list each layout => exact ⟨_, _, rfl, by decide⟩
  | object labels each layout => exact ⟨_, _, rfl, by decide⟩

theorem scalar_as_gives {α : Type} {expected : String} {accept : Scalar → Except Cause α} (found : Scalar)
    {text : List Char} {value : α} (spelling : Spelling found.toValue text) (accepted : accept found = .ok value) :
    (scalarAs expected accept).afterSpace.Gives text (.ok value) := by
  have given := gives_check_ok accept (scalar_gives spelling) accepted
  have opens := spelling_opens spelling
  obtain ⟨c, rest, rfl, notList, notObject⟩ := scalar_not_bracket spelling
  exact gives_after_space opens (gives_choose_other notList (gives_choose_other notObject given))

-- How the reader of a record reads the members of an object: each is put into its own slot.
def Fields.Reads {β : Type} (fields : Fields β) (depth : Nat) (members : Members) (parts : β) : Prop :=
  ∀ seen name found, (name, found) ∈ members → name ∈ fields.names → name ∉ seen →
    ∃ reader, fields.member depth name (fields.filled parts seen) = some reader ∧
      ∀ separator text, Separator separator → Spelling found text →
        reader.Gives (separator ++ text) (within depth found.depth (fields.filled parts (name :: seen)))

theorem record_course {β : Type} (fields : Fields β) (depth : Nat) (members : Members) (parts : β)
    (reads : fields.Reads depth members parts) (entries : List WrittenMember)
    (labels : ∀ entry ∈ entries, LabelSpelling entry.name entry.label)
    (each : ∀ entry ∈ entries, Spelling entry.value entry.text)
    (known : ∀ entry ∈ entries, (entry.name, entry.value) ∈ members ∧ entry.name ∈ fields.names)
    (seen : List String) (distinct : (entries.map WrittenMember.name).Nodup)
    (fresh : ∀ entry ∈ entries, entry.name ∉ seen) :
    Course (fun slots => memberName.bind fun key =>
        (fields.member depth key slots).getD (skip.afterColon.map fun _ => slots))
      (fields.filled parts seen) (entries.map fun entry => entry.label ++ entry.text)
      (within depth (depthMembers (entries.map fun entry => (entry.name, entry.value)))
        (fields.filled parts ((entries.map WrittenMember.name).reverse ++ seen))) := by
  induction entries generalizing seen with
  | nil =>
    rw [List.map_nil, List.map_nil, depthMembers, within_zero]
    exact .done _
  | cons entry rest ih =>
    obtain ⟨present, named⟩ := known entry List.mem_cons_self
    obtain ⟨reader, selected, gives⟩ := reads seen entry.name entry.value present named (fresh entry List.mem_cons_self)
    have given : (memberName.bind fun key =>
        (fields.member depth key (fields.filled parts seen)).getD
          (skip.afterColon.map fun _ => fields.filled parts seen)).Gives (entry.label ++ entry.text)
        (within depth entry.value.depth (fields.filled parts (entry.name :: seen))) := by
      refine label_gives (labels entry List.mem_cons_self) ?_
      intro separator separates
      rw [selected]
      exact gives separator entry.text separates (each entry List.mem_cons_self)
    rw [List.map_cons, List.map_cons, depthMembers]
    -- A member that is nested too deep ends the course, whatever slots are filled by then.
    by_cases fits : entry.value.depth ≤ depth
    · rw [within, if_pos fits] at given
      rw [within_max_shallow _ _ fits, List.map_cons, List.reverse_cons, List.append_assoc]
      obtain ⟨unused, others⟩ := List.nodup_cons.mp distinct
      refine .next given (ih (fun other member => labels other (List.mem_cons_of_mem entry member))
        (fun other member => each other (List.mem_cons_of_mem entry member))
        (fun other member => known other (List.mem_cons_of_mem entry member)) (entry.name :: seen) others ?_)
      intro other member again
      rcases List.mem_cons.mp again with same | earlier
      · exact unused (same ▸ List.mem_map_of_mem member)
      · exact fresh other (List.mem_cons_of_mem entry member) earlier
    · rw [within_deep _ fits] at given
      rw [within_max_deep _ _ fits]
      exact .stop given

theorem member_unique {members : Members} {name : String} {first second : Value}
    (distinct : (members.map Prod.fst).Nodup) (left : (name, first) ∈ members) (right : (name, second) ∈ members) :
    first = second := by
  have same := List.inj_on_of_nodup_map distinct left right rfl
  exact (Prod.mk.inj same).2

theorem record_gives {α β : Type} (fields : Fields β) (build : β → α) (listed other : Reader α) {depth : Nat}
    {members : Members} {parts : β} {text : List Char} (reads : ∀ inner, fields.Reads inner members parts)
    (admits : fields.Admits members parts) (distinct : (members.map Prod.fst).Nodup)
    (known : ∀ member ∈ members, member.1 ∈ fields.names) (spelling : Spelling (.object members) text) :
    (Reader.choose '[' listed (.choose '\x7b' (.bracketed (deeper depth
        ((Enclosure.object.reader
          (fun slots => memberName.bind fun key =>
            (fields.member (depth - 1) key slots).getD (skip.afterColon.map fun _ => slots))
          fields.empty).check fields.collect |>.map build))) other)).afterSpace.Gives text
      (within depth (Value.object members).depth (build parts)) := by
  cases spelling with
  | @object entries body labels each layout =>
    have entryKnown : ∀ entry ∈ entries,
        (entry.name, entry.value) ∈ entries.map (fun entry => (entry.name, entry.value)) ∧
          entry.name ∈ fields.names :=
      fun entry present => ⟨List.mem_map_of_mem present, known _ (List.mem_map_of_mem present)⟩
    have named : (entries.map fun entry => (entry.name, entry.value)).map Prod.fst = entries.map WrittenMember.name :=
      List.map_map ..
    have opens : ∀ text ∈ entries.map fun entry => entry.label ++ entry.text, Opens text :=
      List.forall_mem_map.mpr fun entry present => opens_append (label_opens (labels entry present)) _
    refine gives_after_space (spelling_opens (.object labels each layout))
      (gives_choose_other (by decide) (gives_choose_same ?_))
    rw [Value.depth]
    refine bracketed_gives '\x7b' ?_
    rintro inner rfl
    have course := record_course fields inner _ parts (reads inner) entries labels each entryKnown []
      (named ▸ distinct) (fun _ _ => List.not_mem_nil)
    rw [filled_nil, List.append_nil] at course
    have slots := enclosure_layout .object _ layout opens fields.empty _ course
    have collected : fields.collect (fields.filled parts (entries.map WrittenMember.name).reverse) = .ok parts := by
      refine collect_filled fields _ parts _ admits ?_
      intro name
      rw [List.mem_reverse, named]
    have given := gives_map build (gives_check_within fields.collect slots collected)
    rwa [within_map] at given

theorem items_read {α : Type} {reader : Reader α} {depth : Nat} {admits : Value → α → Prop}
    {entries : List (Value × List Char)} {values : List α} (each : ∀ entry ∈ entries, Spelling entry.1 entry.2)
    (admitted : List.Forall₂ admits (entries.map Prod.fst) values)
    (gives : ∀ found text value, admits found value → Spelling found text →
      reader.Gives text (within depth found.depth value)) : ItemsRead reader depth entries values := by
  rw [List.forall₂_map_left_iff] at admitted
  induction admitted with
  | nil => exact .nil
  | cons first others ih =>
    obtain ⟨spelled, spelledRest⟩ := List.forall_mem_cons.mp each
    exact .cons (gives _ _ _ first spelled) (ih spelledRest)

mutual
theorem shape_gives {α : Type} (shape : Shape α) (lawful : shape.Lawful) {found : Value} {value : α}
    {text : List Char} (admits : shape.Admits found value) (spelling : Spelling found text) (depth : Nat) :
    (shape.reader depth).Gives text (within depth found.depth value) := by
  match α, shape, value with
  | _, .text, content =>
    cases admits
    exact scalar_as_gives (.text content) spelling rfl
  | _, .path, content =>
    cases admits
    exact scalar_as_gives (.text content) spelling rfl
  | _, .boolean, truth =>
    cases admits
    exact scalar_as_gives (.boolean truth) spelling rfl
  | _, .word kind, word =>
    cases admits
    refine scalar_as_gives (.number (.integer (kind.toInteger word))) spelling ?_
    simp only [kind.ofInt?_toInteger]
  | _, @Shape.optional β inner, none =>
    cases admits
    have given := gives_map (fun _ => (none : Option β)) (@scalar_gives .null text spelling)
    rw [Shape.reader]
    cases spelling
    exact gives_after_space (spelling_opens .null) (gives_choose_same given)
  | _, .optional inner, some value =>
    obtain ⟨notNull, admitted⟩ := admits
    obtain ⟨c, rest, rfl, notN⟩ := spelling_not_null spelling notNull
    have given := gives_map some (shape_gives inner lawful.1 admitted spelling depth)
    rw [within_map] at given
    rw [Shape.reader]
    exact gives_after_space (spelling_opens spelling) (gives_choose_other notN given)
  | _, .list item, values =>
    obtain ⟨items, rfl, admitted⟩ := admits
    cases spelling with
    | @list entries body each layout =>
      have opens : ∀ entry ∈ entries, Opens entry.2 := fun entry present => spelling_opens (each entry present)
      rw [Shape.reader, Value.depth]
      refine gives_after_space (spelling_opens (.list each layout)) (gives_choose_same (bracketed_gives '[' ?_))
      rintro inner rfl
      exact list_items_gives layout opens (items_read each admitted fun _ _ _ admits spelled =>
        shape_gives item lawful admits spelled inner)
  | _, .members, members =>
    obtain ⟨raw, rfl, same⟩ := admits
    cases spelling with
    | @object entries body labels each layout =>
      rw [sorted_object] at same
      cases same
      have opens : ∀ entry ∈ entries, Opens entry.text := fun entry present => spelling_opens (each entry present)
      rw [Shape.reader, Value.depth, List.map_map]
      refine gives_after_space (spelling_opens (.object labels each layout))
        (gives_choose_same (bracketed_gives '\x7b' ?_))
      rintro inner rfl
      exact object_items_gives entries layout labels opens fun entry present => value_gives (each entry present) inner
  | _, .record name fields build _, value =>
    obtain ⟨unique, fieldsLawful, _⟩ := lawful
    obtain ⟨members, parts, rfl, distinct, known, fieldsAdmit, rfl⟩ := admits
    rw [Shape.reader]
    exact record_gives fields build _ _ (fields_reads fields fieldsLawful unique distinct fieldsAdmit) fieldsAdmit
      distinct known spelling

theorem fields_reads {β : Type} (fields : Fields β) (lawful : fields.Lawful) (unique : fields.names.Nodup)
    {members : Members} {parts : β} (distinct : (members.map Prod.fst).Nodup)
    (admits : fields.Admits members parts) (depth : Nat) : fields.Reads depth members parts := by
  match β, fields, parts with
  | _, .done, _ => exact fun _ _ _ _ named => absurd named List.not_mem_nil
  | _, .field own shape absence rest, (first, others) =>
    intro seen name found member named fresh
    obtain ⟨shapeLawful, restLawful⟩ := lawful
    obtain ⟨present, restAdmits⟩ := admits
    obtain ⟨notLater, uniqueRest⟩ := List.nodup_cons.mp unique
    by_cases same : name = own
    · subst same
      have admitted : shape.Admits found first := by
        rcases present with ⟨other, recorded, admitted⟩ | ⟨absent, _⟩
        · exact member_unique distinct recorded member ▸ admitted
        · exact absurd (List.mem_map_of_mem member) absent
      refine ⟨(shape.reader depth).afterColon.map fun value => (some value, rest.filled others seen), ?_, ?_⟩
      · simp only [Fields.member, Fields.filled, if_neg fresh, if_true, Option.isSome_none, Bool.false_eq_true, if_false]
      · intro separator text separates spelling
        have given := gives_map (fun value => (some value, rest.filled others seen))
          (after_colon_gives separates (spelling_opens spelling) (shape_gives shape shapeLawful admitted spelling depth))
        rw [within_map] at given
        rw [Fields.filled, if_pos List.mem_cons_self, filled_unknown rest others name seen notLater]
        exact given
    · have later : name ∈ rest.names := (List.mem_cons.mp named).resolve_left same
      obtain ⟨reader, selected, gives⟩ :=
        fields_reads rest restLawful uniqueRest distinct restAdmits depth seen name found member later fresh
      refine ⟨reader.map fun others => (if own ∈ seen then some first else none, others), ?_, ?_⟩
      · simp only [Fields.member, Fields.filled, if_neg same, selected, Option.map_some]
      · intro separator text separates spelling
        have given := gives_map (fun others => (if own ∈ seen then some first else none, others))
          (gives separator text separates spelling)
        rw [within_map] at given
        rw [Fields.filled, unseen_slot seen first same]
        exact given
end

end NodeProbe.Json
