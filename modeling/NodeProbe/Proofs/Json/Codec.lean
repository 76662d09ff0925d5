import NodeProbe.Proofs.Json.Admission
import NodeProbe.Proofs.Json.Pretty

set_option autoImplicit false

namespace NodeProbe.Json

mutual
def Shape.Open (holds : Value → Prop) : {α : Type} → Shape α → α → Prop
  | _, .members, members => holds (.object members)
  | _, .optional _, none => True
  | _, .optional inner, some value => inner.Open holds value
  | _, .list item, values => ∀ value ∈ values, item.Open holds value
  | _, .record _ fields _ parts, value => fields.Open holds (parts value)
  | _, .text, _ => True
  | _, .path, _ => True
  | _, .boolean, _ => True
  | _, .word _, _ => True

def Fields.Open (holds : Value → Prop) : {β : Type} → Fields β → β → Prop
  | _, .done, _ => True
  | _, .field _ shape _ rest, (first, others) => shape.Open holds first ∧ rest.Open holds others
end

theorem encode_names {β : Type} (fields : Fields β) (parts : β) :
    (fields.encode parts).map Prod.fst = fields.names := by
  match β, fields, parts with
  | _, .done, _ => rfl
  | _, .field name shape absence rest, (first, others) =>
    rw [Fields.encode, List.map_cons, encode_names rest others, Fields.names]

mutual
theorem encode_everywhere {kept holds : Value → Prop} {α : Type} (shape : Shape α) (lawful : shape.Lawful) (value : α)
    (plain : ∀ written : Value, written.NotFloat → written.NamesOnce → holds written)
    (keeps : ∀ written : Value, kept written → written.Everywhere holds) (opened : shape.Open kept value) :
    (shape.encode value).Everywhere holds := by
  match α, shape, value with
  | _, .text, _ => exact plain _ trivial trivial
  | _, .path, _ => exact plain _ trivial trivial
  | _, .boolean, _ => exact plain _ trivial trivial
  | _, .word _, _ => exact plain _ trivial trivial
  | _, .optional _, none => exact plain _ trivial trivial
  | _, .optional inner, some value => exact encode_everywhere inner lawful.1 value plain keeps opened
  | _, .members, _ => exact keeps _ opened
  | _, .list item, values =>
    rw [Shape.encode, everywhere_list]
    refine ⟨plain _ trivial trivial, List.forall_mem_map.mpr ?_⟩
    exact fun value present => encode_everywhere item lawful value plain keeps (opened value present)
  | _, .record _ fields _ parts, value =>
    obtain ⟨unique, fieldsLawful, _⟩ := lawful
    have once : (Value.object (fields.encode (parts value))).NamesOnce := by
      rw [Value.NamesOnce, encode_names]
      exact unique
    rw [Shape.encode, everywhere_object]
    exact ⟨plain _ trivial once, encode_fields_everywhere fields fieldsLawful (parts value) plain keeps opened⟩

theorem encode_fields_everywhere {kept holds : Value → Prop} {β : Type} (fields : Fields β) (lawful : fields.Lawful)
    (parts : β) (plain : ∀ written : Value, written.NotFloat → written.NamesOnce → holds written)
    (keeps : ∀ written : Value, kept written → written.Everywhere holds) (opened : fields.Open kept parts) :
    ∀ member ∈ fields.encode parts, member.2.Everywhere holds := by
  match β, fields, parts with
  | _, .done, _ => exact nofun
  | _, .field name shape _ rest, (first, others) =>
    rw [Fields.encode]
    exact List.forall_mem_cons.mpr ⟨encode_everywhere shape lawful.1 first plain keeps opened.1,
      encode_fields_everywhere rest lawful.2 others plain keeps opened.2⟩
end

theorem sorted_null (value : Value) (notNull : value ≠ .null) : value.sorted ≠ .null := by
  cases value with
  | null => exact absurd rfl notNull
  | boolean => exact nofun
  | number => exact nofun
  | text => exact nofun
  | list => exact nofun
  | object => exact nofun

mutual
theorem encode_admitted {α : Type} (shape : Shape α) (lawful : shape.Lawful) (value : α)
    (canonical : shape.Open Value.Canonical value) : shape.Admits (shape.encode value).sorted value := by
  match α, shape, value with
  | _, .text, _ => rfl
  | _, .path, _ => rfl
  | _, .boolean, _ => rfl
  | _, .word _, _ => rfl
  | _, .optional _, none => rfl
  | _, .optional inner, some value =>
    exact ⟨sorted_null _ (lawful.2 value), encode_admitted inner lawful.1 value canonical⟩
  | _, .members, members =>
    have unchanged := sorted_of_canonical (.object members) canonical
    rw [Shape.encode, unchanged]
    exact ⟨members, rfl, unchanged⟩
  | _, .list item, values =>
    refine ⟨(values.map item.encode).map Value.sorted, sorted_list _, ?_⟩
    rw [List.map_map, List.forall₂_map_left_iff, List.forall₂_same]
    exact fun value present => encode_admitted item lawful value (canonical value present)
  | _, .record _ fields build parts, value =>
    obtain ⟨unique, fieldsLawful, rebuilt⟩ := lawful
    have named : ((fields.encode (parts value)).map fun member => (member.1, member.2.sorted)).map Prod.fst =
        fields.names := by
      rw [List.map_map]
      exact encode_names fields (parts value)
    -- The names differ, so that putting them in order loses no member.
    have perm := of_list_perm _ (named ▸ unique)
    refine ⟨_, parts value, sorted_object _, ?_, ?_, ?_, rebuilt value⟩
    · exact (perm.map Prod.fst).symm.nodup (named ▸ unique)
    · intro member present
      rw [← named]
      exact List.mem_map_of_mem (perm.mem_iff.mp present)
    · refine encode_fields_admitted fields fieldsLawful (parts value) canonical _ ?_
      exact fun member present => perm.mem_iff.mpr (List.mem_map_of_mem present)

theorem encode_fields_admitted {β : Type} (fields : Fields β) (lawful : fields.Lawful) (parts : β)
    (canonical : fields.Open Value.Canonical parts) (members : Members)
    (written : ∀ member ∈ fields.encode parts, (member.1, member.2.sorted) ∈ members) :
    fields.Admits members parts := by
  match β, fields, parts with
  | _, .done, _ => trivial
  | _, .field name shape _ rest, (first, others) =>
    rw [Fields.encode] at written
    obtain ⟨here, later⟩ := List.forall_mem_cons.mp written
    exact ⟨.inl ⟨_, here, encode_admitted shape lawful.1 first canonical.1⟩,
      encode_fields_admitted rest lawful.2 others canonical.2 members later⟩
end

structure Shape.Keeps {α : Type} (shape : Shape α) (value : α) : Prop where
  lawful : shape.Lawful
  canonical : shape.Open Value.Canonical value
  exact : shape.Open Value.Exact value

theorem compact_gives {α : Type} (shape : Shape α) (value : α) (keeps : shape.Keeps value) (depth : Nat) :
    (shape.reader depth).Gives (shape.encode value).sorted.write (within depth (shape.encode value).depth value) := by
  have distinct : (shape.encode value).Distinct :=
    encode_everywhere shape keeps.lawful value (fun _ _ once => once) canonical_distinct keeps.canonical
  have exactly : (shape.encode value).Exact :=
    encode_everywhere shape keeps.lawful value (fun _ notFloat _ => notFloat) (fun _ exact => exact) keeps.exact
  have given := shape_gives shape keeps.lawful (encode_admitted shape keeps.lawful value keeps.canonical)
    (compact_spelling _ (sorted_exact _ exactly)) depth
  rwa [sorted_depth _ distinct] at given

theorem decode_compact {α : Type} (shape : Shape α) (value : α) (keeps : shape.Keeps value)
    (shallow : (shape.encode value).depth ≤ depthLimit) :
    shape.decode (shape.encode value).sorted.compact = .ok value := by
  have given := compact_gives shape value keeps depthLimit
  rw [within, if_pos shallow] at given
  rw [Shape.decode, Value.compact, String.toList_ofList]
  exact document_reads given

theorem decode_compact_deep {α : Type} (shape : Shape α) (value : α) (keeps : shape.Keeps value)
    (deep : ¬ (shape.encode value).depth ≤ depthLimit) :
    ∃ position, shape.decode (shape.encode value).sorted.compact = .error ⟨.tooDeep, position⟩ := by
  have given := compact_gives shape value keeps depthLimit
  rw [within_deep _ deep] at given
  rw [Shape.decode, Value.compact, String.toList_ofList]
  exact document_refuses given

theorem compact_injective {α : Type} (shape : Shape α) (first second : α) (keepsFirst : shape.Keeps first)
    (keepsSecond : shape.Keeps second)
    (same : (shape.encode first).sorted.compact = (shape.encode second).sorted.compact) : first = second := by
  -- Both are read with room for the deeper of the two, however deep they are.
  let depth := max (shape.encode first).depth (shape.encode second).depth
  have readFirst := compact_gives shape first keepsFirst depth
  have readSecond := compact_gives shape second keepsSecond depth
  rw [within, if_pos (Nat.le_max_left _ _)] at readFirst
  rw [within, if_pos (Nat.le_max_right _ _)] at readSecond
  have texts : (shape.encode first).sorted.write = (shape.encode second).sorted.write := String.ofList_injective same
  rw [texts] at readFirst
  exact Except.ok.inj ((document_reads readFirst).symm.trans (document_reads readSecond))

end NodeProbe.Json
