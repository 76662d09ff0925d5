import NodeProbe.Proofs.Json.Presentation

set_option autoImplicit false

namespace NodeProbe.Json

variable {α β : Type}

def Twice (name : String) (members : List (List Mark × Draft)) : Prop :=
  ∃ first second, [first, second].Sublist members ∧ Resolves first.1 name.toList ∧ Resolves second.1 name.toList

def Fields.required : {β : Type} → Fields β → List String
  | _, .done => []
  | _, .field name _ .refused rest => name :: rest.required
  | _, .field _ _ _ rest => rest.required

def Shape.fieldNames {α : Type} : Shape α → List String
  | .record _ fields _ _ => fields.names
  | _ => []

def Shape.requiredNames {α : Type} : Shape α → List String
  | .record _ fields _ _ => fields.required
  | _ => []

mutual
-- Somewhere an object has a member of its own twice, or lacks one that it must have.
def Shape.Flawed : {α : Type} → Shape α → Draft → Prop
  | _, .text, _ => False
  | _, .path, _ => False
  | _, .boolean, _ => False
  | _, .word _, _ => False
  | _, .members, _ => False
  | _, .optional inner, draft => inner.Flawed draft
  | _, .list item, draft => ∃ items, draft = .list items ∧ ∃ one ∈ items, item.Flawed one
  | _, .record _ fields _ _, draft =>
    (∃ members, draft = .object members ∧ ((∃ name ∈ fields.names, Twice name members) ∨
      (∃ name ∈ fields.required, Lacks name members) ∨ fields.FlawedMember members)) ∨
    ∃ items, draft = .list items ∧ fields.FlawedItem items

def Fields.FlawedMember : {β : Type} → Fields β → List (List Mark × Draft) → Prop
  | _, .done, _ => False
  | _, .field name shape _ rest, members =>
    (∃ member ∈ members, Resolves member.1 name.toList ∧ shape.Flawed member.2) ∨ rest.FlawedMember members

def Fields.FlawedItem : {β : Type} → Fields β → List Draft → Prop
  | _, .done, _ => False
  | _, .field _ shape _ rest, items => ∃ item later, items = item :: later ∧ (shape.Flawed item ∨ rest.FlawedItem later)
end

theorem flawed_not_null {α : Type} (shape : Shape α) : ¬ shape.Flawed .null := by
  match α, shape with
  | _, .text => exact id
  | _, .path => exact id
  | _, .boolean => exact id
  | _, .word _ => exact id
  | _, .members => exact id
  | _, .optional inner => exact flawed_not_null inner
  | _, .list _ => exact fun ⟨_, same, _⟩ => nomatch same
  | _, .record _ _ _ _ =>
    rintro (⟨_, same, _⟩ | ⟨_, same, _⟩)
    · cases same
    · cases same

theorem named_sublist {some members : List (List Mark × Draft)} (among : some.Sublist members) (named : List (String × Draft))
    (whole : Named members named) : ∃ own, own.Sublist named ∧ Named some own := by
  induction among generalizing named with
  | slnil =>
    cases whole
    exact ⟨[], .slnil, .nil⟩
  | cons member _ ih =>
    cases whole with
    | cons _ later =>
      obtain ⟨own, kept, same⟩ := ih _ later
      exact ⟨own, kept.cons _, same⟩
  | cons_cons member _ ih =>
    cases whole with
    | cons here later =>
      obtain ⟨own, kept, same⟩ := ih _ later
      exact ⟨_ :: own, kept.cons_cons _, .cons here same⟩

theorem named_as {member : List Mark × Draft} {own : String × Draft} (same : Resolves member.1 own.1.toList ∧ own.2 = member.2)
    {name : String} (resolves : Resolves member.1 name.toList) : own = (name, member.2) :=
  Prod.ext (name_once same.1 resolves) same.2

theorem with_name_sublist {name : String} {some members : List (List Mark × Draft)} {named : List (String × Draft)}
    (among : some.Sublist members) (resolve : ∀ member ∈ some, Resolves member.1 name.toList) (whole : Named members named) :
    (some.map fun member => (name, member.2)).Sublist (withName name named) := by
  obtain ⟨own, kept, same⟩ := named_sublist among named whole
  have listed : own = some.map fun member => (name, member.2) := by
    clear among kept
    induction same with
    | nil => rfl
    | cons here _ ih =>
      obtain ⟨first, others⟩ := List.forall_mem_cons.mp resolve
      rw [List.map_cons, named_as here first, ih others]
  have all : withName name own = own := by
    rw [withName, List.filter_eq_self, listed, List.forall_mem_map]
    exact fun _ _ => decide_eq_true rfl
  rw [← listed, ← all]
  exact kept.filter _

theorem reads_single {β : Type} (depth : Nat) (fields : Fields β) (named : List (String × Draft)) (parts : β)
    (reads : fields.Reads? depth named parts) (name : String) (own : name ∈ fields.names) :
    (withName name named).length ≤ 1 := by
  match β, fields, parts with
  | _, .done, _ => cases own
  | _, .field first shape absence rest, (value, others) =>
    obtain ⟨present, onward⟩ := reads
    rcases List.mem_cons.mp own with rfl | later
    · rcases present with ⟨draft, single, _⟩ | ⟨absent, _⟩
      · exact single ▸ Nat.le_refl 1
      · exact absent ▸ Nat.zero_le 1
    · exact reads_single depth rest named others onward name later

theorem reads_required {β : Type} (depth : Nat) (fields : Fields β) (named : List (String × Draft)) (parts : β)
    (reads : fields.Reads? depth named parts) (name : String) (required : name ∈ fields.required) :
    ∃ draft, (name, draft) ∈ named := by
  have among : ∀ draft, withName name named = [(name, draft)] → (name, draft) ∈ named :=
    fun draft single => (List.mem_filter.mp (single ▸ List.mem_singleton_self _)).1
  match β, fields, parts with
  | _, .done, _ => cases required
  | _, .field first shape .refused rest, (value, others) =>
    obtain ⟨present, onward⟩ := reads
    rcases List.mem_cons.mp required with rfl | later
    · rcases present with ⟨draft, single, _⟩ | ⟨_, missing⟩
      · exact ⟨draft, among draft single⟩
      · cases missing
    · exact reads_required depth rest named others onward name later
  | _, .field first shape (.unset _) rest, (value, others) =>
    exact reads_required depth rest named others reads.2 name required
  | _, .field first shape (.default _) rest, (value, others) =>
    exact reads_required depth rest named others reads.2 name required

mutual
theorem read_flawless {α : Type} (shape : Shape α) (lawful : shape.Lawful) (depth : Nat) (draft : Draft) (value : α)
    (read : shape.read depth draft = some value) : ¬ shape.Flawed draft := by
  match α, shape with
  | _, .text => exact id
  | _, .path => exact id
  | _, .boolean => exact id
  | _, .word _ => exact id
  | _, .members => exact id
  | _, .optional inner =>
    by_cases null : draft = .null
    · rw [null]
      exact flawed_not_null inner
    · rw [read_optional_some depth inner draft null] at read
      obtain ⟨own, innerRead, _⟩ := Option.map_eq_some_iff.mp read
      exact read_flawless inner lawful.1 depth draft own innerRead
  | _, .list item =>
    rintro ⟨items, rfl, one, present, flawed⟩
    rw [Shape.read, inside_some, map_items_iff] at read
    obtain ⟨own, _, oneRead⟩ := each_related read.2 one present
    exact read_flawless item lawful (depth - 1) one own oneRead flawed
  | _, .record name fields build parts =>
    obtain ⟨unique, fieldsLawful, _⟩ := lawful
    rintro (⟨members, rfl, flaw⟩ | ⟨items, rfl, flawed⟩)
    · obtain ⟨_, named, own, whole, reads, _⟩ := (read_object_iff depth name fields unique build parts members value).mp read
      rcases flaw with ⟨field, known, first, second, among, resolvesFirst, resolvesSecond⟩ | ⟨field, required, lacks⟩ | flawed
      · have both := with_name_sublist among
          (List.forall_mem_cons.mpr ⟨resolvesFirst, List.forall_mem_singleton.mpr resolvesSecond⟩) whole
        exact Nat.not_succ_le_self 1 (Nat.le_trans both.length_le (reads_single _ fields named own reads field known))
      · obtain ⟨inner, present⟩ := reads_required _ fields named own reads field required
        obtain ⟨member, among, resolves, _⟩ := each_related whole.flip (field, inner) present
        exact lacks member among resolves
      · exact reads_flawless fields fieldsLawful (depth - 1) members named own whole reads flawed
    · obtain ⟨_, own, itemsRead, _⟩ := (read_list_iff depth name fields build parts items value).mp read
      exact items_flawless fields fieldsLawful (depth - 1) items own itemsRead flawed

theorem reads_flawless {β : Type} (fields : Fields β) (lawful : fields.Lawful) (depth : Nat)
    (members : List (List Mark × Draft)) (named : List (String × Draft)) (parts : β) (whole : Named members named)
    (reads : fields.Reads? depth named parts) : ¬ fields.FlawedMember members := by
  match β, fields, parts with
  | _, .done, _ => exact id
  | _, .field name shape absence rest, (first, others) =>
    obtain ⟨present, onward⟩ := reads
    rintro (⟨member, among, resolves, flawed⟩ | later)
    · have own := with_name_sublist (List.singleton_sublist.mpr among) (List.forall_mem_singleton.mpr resolves) whole
      rcases present with ⟨draft, single, read⟩ | ⟨absent, _⟩
      · rw [single] at own
        obtain ⟨_, rfl⟩ := Prod.mk.inj (List.mem_singleton.mp (List.singleton_sublist.mp own))
        exact read_flawless shape lawful.1 depth member.2 first read flawed
      · rw [absent] at own
        exact absurd own.length_le (Nat.not_succ_le_zero 0)
    · exact reads_flawless rest lawful.2 depth members named others whole onward later

theorem items_flawless {β : Type} (fields : Fields β) (lawful : fields.Lawful) (depth : Nat) (items : List Draft) (parts : β)
    (read : fields.readItems depth items = some parts) : ¬ fields.FlawedItem items := by
  match β, fields with
  | _, .done => exact id
  | _, .field name shape absence rest =>
    rintro ⟨item, later, rfl, flawed⟩
    obtain ⟨here, onward⟩ := (items_cons_iff depth name shape absence rest item later parts).mp read
    rcases flawed with flawed | flawed
    · exact read_flawless shape lawful.1 depth item parts.1 here flawed
    · exact items_flawless rest lawful.2 depth later parts.2 onward flawed
end

theorem decode_flawed (shape : Shape α) (lawful : shape.Lawful) {draft : Draft} {text : String}
    (writes : draft.Writes text.toList) (flawed : shape.Flawed draft) : ∃ refusal, shape.decode text = .error refusal := by
  cases decoded : shape.decode text with
  | error refusal => exact ⟨refusal, rfl⟩
  | ok value =>
    have read := decode_written shape writes
    rw [decoded] at read
    exact absurd flawed (read_flawless shape lawful depthLimit draft value read.symm)

end NodeProbe.Json
