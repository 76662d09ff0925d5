import NodeProbe.Proofs.Json.Codec
import NodeProbe.Proofs.Json.Printed

set_option autoImplicit false

namespace NodeProbe.Json

variable {α β : Type}

mutual
def Shape.Presents (depth : Nat) : {α : Type} → Shape α → α → Draft → Prop
  | _, .text, value, draft => ∃ marks, draft = .text marks ∧ Resolves marks value.toList
  | _, .path, value, draft => ∃ marks, draft = .text marks ∧ Resolves marks value.toList
  | _, .boolean, value, draft => draft = .boolean value
  | _, .word kind, word, draft => ∃ numeral, draft = .number numeral ∧ numeral.Spells (kind.toInteger word).value
  | _, .optional _, none, draft => draft = .null
  | _, .optional inner, some value, draft => inner.Presents depth value draft
  | _, .list item, values, draft =>
    0 < depth ∧ ∃ items, draft = .list items ∧ List.Forall₂ (fun one value => item.Presents (depth - 1) value one) items values
  | _, .members, members, draft => draft.depth ≤ depth ∧ draft.Denotes (.object members)
  | _, .record _ fields _ parts, value, draft =>
    0 < depth ∧ ∃ members named own others, draft = .object members ∧ Named members named ∧ named.Perm (own ++ others) ∧
      fields.Presents (depth - 1) (parts value) own ∧ ∀ other ∈ others, other.1 ∉ fields.names

-- The members in declared order, without some of those that a value is known for without them.
def Fields.Presents (depth : Nat) : {β : Type} → Fields β → β → List (String × Draft) → Prop
  | _, .done, _, own => own = []
  | _, .field name shape absence rest, (first, others), own =>
    (∃ draft later, own = (name, draft) :: later ∧ shape.Presents depth first draft ∧ rest.Presents depth others later) ∨
      absence.value? = some first ∧ rest.Presents depth others own
end

/-! Presented values are read -/

theorem presents_null {α : Type} (shape : Shape α) (depth : Nat) (value : α) (presents : shape.Presents depth value .null) :
    shape.encode value = .null := by
  match α, shape, value with
  | _, .text, _ =>
    obtain ⟨_, same, _⟩ := presents
    cases same
  | _, .path, _ =>
    obtain ⟨_, same, _⟩ := presents
    cases same
  | _, .boolean, _ => cases presents
  | _, .word _, _ =>
    obtain ⟨_, same, _⟩ := presents
    cases same
  | _, .optional _, none => rfl
  | _, .optional inner, some value => exact presents_null inner depth value presents
  | _, .list _, _ =>
    obtain ⟨_, _, same, _⟩ := presents
    cases same
  | _, .members, _ =>
    obtain ⟨_, denotes⟩ := presents
    cases denotes
  | _, .record _ _ _ _, _ =>
    obtain ⟨_, _, _, _, _, same, _⟩ := presents
    cases same

theorem read_optional_some (depth : Nat) (inner : Shape α) (draft : Draft) (notNull : draft ≠ .null) :
    (Shape.optional inner).read depth draft = (inner.read depth draft).map some := by
  cases draft with
  | null => exact absurd rfl notNull
  | _ => rfl

theorem read_object_some (depth : Nat) (draft : Draft) (members : Members) (read : draft.read depth = .ok (.object members)) :
    ∃ own, draft = .object own := by
  cases draft with
  | null => cases read
  | boolean truth => cases read
  | number numeral =>
    obtain ⟨_, _, same⟩ := except_map_ok (by rwa [Draft.read] at read)
    cases same
  | text marks =>
    obtain ⟨_, _, same⟩ := except_map_ok (by rwa [Draft.read] at read)
    cases same
  | list items =>
    cases depth with
    | zero => cases read
    | succ depth =>
      obtain ⟨_, _, same⟩ := except_map_ok (by rwa [Draft.read] at read)
      cases same
  | object own => exact ⟨own, rfl⟩

theorem read_members_iff (depth : Nat) (draft : Draft) (members : Members) :
    Shape.members.read depth draft = some members ↔ draft.read depth = .ok (.object members) := by
  cases draft with
  | object own =>
    rw [Shape.read, inside_some, to_option_some]
    cases depth with
    | zero =>
      refine iff_of_false (fun both => Nat.lt_irrefl 0 both.1) ?_
      intro read
      cases read
    | succ depth =>
      rw [Draft.read, Nat.add_sub_cancel, and_iff_right (Nat.succ_pos depth)]
      constructor
      · intro read
        rw [read]
        rfl
      · intro read
        obtain ⟨inner, here, same⟩ := except_map_ok read
        rw [here, Value.object.inj same]
  | _ =>
    constructor
    · intro same
      cases same
    · intro read
      obtain ⟨_, same⟩ := read_object_some depth _ members read
      cases same

theorem presents_known (depth : Nat) {β : Type} (fields : Fields β) (parts : β) (own : List (String × Draft))
    (presents : fields.Presents depth parts own) : ∀ member ∈ own, member.1 ∈ fields.names := by
  match β, fields, parts with
  | _, .done, _ =>
    have none : own = [] := presents
    rw [none]
    exact nofun
  | _, .field name shape absence rest, (first, others) =>
    rcases presents with ⟨draft, later, rfl, _, onward⟩ | ⟨_, onward⟩
    · refine List.forall_mem_cons.mpr ⟨List.mem_cons_self, fun member present => ?_⟩
      exact List.mem_cons_of_mem name (presents_known depth rest others later onward member present)
    · exact fun member present => List.mem_cons_of_mem name (presents_known depth rest others own onward member present)

theorem with_name_unknown {name : String} {named : List (String × Draft)} (unknown : ∀ member ∈ named, member.1 ≠ name) :
    withName name named = [] :=
  List.filter_eq_nil_iff.mpr fun member present same => unknown member present (of_decide_eq_true same)

theorem reads_same (depth : Nat) {β : Type} (fields : Fields β) (first second : List (String × Draft)) (parts : β)
    (same : ∀ name ∈ fields.names, (withName name first).Perm (withName name second))
    (reads : fields.Reads? depth first parts) : fields.Reads? depth second parts := by
  match β, fields, parts with
  | _, .done, _ => trivial
  | _, .field name shape absence rest, (value, others) =>
    obtain ⟨present, onward⟩ := reads
    have here := same name List.mem_cons_self
    have sameRest : ∀ other ∈ rest.names, (withName other first).Perm (withName other second) :=
      fun other later => same other (List.mem_cons_of_mem name later)
    refine ⟨?_, reads_same depth rest first second others sameRest onward⟩
    rcases present with ⟨draft, single, read⟩ | ⟨absent, missing⟩
    · rw [single] at here
      exact .inl ⟨draft, List.perm_singleton.mp here.symm, read⟩
    · rw [absent] at here
      exact .inr ⟨List.nil_perm.mp here, missing⟩

theorem with_name_shuffle {name : String} {named own others : List (String × Draft)} (shuffled : named.Perm (own ++ others))
    (unknown : ∀ other ∈ others, other.1 ≠ name) : (withName name own).Perm (withName name named) := by
  have kept : (withName name named).Perm (withName name (own ++ others)) := shuffled.filter _
  have behind : withName name (own ++ others) = withName name own := by
    rw [withName, List.filter_append]
    exact (congrArg (withName name own ++ ·) (with_name_unknown unknown)).trans (List.append_nil _)
  rw [behind] at kept
  exact kept.symm

mutual
theorem presents_read {α : Type} (shape : Shape α) (lawful : shape.Lawful) (depth : Nat) (value : α) (draft : Draft)
    (presents : shape.Presents depth value draft) : shape.read depth draft = some value := by
  match α, shape, value with
  | _, .text, value => exact (scalar_text_iff draft value).mpr presents
  | _, .path, value => exact (scalar_text_iff draft value).mpr presents
  | _, .boolean, value => exact (scalar_boolean_iff draft value).mpr presents
  | _, .word kind, word => exact (scalar_word_iff kind draft word).mpr presents
  | _, .optional _, none =>
    obtain rfl : draft = .null := presents
    rfl
  | _, .optional inner, some value =>
    have notNull : draft ≠ .null := by
      rintro rfl
      exact lawful.2 value (presents_null inner depth value presents)
    rw [read_optional_some depth inner draft notNull, presents_read inner lawful.1 depth value draft presents]
    rfl
  | _, .list item, values =>
    obtain ⟨room, items, rfl, each⟩ := presents
    rw [Shape.read, inside_some, map_items_iff]
    refine ⟨room, each.imp ?_⟩
    exact fun one value presented => presents_read item lawful (depth - 1) value one presented
  | _, .members, members =>
    obtain ⟨shallow, denotes⟩ := presents
    exact (read_members_iff depth draft members).mpr (denotes_read denotes depth shallow)
  | _, .record name fields build parts, value =>
    obtain ⟨unique, fieldsLawful, rebuilt⟩ := lawful
    obtain ⟨room, members, named, own, others, rfl, whole, shuffled, presented, unknown⟩ := presents
    refine (read_object_iff depth name fields unique build parts members value).mpr
      ⟨room, named, parts value, whole, ?_, rebuilt value⟩
    refine reads_same (depth - 1) fields own named (parts value) ?_
      (presents_reads fields fieldsLawful unique (depth - 1) (parts value) own presented)
    exact fun field present => with_name_shuffle shuffled fun other among same => unknown other among (same ▸ present)

theorem presents_reads {β : Type} (fields : Fields β) (lawful : fields.Lawful) (unique : fields.names.Nodup) (depth : Nat)
    (parts : β) (own : List (String × Draft)) (presents : fields.Presents depth parts own) :
    fields.Reads? depth own parts := by
  match β, fields, parts with
  | _, .done, _ => trivial
  | _, .field name shape absence rest, (first, others) =>
    obtain ⟨notLater, uniqueRest⟩ := List.nodup_cons.mp unique
    have apart : ∀ later, rest.Presents depth others later → ∀ member ∈ later, member.1 ≠ name :=
      fun later onward member present same => notLater (same ▸ presents_known depth rest others later onward member present)
    rcases presents with ⟨draft, later, rfl, presented, onward⟩ | ⟨missing, onward⟩
    · refine ⟨.inl ⟨draft, ?_, presents_read shape lawful.1 depth first draft presented⟩, ?_⟩
      · rw [with_name_cons, if_pos rfl, with_name_unknown (apart later onward)]
      · refine reads_same depth rest later _ others ?_ (presents_reads rest lawful.2 uniqueRest depth others later onward)
        intro other present
        have different : ¬ name = other := fun same => notLater (same ▸ present)
        rw [with_name_cons, if_neg different]
    · exact ⟨.inr ⟨with_name_unknown (apart own onward), missing⟩,
        presents_reads rest lawful.2 uniqueRest depth others own onward⟩
end

/-! A value as it is written is one of its presentations -/

theorem states_denotes {draft : Draft} {document : Value} (states : draft.States document) (canonical : document.Canonical)
    (exact : document.Exact) : draft.Denotes document := by
  induction states with
  | null => exact .null
  | boolean truth => exact .boolean truth
  | @integer numeral value spells =>
    obtain ⟨noFraction, noExponent, unsigned, same⟩ := spells
    exact .integer numeral value ⟨noFraction, noExponent, unsigned, same ▸ value.lower, same ▸ value.upper⟩ same.symm
  | float => exact exact.elim
  | text resolves =>
    have denotes := Draft.Denotes.text resolves
    rwa [String.ofList_toList] at denotes
  | @list entries each ih =>
    have inner := List.forall_mem_map.mp ((everywhere_list _ _).mp canonical).2
    have exactInner := List.forall_mem_map.mp ((everywhere_list _ _).mp exact).2
    exact .list fun entry present => ih entry present (inner entry present) (exactInner entry present)
  | @object entries names each ih =>
    obtain ⟨ascending, others⟩ := (everywhere_object _ _).mp canonical
    have inner := List.forall_mem_map.mp others
    have exactInner := List.forall_mem_map.mp ((everywhere_object _ _).mp exact).2
    refine .object names (fun entry present => ih entry present (inner entry present) (exactInner entry present)) ascending ?_
    intro name value
    rw [← of_list_mem_iff, of_list_of_ascending _ ascending]

theorem states_depth {draft : Draft} {document : Value} (states : draft.States document) (bound : Nat)
    (shallow : document.depth ≤ bound) : draft.depth ≤ bound := by
  induction states generalizing bound with
  | list each ih =>
    obtain ⟨room, items⟩ := (list_depth_within _ bound).mp shallow
    have inner := List.forall_mem_map.mp items
    refine (draft_list_depth_within _ bound).mpr ⟨room, List.forall_mem_map.mpr fun entry present => ?_⟩
    exact ih entry present (bound - 1) (inner entry present)
  | object names each ih =>
    obtain ⟨room, members⟩ := (object_depth_within _ bound).mp shallow
    have inner := List.forall_mem_map.mp members
    refine (draft_object_depth_within _ bound).mpr ⟨room, List.forall_mem_map.mpr fun entry present => ?_⟩
    exact ih entry present (bound - 1) (inner entry present)
  | _ => exact Nat.zero_le bound

theorem states_list {draft : Draft} {items : List Value} (states : draft.States (.list items)) :
    ∃ drafts, draft = .list drafts ∧ List.Forall₂ Draft.States drafts items := by
  cases states with
  | @list entries each =>
    exact ⟨_, rfl, mapped_related each⟩

theorem states_object {draft : Draft} {members : Members} (states : draft.States (.object members)) :
    ∃ drafts named, draft = .object drafts ∧ Named drafts named ∧
      List.Forall₂ (fun own member => own.1 = member.1 ∧ own.2.States member.2) named members := by
  cases states with
  | @object entries names each =>
    refine ⟨_, entries.map fun entry => (entry.name, entry.draft), rfl, ?_, ?_⟩
    · exact mapped_related fun entry present => ⟨names entry present, rfl⟩
    · exact mapped_related fun entry present => ⟨rfl, each entry present⟩

theorem each_related {related : α → β → Prop} {firsts : List α} {seconds : List β}
    (pairs : List.Forall₂ related firsts seconds) : ∀ first ∈ firsts, ∃ second ∈ seconds, related first second := by
  induction pairs with
  | nil => exact nofun
  | cons here _ ih =>
    refine List.forall_mem_cons.mpr ⟨⟨_, List.mem_cons_self, here⟩, fun first later => ?_⟩
    obtain ⟨second, among, same⟩ := ih first later
    exact ⟨second, List.mem_cons_of_mem _ among, same⟩

theorem related_imp {related other : α → β → Prop} {firsts : List α} {seconds : List β}
    (pairs : List.Forall₂ related firsts seconds)
    (imp : ∀ second ∈ seconds, ∀ first, related first second → other first second) : List.Forall₂ other firsts seconds := by
  induction pairs with
  | nil => exact .nil
  | cons here _ ih =>
    obtain ⟨first, later⟩ := List.forall_mem_cons.mp imp
    exact .cons (first _ here) (ih later)

structure Arranges (order : Value → Value) : Prop where
  scalar : ∀ document, document.depth = 0 → order document = document
  list : ∀ items, order (.list items) = .list (items.map order)
  object : ∀ members : Members, (members.map Prod.fst).Nodup → ∃ arranged : Members,
    order (.object members) = .object arranged ∧ arranged.Perm (members.map fun member => (member.1, order member.2))
  canonical : ∀ document : Value, document.Canonical → order document = document

theorem arranges_declared : Arranges id where
  scalar := fun _ _ => rfl
  list := fun items => congrArg Value.list (List.map_id items).symm
  object := by
    intro members _
    have unchanged : (members.map fun member => (member.1, id member.2)) = members := List.map_id members
    refine ⟨members, rfl, ?_⟩
    rw [unchanged]
  canonical := fun _ _ => rfl

theorem arranges_sorted : Arranges Value.sorted where
  scalar := by
    intro document flat
    cases document with
    | list => cases flat
    | object => cases flat
    | _ => rfl
  list := sorted_list
  object := by
    intro members once
    refine ⟨_, sorted_object members, of_list_perm _ ?_⟩
    rw [List.map_map]
    exact once
  canonical := sorted_of_canonical

section Arranged

variable {order : Value → Value}

theorem scalar_states (arranges : Arranges order) {draft : Draft} {document : Value} (flat : document.depth = 0)
    (states : draft.States (order document)) : draft.States document := by
  rwa [arranges.scalar document flat] at states

mutual
theorem stated_presents (arranges : Arranges order) {α : Type} (shape : Shape α) (lawful : shape.Lawful) (depth : Nat)
    (value : α) (draft : Draft) (canonical : shape.Open Value.Canonical value)
    (exact : shape.Open Value.Exact value) (shallow : (shape.encode value).depth ≤ depth)
    (states : draft.States (order (shape.encode value))) : shape.Presents depth value draft := by
  match α, shape, value with
  | _, .text, _ =>
    cases scalar_states arranges rfl states with
    | text resolves => exact ⟨_, rfl, resolves⟩
  | _, .path, _ =>
    cases scalar_states arranges rfl states with
    | text resolves => exact ⟨_, rfl, resolves⟩
  | _, .boolean, _ =>
    cases scalar_states arranges rfl states
    rfl
  | _, .word _, _ =>
    cases scalar_states arranges rfl states with
    | integer spells => exact ⟨_, rfl, spells⟩
  | _, .optional _, none =>
    cases scalar_states arranges rfl states
    rfl
  | _, .optional inner, some value =>
    exact stated_presents arranges inner lawful.1 depth value draft canonical exact shallow states
  | _, .members, members =>
    have unchanged := arranges.canonical (.object members) canonical
    rw [Shape.encode, unchanged] at states
    exact ⟨states_depth states depth shallow, states_denotes states canonical exact⟩
  | _, .list item, values =>
    rw [Shape.encode, arranges.list] at states
    obtain ⟨drafts, rfl, each⟩ := states_list states
    rw [Shape.encode] at shallow
    obtain ⟨room, inner⟩ := (list_depth_within _ depth).mp shallow
    have items := List.forall_mem_map.mp inner
    rw [List.forall₂_map_right_iff, List.forall₂_map_right_iff] at each
    refine ⟨room, drafts, rfl, related_imp each fun one present own states => ?_⟩
    exact stated_presents arranges item lawful (depth - 1) one own (canonical one present) (exact one present)
      (items one present) states
  | _, .record _ fields _ parts, value =>
    obtain ⟨unique, fieldsLawful, _⟩ := lawful
    have once := encode_names fields (parts value) ▸ unique
    obtain ⟨arranged, same, perm⟩ := arranges.object (fields.encode (parts value)) once
    rw [Shape.encode, same] at states
    obtain ⟨drafts, named, rfl, whole, each⟩ := states_object states
    rw [Shape.encode] at shallow
    obtain ⟨room, members⟩ := (object_depth_within _ depth).mp shallow
    obtain ⟨own, declared, moved⟩ := List.perm_comp_forall₂ perm.symm each.flip
    refine ⟨room, drafts, named, own, [], rfl, whole, ?_, ?_, nofun⟩
    · rw [List.append_nil]
      exact moved.symm
    · exact stated_fields arranges fields fieldsLawful (depth - 1) (parts value) own canonical exact members declared.flip

theorem stated_fields (arranges : Arranges order) {β : Type} (fields : Fields β) (lawful : fields.Lawful) (depth : Nat)
    (parts : β) (named : List (String × Draft)) (canonical : fields.Open Value.Canonical parts)
    (exact : fields.Open Value.Exact parts) (shallow : ∀ member ∈ fields.encode parts, member.2.depth ≤ depth)
    (states : List.Forall₂ (fun own member => own.1 = member.1 ∧ own.2.States member.2) named
      ((fields.encode parts).map fun member => (member.1, order member.2))) : fields.Presents depth parts named := by
  match β, fields, parts with
  | _, .done, _ =>
    cases states
    rfl
  | _, .field name shape absence rest, (first, others) =>
    rw [Fields.encode] at states shallow
    obtain ⟨firstShallow, restShallow⟩ := List.forall_mem_cons.mp shallow
    cases states with
    | @cons own _ later _ here onward =>
      obtain ⟨key, draft⟩ := own
      obtain ⟨rfl, stated⟩ := here
      have presented := stated_presents arranges shape lawful.1 depth first draft canonical.1 exact.1 firstShallow stated
      exact .inl ⟨draft, later, rfl, presented,
        stated_fields arranges rest lawful.2 depth others later canonical.2 exact.2 restShallow onward⟩
end

theorem compact_presents (arranges : Arranges order) (shape : Shape α) (lawful : shape.Lawful) (value : α)
    (canonical : shape.Open Value.Canonical value) (exact : shape.Open Value.Exact value)
    (shallow : (shape.encode value).depth ≤ depthLimit) :
    ∃ draft : Draft, draft.Writes (order (shape.encode value)).compact.toList ∧ shape.Presents depthLimit value draft := by
  obtain ⟨draft, states, written⟩ := compact_printed (order (shape.encode value))
  refine ⟨draft, ⟨[], _, [], gap_nil, gap_nil, written, ?_⟩,
    stated_presents arranges shape lawful _ value draft canonical exact shallow states⟩
  rw [Value.compact, String.toList_ofList, List.nil_append, List.append_nil]

end Arranged

theorem decode_presented (shape : Shape α) (lawful : shape.Lawful) {draft : Draft} {text : String}
    (writes : draft.Writes text.toList) (value : α) (presents : shape.Presents depthLimit value draft) :
    shape.decode text = .ok value :=
  (decode_ok_iff shape text value).mpr ⟨draft, writes, presents_read shape lawful depthLimit value draft presents⟩

end NodeProbe.Json
