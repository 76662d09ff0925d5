import NodeProbe.Json.Value

set_option autoImplicit false

namespace NodeProbe.Json

theorem value_induction {holds : Value → Prop} (null : holds .null)
    (boolean : ∀ value, holds (.boolean value)) (number : ∀ value, holds (.number value))
    (text : ∀ value, holds (.text value))
    (list : ∀ items, (∀ item ∈ items, holds item) → holds (.list items))
    (object : ∀ members, (∀ member ∈ members, holds member.2) → holds (.object members))
    (value : Value) : holds value := by
  refine @Value.rec holds (fun items => ∀ item ∈ items, holds item)
    (fun members => ∀ member ∈ members, holds member.2) (fun member => holds member.2)
    null boolean number text list object ?_ ?_ ?_ ?_ ?_ value
  · exact nofun
  · intro item rest first others each member
    rcases List.mem_cons.mp member with atHead | later
    · exact atHead ▸ first
    · exact others each later
  · exact nofun
  · intro member rest first others each present
    rcases List.mem_cons.mp present with atHead | later
    · exact atHead ▸ first
    · exact others each later
  · exact fun _ _ inner => inner

mutual
def Value.depth : Value → Nat
  | .list items => depthItems items + 1
  | .object members => depthMembers members + 1
  | _ => 0

def depthItems : List Value → Nat
  | [] => 0
  | item :: rest => max item.depth (depthItems rest)

def depthMembers : List (String × Value) → Nat
  | [] => 0
  | (_, value) :: rest => max value.depth (depthMembers rest)
end

mutual
def Value.Everywhere (holds : Value → Prop) : Value → Prop
  | .list items => holds (.list items) ∧ EverywhereItems holds items
  | .object members => holds (.object members) ∧ EverywhereMembers holds members
  | scalar => holds scalar

def EverywhereItems (holds : Value → Prop) : List Value → Prop
  | [] => True
  | item :: rest => item.Everywhere holds ∧ EverywhereItems holds rest

def EverywhereMembers (holds : Value → Prop) : List (String × Value) → Prop
  | [] => True
  | (_, value) :: rest => value.Everywhere holds ∧ EverywhereMembers holds rest
end

def Ascending (members : Members) : Prop := members.Pairwise fun first second => first.1 < second.1

def Value.Ordered : Value → Prop
  | .object members => Ascending members
  | _ => True

-- Every object has its names in ascending order, so that none occurs twice.
def Value.Canonical (value : Value) : Prop := value.Everywhere Value.Ordered

def Value.NamesOnce : Value → Prop
  | .object members => (members.map Prod.fst).Nodup
  | _ => True

def Value.Distinct (value : Value) : Prop := value.Everywhere Value.NamesOnce

def Value.NotFloat : Value → Prop
  | .number (.float _) => False
  | _ => True

def Value.Exact (value : Value) : Prop := value.Everywhere Value.NotFloat

theorem depth_items_le (items : List Value) (bound : Nat) :
    depthItems items ≤ bound ↔ ∀ item ∈ items, item.depth ≤ bound := by
  induction items with
  | nil => simp [depthItems]
  | cons item rest ih => simp only [depthItems, Nat.max_le, ih, List.forall_mem_cons]

theorem depth_members_le (members : List (String × Value)) (bound : Nat) :
    depthMembers members ≤ bound ↔ ∀ member ∈ members, member.2.depth ≤ bound := by
  induction members with
  | nil => simp [depthMembers]
  | cons member rest ih =>
    obtain ⟨name, value⟩ := member
    simp only [depthMembers, Nat.max_le, ih, List.forall_mem_cons]

theorem list_depth_within (items : List Value) (bound : Nat) :
    (Value.list items).depth ≤ bound ↔ 0 < bound ∧ ∀ item ∈ items, item.depth ≤ bound - 1 := by
  rw [Value.depth, ← depth_items_le]
  omega

theorem object_depth_within (members : Members) (bound : Nat) :
    (Value.object members).depth ≤ bound ↔ 0 < bound ∧ ∀ member ∈ members, member.2.depth ≤ bound - 1 := by
  rw [Value.depth, ← depth_members_le]
  omega

theorem object_depth_le (members : Members) (bound : Nat) :
    (Value.object members).depth ≤ bound + 1 ↔ ∀ member ∈ members, member.2.depth ≤ bound :=
  (object_depth_within members (bound + 1)).trans (and_iff_right (Nat.succ_pos bound))

theorem everywhere_items_iff (holds : Value → Prop) (items : List Value) :
    EverywhereItems holds items ↔ ∀ item ∈ items, item.Everywhere holds := by
  induction items with
  | nil => simp [EverywhereItems]
  | cons item rest ih => simp only [EverywhereItems, ih, List.forall_mem_cons]

theorem everywhere_members_iff (holds : Value → Prop) (members : List (String × Value)) :
    EverywhereMembers holds members ↔ ∀ member ∈ members, member.2.Everywhere holds := by
  induction members with
  | nil => simp [EverywhereMembers]
  | cons member rest ih =>
    obtain ⟨name, value⟩ := member
    simp only [EverywhereMembers, ih, List.forall_mem_cons]

theorem everywhere_list (holds : Value → Prop) (items : List Value) :
    (Value.list items).Everywhere holds ↔ holds (.list items) ∧ ∀ item ∈ items, item.Everywhere holds := by
  rw [Value.Everywhere, everywhere_items_iff]

theorem everywhere_object (holds : Value → Prop) (members : Members) :
    (Value.object members).Everywhere holds ↔
      holds (.object members) ∧ ∀ member ∈ members, member.2.Everywhere holds := by
  rw [Value.Everywhere, everywhere_members_iff]

theorem everywhere_mono {holds weaker : Value → Prop} (value : Value) (weaken : ∀ value, holds value → weaker value)
    (everywhere : value.Everywhere holds) : value.Everywhere weaker := by
  induction value using value_induction with
  | null => exact weaken _ everywhere
  | boolean => exact weaken _ everywhere
  | number => exact weaken _ everywhere
  | text => exact weaken _ everywhere
  | list items ih =>
    obtain ⟨here, inner⟩ := (everywhere_list holds items).mp everywhere
    exact (everywhere_list weaker items).mpr ⟨weaken _ here, fun item present => ih item present (inner item present)⟩
  | object members ih =>
    obtain ⟨here, inner⟩ := (everywhere_object holds members).mp everywhere
    exact (everywhere_object weaker members).mpr
      ⟨weaken _ here, fun member present => ih member present (inner member present)⟩

theorem ascending_names_once (members : Members) (ascending : Ascending members) : (members.map Prod.fst).Nodup := by
  refine List.pairwise_map.mpr (ascending.imp ?_)
  intro first second below same
  rw [same] at below
  exact String.lt_irrefl _ below

theorem canonical_distinct (value : Value) (canonical : value.Canonical) : value.Distinct := by
  refine everywhere_mono value ?_ canonical
  intro inner ordered
  cases inner with
  | object members => exact ascending_names_once members ordered
  | null => trivial
  | boolean => trivial
  | number => trivial
  | text => trivial
  | list => trivial

theorem sorted_items_map (items : List Value) : sortedItems items = items.map Value.sorted := by
  induction items with
  | nil => rfl
  | cons item rest ih => rw [sortedItems, ih, List.map_cons]

theorem sorted_members_map (members : List (String × Value)) :
    sortedMembers members = members.map fun member => (member.1, member.2.sorted) := by
  induction members with
  | nil => rfl
  | cons member rest ih =>
    obtain ⟨name, value⟩ := member
    rw [sortedMembers, ih, List.map_cons]

theorem insert_subset (name : String) (value : Value) (members : Members) :
    ∀ member ∈ Members.insert name value members, member = (name, value) ∨ member ∈ members := by
  induction members with
  | nil => simp [Members.insert]
  | cons first rest ih =>
    intro member present
    rw [Members.insert] at present
    split at present
    · exact List.mem_cons.mp present
    · split at present
      · rcases List.mem_cons.mp present with atHead | later
        · exact Or.inr (List.mem_cons.mpr (Or.inl atHead))
        · exact (ih member later).imp_right (List.mem_cons_of_mem first)
      · exact (List.mem_cons.mp present).imp_right (List.mem_cons_of_mem first)

theorem insert_ascending (name : String) (value : Value) (members : Members) (ascending : Ascending members) :
    Ascending (Members.insert name value members) := by
  induction members with
  | nil => exact List.pairwise_singleton _ _
  | cons first rest ih =>
    obtain ⟨below, others⟩ := List.pairwise_cons.mp ascending
    rw [Members.insert]
    by_cases before : name < first.1
    · rw [if_pos before]
      refine List.pairwise_cons.mpr ⟨?_, ascending⟩
      intro member present
      rcases List.mem_cons.mp present with atHead | later
      · exact atHead ▸ before
      · exact String.lt_trans before (below member later)
    · rw [if_neg before]
      by_cases after : first.1 < name
      · rw [if_pos after]
        refine List.pairwise_cons.mpr ⟨?_, ih others⟩
        intro member present
        rcases insert_subset name value rest member present with fresh | old
        · exact fresh ▸ after
        · exact below member old
      · rw [if_neg after]
        have same : name = first.1 := String.le_antisymm (String.not_lt.mp after) (String.not_lt.mp before)
        exact List.pairwise_cons.mpr ⟨same ▸ below, others⟩

theorem insert_fresh_perm (name : String) (value : Value) (members : Members)
    (fresh : name ∉ members.map Prod.fst) : (Members.insert name value members).Perm ((name, value) :: members) := by
  induction members with
  | nil => exact List.Perm.refl _
  | cons first rest ih =>
    obtain ⟨different, absent⟩ := not_or.mp (mt List.mem_cons.mpr fresh)
    rw [Members.insert]
    by_cases before : name < first.1
    · rw [if_pos before]
    · rw [if_neg before]
      by_cases after : first.1 < name
      · rw [if_pos after]
        exact ((ih absent).cons first).trans (List.Perm.swap _ _ _)
      · exact absurd (String.le_antisymm (String.not_lt.mp after) (String.not_lt.mp before)) different

theorem insert_last (name : String) (value : Value) (members : Members)
    (above : ∀ member ∈ members, member.1 < name) :
    Members.insert name value members = members ++ [(name, value)] := by
  induction members with
  | nil => rfl
  | cons first rest ih =>
    have after := above first List.mem_cons_self
    rw [Members.insert, if_neg (String.lt_asymm after), if_pos after, List.cons_append,
      ih fun member present => above member (List.mem_cons_of_mem first present)]

def insertAll (sorted members : Members) : Members :=
  members.foldl (fun sorted member => Members.insert member.1 member.2 sorted) sorted

theorem insert_all_subset (sorted members : Members) :
    ∀ member ∈ insertAll sorted members, member ∈ sorted ∨ member ∈ members := by
  induction members generalizing sorted with
  | nil => exact fun member present => Or.inl present
  | cons first rest ih =>
    intro member present
    rcases ih (Members.insert first.1 first.2 sorted) member present with inserted | later
    · rcases insert_subset _ _ _ member inserted with fresh | old
      · exact Or.inr (List.mem_cons.mpr (Or.inl fresh))
      · exact Or.inl old
    · exact Or.inr (List.mem_cons_of_mem first later)

theorem insert_all_ascending (sorted members : Members) (ascending : Ascending sorted) :
    Ascending (insertAll sorted members) := by
  induction members generalizing sorted with
  | nil => exact ascending
  | cons first rest ih => exact ih _ (insert_ascending first.1 first.2 sorted ascending)

theorem insert_all_perm (sorted members : Members) (distinct : ((sorted ++ members).map Prod.fst).Nodup) :
    (insertAll sorted members).Perm (sorted ++ members) := by
  induction members generalizing sorted with
  | nil => rw [List.append_nil]; exact List.Perm.refl _
  | cons first rest ih =>
    have moved : (sorted ++ first :: rest).Perm ((first :: sorted) ++ rest) := List.perm_middle
    have distinctMoved := (moved.map Prod.fst).nodup distinct
    have fresh : first.1 ∉ sorted.map Prod.fst := by
      intro present
      obtain ⟨member, old, named⟩ := List.mem_map.mp present
      exact (List.nodup_cons.mp distinctMoved).1
        (List.mem_map.mpr ⟨member, List.mem_append_left rest old, named⟩)
    have inserted : (Members.insert first.1 first.2 sorted).Perm (first :: sorted) :=
      insert_fresh_perm first.1 first.2 sorted fresh
    have distinctNext : ((Members.insert first.1 first.2 sorted ++ rest).map Prod.fst).Nodup :=
      ((inserted.append_right rest).map Prod.fst).symm.nodup distinctMoved
    exact (ih _ distinctNext).trans ((inserted.append_right rest).trans moved.symm)

theorem insert_all_of_ascending (sorted members : Members) (ascending : Ascending (sorted ++ members)) :
    insertAll sorted members = sorted ++ members := by
  induction members generalizing sorted with
  | nil => exact (List.append_nil sorted).symm
  | cons first rest ih =>
    have above : ∀ member ∈ sorted, member.1 < first.1 := fun member present =>
      (List.pairwise_append.mp ascending).2.2 member present first List.mem_cons_self
    have inserted := insert_last first.1 first.2 sorted above
    change insertAll (Members.insert first.1 first.2 sorted) rest = _
    rw [inserted, ih (sorted ++ [first]) (by simpa only [List.append_assoc, List.singleton_append] using ascending),
      List.append_assoc, List.singleton_append]

theorem of_list_subset (members : Members) : ∀ member ∈ Members.ofList members, member ∈ members := by
  intro member present
  exact (insert_all_subset [] members member present).resolve_left List.not_mem_nil

theorem of_list_ascending (members : Members) : Ascending (Members.ofList members) :=
  insert_all_ascending [] members List.Pairwise.nil

theorem of_list_perm (members : Members) (distinct : (members.map Prod.fst).Nodup) :
    (Members.ofList members).Perm members :=
  insert_all_perm [] members distinct

theorem of_list_of_ascending (members : Members) (ascending : Ascending members) :
    Members.ofList members = members :=
  insert_all_of_ascending [] members ascending

theorem sorted_list (items : List Value) : (Value.list items).sorted = .list (items.map Value.sorted) := by
  rw [Value.sorted, sorted_items_map]

theorem sorted_object (members : Members) :
    (Value.object members).sorted =
      .object (Members.ofList (members.map fun member => (member.1, member.2.sorted))) := by
  rw [Value.sorted, sorted_members_map]

theorem sorted_members_forall (holds : Value → Prop) (members : Members)
    (each : ∀ member ∈ members, holds member.2.sorted) :
    ∀ member ∈ Members.ofList (members.map fun member => (member.1, member.2.sorted)), holds member.2 := by
  intro member present
  obtain ⟨source, old, same⟩ := List.mem_map.mp (of_list_subset _ member present)
  exact same ▸ each source old

theorem sorted_canonical (value : Value) : value.sorted.Canonical := by
  induction value using value_induction with
  | null => trivial
  | boolean => trivial
  | number => trivial
  | text => trivial
  | list items ih =>
    rw [sorted_list, Value.Canonical, everywhere_list]
    exact ⟨trivial, List.forall_mem_map.mpr ih⟩
  | object members ih =>
    rw [sorted_object, Value.Canonical, everywhere_object]
    exact ⟨of_list_ascending _, sorted_members_forall _ members ih⟩

theorem sorted_of_canonical (value : Value) (canonical : value.Canonical) : value.sorted = value := by
  induction value using value_induction with
  | null => rfl
  | boolean => rfl
  | number => rfl
  | text => rfl
  | list items ih =>
    have inner := ((everywhere_list _ items).mp canonical).2
    rw [sorted_list, List.map_congr_left fun item present => ih item present (inner item present), List.map_id']
  | object members ih =>
    obtain ⟨ascending, inner⟩ := (everywhere_object _ members).mp canonical
    have same : members.map (fun member => (member.1, member.2.sorted)) = members := by
      conv => rhs; rw [← List.map_id members]
      exact List.map_congr_left fun member present => congrArg (Prod.mk member.1) (ih member present (inner member present))
    rw [sorted_object, same, of_list_of_ascending members ascending]

theorem depth_members_perm {first second : Members} (perm : first.Perm second) :
    depthMembers first = depthMembers second := by
  refine Nat.le_antisymm ?_ ?_
  · rw [depth_members_le]
    exact fun member present => (depth_members_le second _).mp (Nat.le_refl _) member (perm.mem_iff.mp present)
  · rw [depth_members_le]
    exact fun member present => (depth_members_le first _).mp (Nat.le_refl _) member (perm.mem_iff.mpr present)

theorem depth_items_map (items : List Value) (f : Value → Value)
    (each : ∀ item ∈ items, (f item).depth = item.depth) : depthItems (items.map f) = depthItems items := by
  induction items with
  | nil => rfl
  | cons item rest ih =>
    obtain ⟨first, others⟩ := List.forall_mem_cons.mp each
    rw [List.map_cons, depthItems, depthItems, first, ih others]

theorem depth_members_map (members : Members) (f : Value → Value)
    (each : ∀ member ∈ members, (f member.2).depth = member.2.depth) :
    depthMembers (members.map fun member => (member.1, f member.2)) = depthMembers members := by
  induction members with
  | nil => rfl
  | cons member rest ih =>
    obtain ⟨first, others⟩ := List.forall_mem_cons.mp each
    rw [List.map_cons, depthMembers, depthMembers, first, ih others]

theorem sorted_depth (value : Value) (distinct : value.Distinct) : value.sorted.depth = value.depth := by
  induction value using value_induction with
  | null => rfl
  | boolean => rfl
  | number => rfl
  | text => rfl
  | list items ih =>
    have inner := ((everywhere_list _ items).mp distinct).2
    rw [sorted_list, Value.depth, Value.depth,
      depth_items_map items Value.sorted fun item present => ih item present (inner item present)]
  | object members ih =>
    obtain ⟨once, inner⟩ := (everywhere_object _ members).mp distinct
    have named : (members.map fun member => (member.1, member.2.sorted)).map Prod.fst = members.map Prod.fst := by
      rw [List.map_map]
      rfl
    rw [sorted_object, Value.depth, Value.depth, depth_members_perm (of_list_perm _ (named ▸ once)),
      depth_members_map members Value.sorted fun member present => ih member present (inner member present)]

theorem sorted_exact (value : Value) (exact : value.Exact) : value.sorted.Exact := by
  induction value using value_induction with
  | null => exact exact
  | boolean => exact exact
  | number => exact exact
  | text => exact exact
  | list items ih =>
    have inner := ((everywhere_list _ items).mp exact).2
    rw [sorted_list, Value.Exact, everywhere_list]
    exact ⟨trivial, List.forall_mem_map.mpr fun item present => ih item present (inner item present)⟩
  | object members ih =>
    have inner := ((everywhere_object _ members).mp exact).2
    rw [sorted_object, Value.Exact, everywhere_object]
    exact ⟨trivial, sorted_members_forall _ members fun member present => ih member present (inner member present)⟩

end NodeProbe.Json
