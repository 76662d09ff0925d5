import NodeProbe.Proofs.Json.Presentation

set_option autoImplicit false

namespace NodeProbe.Json

-- Numbers must be spelled alike.
inductive Draft.Alike : Draft → Draft → Prop
  | refl (draft : Draft) : Alike draft draft
  | symm {first second : Draft} : Alike first second → Alike second first
  | trans {first second third : Draft} : Alike first second → Alike second third → Alike first third
  | text {marks others : List Mark} {chars : List Char} : Resolves marks chars → Resolves others chars →
      Alike (.text marks) (.text others)
  | list {pairs : List (Draft × Draft)} : (∀ pair ∈ pairs, Alike pair.1 pair.2) →
      Alike (.list (pairs.map Prod.fst)) (.list (pairs.map Prod.snd))
  | object {pairs : List ((List Mark × Draft) × (List Mark × Draft))} :
      (∀ pair ∈ pairs, ∃ chars, Resolves pair.1.1 chars ∧ Resolves pair.2.1 chars) →
      (∀ pair ∈ pairs, Alike pair.1.2 pair.2.2) → Alike (.object (pairs.map Prod.fst)) (.object (pairs.map Prod.snd))
  | moved (before after : List (List Mark × Draft)) {first second : List Mark × Draft} {name other : List Char} :
      Resolves first.1 name → Resolves second.1 other → name ≠ other →
      Alike (.object (before ++ first :: second :: after)) (.object (before ++ second :: first :: after))
  | superseded (before : List (List Mark × Draft)) {old new : List Mark × Draft} {after : List (List Mark × Draft)}
      {name : List Char} : Resolves old.1 name → new ∈ after → Resolves new.1 name →
      Alike (.object (before ++ old :: after)) (.object (before ++ after))

/-! What a draft means, with no look at members that are superseded -/

mutual
def Draft.Means : Draft → Value → Prop
  | .null, value => value = .null
  | .boolean truth, value => value = .boolean truth
  | .number numeral, value => ∃ number, numeral.read = .ok number ∧ value = .number number
  | .text marks, value => ∃ chars, Resolves marks chars ∧ value = .text (String.ofList chars)
  | .list items, value => ∃ values, value = .list values ∧ ItemsMean items values
  | .object members, value =>
    ∃ own, value = .object own ∧ Ascending own ∧ ∀ name inner, (name, inner) ∈ own ↔ MembersMean name inner members

def ItemsMean : List Draft → List Value → Prop
  | [], values => values = []
  | item :: rest, values => ∃ first others, values = first :: others ∧ item.Means first ∧ ItemsMean rest others

def MembersMean (name : String) (value : Value) : List (List Mark × Draft) → Prop
  | [] => False
  | (marks, item) :: rest =>
    MembersMean name value rest ∨ Lacks name rest ∧ Resolves marks name.toList ∧ item.Means value
end

theorem lacks_cons (name : String) (member : List Mark × Draft) (rest : List (List Mark × Draft)) :
    Lacks name (member :: rest) ↔ ¬ Resolves member.1 name.toList ∧ Lacks name rest := List.forall_mem_cons

theorem lacks_append (name : String) (before after : List (List Mark × Draft)) :
    Lacks name (before ++ after) ↔ Lacks name before ∧ Lacks name after := List.forall_mem_append

theorem members_mean_append (name : String) (value : Value) (before after : List (List Mark × Draft)) :
    MembersMean name value (before ++ after) ↔
      MembersMean name value after ∨ Lacks name after ∧ MembersMean name value before := by
  induction before with
  | nil => simp only [List.nil_append, MembersMean, and_false, or_false]
  | cons member rest ih =>
    obtain ⟨marks, item⟩ := member
    rw [List.cons_append, MembersMean, ih, lacks_append, MembersMean]
    tauto

structure SameMembers (first second : List (List Mark × Draft)) : Prop where
  named : ∀ name, Lacks name first ↔ Lacks name second
  mean : ∀ name value, MembersMean name value first ↔ MembersMean name value second

theorem same_behind (before : List (List Mark × Draft)) {first second : List (List Mark × Draft)}
    (same : SameMembers first second) : SameMembers (before ++ first) (before ++ second) where
  named := fun name => by rw [lacks_append, lacks_append, same.named name]
  mean := fun name value => by rw [members_mean_append, members_mean_append, same.named name, same.mean name value]

theorem same_means {first second : List (List Mark × Draft)} (same : SameMembers first second) (value : Value) :
    (Draft.object first).Means value ↔ (Draft.object second).Means value := by
  simp only [Draft.Means, same.mean]

theorem moved_same {first second : List Mark × Draft} {name other : List Char} (resolvesFirst : Resolves first.1 name)
    (resolvesSecond : Resolves second.1 other) (different : name ≠ other) (after : List (List Mark × Draft)) :
    SameMembers (first :: second :: after) (second :: first :: after) where
  named := fun key => by
    rw [lacks_cons, lacks_cons, lacks_cons, lacks_cons]
    exact and_left_comm
  mean := fun key value => by
    have notBoth : ¬ (Resolves first.1 key.toList ∧ Resolves second.1 key.toList) := by
      rintro ⟨here, there⟩
      exact different ((resolves_once resolvesFirst here).trans (resolves_once there resolvesSecond))
    simp only [MembersMean, lacks_cons]
    tauto

theorem superseded_same {old new : List Mark × Draft} {name : List Char} {after : List (List Mark × Draft)}
    (resolvesOld : Resolves old.1 name) (later : new ∈ after) (resolvesNew : Resolves new.1 name) :
    SameMembers (old :: after) after := by
  have follows : ∀ key, Lacks key after → ¬ Resolves old.1 key.toList := by
    intro key lacks here
    exact lacks new later (resolves_once here resolvesOld ▸ resolvesNew)
  constructor
  · intro key
    rw [lacks_cons]
    exact and_iff_right_of_imp (follows key)
  · intro key value
    rw [MembersMean]
    exact or_iff_left fun last => follows key last.1 last.2.1

theorem items_mean_iff (items : List Draft) (values : List Value) :
    ItemsMean items values ↔ List.Forall₂ Draft.Means items values := by
  induction items generalizing values with
  | nil => rw [ItemsMean, List.forall₂_nil_left_iff]
  | cons item rest ih =>
    rw [ItemsMean, List.forall₂_cons_left_iff]
    constructor
    · rintro ⟨first, others, rfl, here, later⟩
      exact ⟨first, others, here, (ih others).mp later, rfl⟩
    · rintro ⟨first, others, here, later, rfl⟩
      exact ⟨first, others, rfl, here, (ih others).mpr later⟩

theorem pairs_same {pairs : List ((List Mark × Draft) × (List Mark × Draft))}
    (names : ∀ pair ∈ pairs, ∃ chars, Resolves pair.1.1 chars ∧ Resolves pair.2.1 chars)
    (alike : ∀ pair ∈ pairs, ∀ value, pair.1.2.Means value ↔ pair.2.2.Means value) :
    SameMembers (pairs.map Prod.fst) (pairs.map Prod.snd) := by
  induction pairs with
  | nil => exact ⟨fun _ => Iff.rfl, fun _ _ => Iff.rfl⟩
  | cons pair rest ih =>
    obtain ⟨⟨chars, resolvesFirst, resolvesSecond⟩, namesRest⟩ := List.forall_mem_cons.mp names
    obtain ⟨here, alikeRest⟩ := List.forall_mem_cons.mp alike
    have same := ih namesRest alikeRest
    have resolves : ∀ key : List Char, Resolves pair.1.1 key ↔ Resolves pair.2.1 key := by
      intro key
      constructor
      · exact fun first => resolves_once resolvesFirst first ▸ resolvesSecond
      · exact fun second => resolves_once resolvesSecond second ▸ resolvesFirst
    constructor
    · intro key
      rw [List.map_cons, List.map_cons, lacks_cons, lacks_cons, same.named key, resolves]
    · intro key value
      rw [List.map_cons, List.map_cons, MembersMean, MembersMean, same.mean key value, same.named key, resolves, here value]

theorem alike_means {first second : Draft} (alike : first.Alike second) (value : Value) :
    first.Means value ↔ second.Means value := by
  induction alike generalizing value with
  | refl draft => exact Iff.rfl
  | symm _ ih => exact (ih value).symm
  | trans _ _ ihFirst ihSecond => exact (ihFirst value).trans (ihSecond value)
  | text resolvesFirst resolvesSecond =>
    constructor
    · rintro ⟨chars, resolves, rfl⟩
      exact ⟨chars, resolves_once resolvesFirst resolves ▸ resolvesSecond, rfl⟩
    · rintro ⟨chars, resolves, rfl⟩
      exact ⟨chars, resolves_once resolvesSecond resolves ▸ resolvesFirst, rfl⟩
  | list each ih =>
    simp only [Draft.Means, items_mean_iff]
    refine exists_congr fun values => and_congr_right fun _ => ?_
    rw [List.forall₂_map_left_iff, List.forall₂_map_left_iff]
    constructor
    · exact fun mean => (related_imp mean.flip fun pair present value means => (ih pair present value).mp means).flip
    · exact fun mean => (related_imp mean.flip fun pair present value means => (ih pair present value).mpr means).flip
  | object names each ih => exact same_means (pairs_same names ih) value
  | moved before after resolvesFirst resolvesSecond different =>
    exact same_means (same_behind before (moved_same resolvesFirst resolvesSecond different after)) value
  | superseded before resolvesOld later resolvesNew =>
    exact same_means (same_behind before (superseded_same resolvesOld later resolvesNew)) value

theorem members_mean_present {name : String} {value : Value} {members : List (List Mark × Draft)}
    (mean : MembersMean name value members) : ∃ member ∈ members, Resolves member.1 name.toList ∧ member.2.Means value := by
  induction members with
  | nil => exact mean.elim
  | cons member rest ih =>
    rcases mean with later | ⟨_, resolves, means⟩
    · obtain ⟨own, among, named⟩ := ih later
      exact ⟨own, List.mem_cons_of_mem member among, named⟩
    · exact ⟨member, List.mem_cons_self, resolves, means⟩

theorem means_once {draft : Draft} {first second : Value} (meansFirst : draft.Means first) (meansSecond : draft.Means second) :
    first = second := by
  induction draft using draft_induction generalizing first second with
  | null => exact meansFirst.trans meansSecond.symm
  | boolean => exact meansFirst.trans meansSecond.symm
  | number numeral =>
    obtain ⟨number, read, rfl⟩ := meansFirst
    obtain ⟨other, readOther, rfl⟩ := meansSecond
    rw [Except.ok.inj (read.symm.trans readOther)]
  | text marks =>
    obtain ⟨chars, resolves, rfl⟩ := meansFirst
    obtain ⟨others, resolvesOther, rfl⟩ := meansSecond
    rw [resolves_once resolves resolvesOther]
  | list items ih =>
    obtain ⟨values, rfl, mean⟩ := meansFirst
    obtain ⟨others, rfl, meanOther⟩ := meansSecond
    rw [items_mean_iff] at mean meanOther
    congr 1
    induction mean generalizing others with
    | nil =>
      cases meanOther
      rfl
    | cons here _ later =>
      cases meanOther with
      | cons there rest =>
        obtain ⟨once, onceRest⟩ := List.forall_mem_cons.mp ih
        rw [once here there, later onceRest _ rest]
  | object members ih =>
    obtain ⟨own, rfl, ascending, mean⟩ := meansFirst
    obtain ⟨other, rfl, ascendingOther, meanOther⟩ := meansSecond
    rw [ascending_unique own other ascending ascendingOther fun member => (mean _ _).trans (meanOther _ _).symm]

theorem last_named_means {entries : List DenotedMember} (names : ∀ entry ∈ entries, Resolves entry.marks entry.name.toList)
    (mean : ∀ entry ∈ entries, entry.draft.Means entry.value) (name : String) (value : Value) :
    LastNamed name value (entries.map fun entry => (entry.name, entry.value)) ↔
      MembersMean name value (entries.map fun entry => (entry.marks, entry.draft)) := by
  induction entries with
  | nil => exact ⟨fun last => (last_named_nil name value last).elim, False.elim⟩
  | cons entry rest ih =>
    obtain ⟨resolves, namesRest⟩ := List.forall_mem_cons.mp names
    obtain ⟨means, meanRest⟩ := List.forall_mem_cons.mp mean
    have named : ∀ {entry : DenotedMember}, Resolves entry.marks entry.name.toList →
        (Resolves entry.marks name.toList ↔ entry.name = name) :=
      fun resolves => ⟨name_once resolves, fun same => same ▸ resolves⟩
    have lacks : Lacks name (rest.map fun entry => (entry.marks, entry.draft)) ↔
        ∀ member ∈ rest.map (fun entry => (entry.name, entry.value)), member.1 ≠ name := by
      rw [Lacks, List.forall_mem_map, List.forall_mem_map]
      exact forall₂_congr fun other present => not_congr (named (namesRest other present))
    rw [List.map_cons, List.map_cons, last_named_cons, MembersMean, ih namesRest meanRest, lacks, named resolves, Prod.mk.injEq]
    have same : entry.value = value ↔ entry.draft.Means value :=
      ⟨fun same => same ▸ means, fun other => means_once means other⟩
    rw [same]
    tauto

theorem read_means {draft : Draft} {depth : Nat} {value : Value} (read : draft.read depth = .ok value) :
    draft.Means value := by
  induction draft using draft_induction generalizing depth value with
  | null =>
    cases read
    rfl
  | boolean =>
    cases read
    rfl
  | number numeral =>
    obtain ⟨number, evaluated, rfl⟩ := except_map_ok (by rwa [Draft.read] at read)
    exact ⟨number, evaluated, rfl⟩
  | text marks =>
    obtain ⟨chars, resolved, rfl⟩ := except_map_ok (by rwa [Draft.read] at read)
    exact ⟨chars, read_marks_resolves marks chars resolved, rfl⟩
  | list items ih =>
    cases depth with
    | zero => cases read
    | succ depth =>
      obtain ⟨values, inner, rfl⟩ := except_map_ok (by rwa [Draft.read] at read)
      obtain ⟨entries, rfl, each⟩ := entries_of Prod.fst
        (fun entry : Draft × Value => entry.1.read depth = .ok entry.2) items (by
          intro item present
          obtain ⟨own, here⟩ := read_items_ok inner item present
          exact ⟨(item, own), rfl, here⟩)
      rw [read_items_all entries each] at inner
      obtain rfl := Except.ok.inj inner
      refine ⟨_, rfl, (items_mean_iff _ _).mpr (mapped_related fun entry present => ?_)⟩
      exact ih entry.1 (List.mem_map_of_mem present) (each entry present)
  | object members ih =>
    cases depth with
    | zero => cases read
    | succ depth =>
      obtain ⟨result, inner, rfl⟩ := except_map_ok (by rwa [Draft.read] at read)
      obtain ⟨entries, rfl, each⟩ := entries_of (fun entry : DenotedMember => (entry.marks, entry.draft))
        (fun entry => Resolves entry.marks entry.name.toList ∧ entry.draft.read depth = .ok entry.value) members (by
          intro member present
          obtain ⟨⟨chars, resolves⟩, own, here⟩ := read_members_ok inner member present
          refine ⟨⟨member.1, member.2, String.ofList chars, own⟩, rfl, ?_, here⟩
          rwa [String.toList_ofList])
      have names : ∀ entry ∈ entries, Resolves entry.marks entry.name.toList := fun entry present => (each entry present).1
      rw [read_members_all entries [] names fun entry present => (each entry present).2] at inner
      obtain rfl := Except.ok.inj inner
      refine ⟨_, rfl, of_list_ascending _, fun name value => ?_⟩
      rw [← last_named_means names fun entry present =>
        ih (entry.marks, entry.draft) (List.mem_map_of_mem present) (each entry present).2]
      exact of_list_mem_iff _ name value

theorem means_canonical {draft : Draft} {document : Value} (means : draft.Means document) : document.Canonical := by
  induction draft using draft_induction generalizing document with
  | null =>
    obtain rfl : document = .null := means
    trivial
  | boolean truth =>
    obtain rfl : document = .boolean truth := means
    trivial
  | number =>
    obtain ⟨_, _, rfl⟩ := means
    trivial
  | text =>
    obtain ⟨_, _, rfl⟩ := means
    trivial
  | list items ih =>
    obtain ⟨values, rfl, mean⟩ := means
    refine (everywhere_list _ _).mpr ⟨trivial, fun value present => ?_⟩
    obtain ⟨item, among, here⟩ := each_related ((items_mean_iff items values).mp mean).flip value present
    exact ih item among here
  | object members ih =>
    obtain ⟨own, rfl, ascending, mean⟩ := means
    refine (everywhere_object _ _).mpr ⟨ascending, fun member present => ?_⟩
    obtain ⟨source, among, _, here⟩ := members_mean_present ((mean member.1 member.2).mp present)
    exact ih source among here

theorem alike_read {first second : Draft} (alike : first.Alike second) {depth : Nat} {value other : Value}
    (read : first.read depth = .ok value) (readOther : second.read depth = .ok other) : value = other :=
  means_once ((alike_means alike value).mp (read_means read)) (read_means readOther)

end NodeProbe.Json
