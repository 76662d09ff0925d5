import NodeProbe.Proofs.Json.Skipping

set_option autoImplicit false

namespace NodeProbe.Json

variable {α β σ : Type}

/-! What a draft is read as -/

def Draft.scalar? : Draft → Option Scalar
  | .null => some .null
  | .boolean truth => some (.boolean truth)
  | .number numeral => numeral.read.toOption.map .number
  | .text marks => (readMarks marks).toOption.map fun chars => .text (String.ofList chars)
  | _ => none

def Scalar.text? : Scalar → Option String
  | .text value => some value
  | _ => none

def Scalar.boolean? : Scalar → Option Bool
  | .boolean value => some value
  | _ => none

def Scalar.word? (kind : Word α) : Scalar → Option α
  | .number (.integer value) => kind.ofInt? value.value
  | _ => none

-- A field that a list of all fields may leave out.
def Absence.trailing? : Absence α → Option α
  | .default value => some value
  | _ => none

def inside (depth : Nat) (result : Option α) : Option α := if depth = 0 then none else result

mutual
def Shape.read (depth : Nat) : {α : Type} → Shape α → Draft → Option α
  | _, .text, draft => draft.scalar?.bind Scalar.text?
  | _, .path, draft => draft.scalar?.bind Scalar.text?
  | _, .boolean, draft => draft.scalar?.bind Scalar.boolean?
  | _, .word kind, draft => draft.scalar?.bind (Scalar.word? kind)
  | _, .optional inner, draft =>
    match draft with
    | .null => some none
    | other => (inner.read depth other).map some
  | _, .list item, draft =>
    match draft with
    | .list items => inside depth (items.mapM (item.read (depth - 1)))
    | _ => none
  | _, .members, draft =>
    match draft with
    | .object members => inside depth (readMembers (depth - 1) [] members).toOption
    | _ => none
  | _, .record _ fields build _, draft =>
    match draft with
    | .list items => inside depth ((fields.readItems (depth - 1) items).map build)
    | .object members =>
      inside depth (((members.foldlM (fun slots member => (readMarks member.1).toOption.bind fun name =>
        fields.take (depth - 1) (String.ofList name) member.2 slots) fields.empty).bind
          fun slots => (fields.collect slots).toOption).map build)
    | _ => none

-- The slots after a member with this name. A name that is no field's is passed over.
def Fields.take (depth : Nat) : {β : Type} → (fields : Fields β) → String → Draft → fields.Slots → Option fields.Slots
  | _, .done, _, _, _ => some ()
  | _, .field name shape _ rest, key, draft, slots =>
    if key = name then
      if slots.1.isSome then none else (shape.read depth draft).map fun value => (some value, slots.2)
    else (rest.take depth key draft slots.2).map fun others => (slots.1, others)

-- The fields in declared order; a list may end before those that have a default.
def Fields.readItems (depth : Nat) : {β : Type} → Fields β → List Draft → Option β
  | _, .done, items => if items = [] then some () else none
  | _, .field _ shape absence rest, items =>
    match items with
    | [] => absence.trailing?.bind fun value => (rest.readItems depth []).map (value, ·)
    | item :: items => (shape.read depth item).bind fun value => (rest.readItems depth items).map (value, ·)
end

/-! Readers that come to a result, whatever the cause if they refuse -/

theorem to_option_some {ε : Type} {outcome : Except ε α} {value : α} :
    outcome.toOption = some value ↔ outcome = .ok value := by
  cases outcome with
  | error cause => exact ⟨nofun, nofun⟩
  | ok own =>
    exact ⟨fun same => congrArg Except.ok (Option.some.inj same), fun same => congrArg some (Except.ok.inj same)⟩

def Reader.Settles (reader : Reader α) (text : List Char) (result : Option α) : Prop :=
  ∃ outcome, reader.Gives text outcome ∧ outcome.toOption = result

theorem settles_ok {reader : Reader α} {text : List Char} {value : α} (gives : reader.Gives text (.ok value)) :
    reader.Settles text (some value) := ⟨.ok value, gives, rfl⟩

theorem settles_error {reader : Reader α} {text : List Char} {cause : Cause} (gives : reader.Gives text (.error cause)) :
    reader.Settles text none := ⟨.error cause, gives, rfl⟩

theorem settles_map (f : α → β) {reader : Reader α} {text : List Char} {result : Option α}
    (settles : reader.Settles text result) : (reader.map f).Settles text (result.map f) := by
  obtain ⟨outcome, gives, rfl⟩ := settles
  exact ⟨outcome.map f, gives_map f gives, by cases outcome <;> rfl⟩

theorem settles_check {reader : Reader α} {text : List Char} {result : Option α} (judge : α → Except Cause β)
    (settles : reader.Settles text result) :
    (reader.check judge).Settles text (result.bind fun value => (judge value).toOption) := by
  obtain ⟨outcome, gives, rfl⟩ := settles
  cases outcome with
  | error cause => exact settles_error (gives_check_error judge gives)
  | ok value =>
    cases judged : judge value with
    | ok own => exact ⟨.ok own, gives_check_ok judge gives judged, congrArg Except.toOption judged.symm⟩
    | error cause =>
      refine ⟨.error cause, ?_, congrArg Except.toOption judged.symm⟩
      intro rest delimited
      have read := gives rest delimited
      simp only [Reading.Ends] at read
      exact ⟨_, by simp only [Reader.check, read, judged]; rfl⟩

theorem settles_bind {first : Reader α} {second : α → Reader β} {before after : List Char} {result : Option α}
    {next : α → Option β} (behind : ∀ rest, Delimited rest → Delimited (after ++ rest)) (settles : first.Settles before result)
    (onward : ∀ value, result = some value → (second value).Settles after (next value)) :
    (first.bind second).Settles (before ++ after) (result.bind next) := by
  obtain ⟨outcome, gives, rfl⟩ := settles
  cases outcome with
  | error cause =>
    have refuses : (first.bind second).Gives (before ++ after) (.error cause) := by
      intro rest delimited
      obtain ⟨unread, refused⟩ := gives (after ++ rest) (behind rest delimited)
      exact ⟨unread, by simp only [Reader.bind, List.append_assoc, refused]⟩
    exact settles_error refuses
  | ok value =>
    obtain ⟨outcome, givesNext, same⟩ := onward value rfl
    refine ⟨outcome, ?_, same⟩
    intro rest delimited
    have read := gives (after ++ rest) (behind rest delimited)
    have ends := givesNext rest delimited
    simp only [Reading.Ends] at read
    simpa only [Reader.bind, List.append_assoc, read] using ends

theorem settles_after_space {reader : Reader α} {text : List Char} {result : Option α} (opens : Opens text)
    (settles : reader.Settles text result) : reader.afterSpace.Settles text result := by
  obtain ⟨outcome, gives, same⟩ := settles
  exact ⟨outcome, gives_after_space opens gives, same⟩

theorem settles_bracketed {content : Reader α} {depth : Nat} {result : Option α} {body : List Char} (c : Char)
    (settles : content.Settles body result) :
    (Reader.bracketed (deeper depth content)).Settles (c :: body) (inside depth result) := by
  cases depth with
  | zero => exact settles_error (gives_too_deep c body)
  | succ depth =>
    obtain ⟨outcome, gives, same⟩ := settles
    exact ⟨outcome, gives_bracketed c gives, same⟩

theorem settles_choose_same {c : Char} {text : List Char} {matching other : Reader α} {result : Option α}
    (settles : matching.Settles (c :: text) result) : (Reader.choose c matching other).Settles (c :: text) result := by
  obtain ⟨outcome, gives, same⟩ := settles
  exact ⟨outcome, gives_choose_same gives, same⟩

theorem settles_choose_other {first : Char} {text : List Char} {matching other : Reader α} {result : Option α}
    (different : ∃ c rest, text = c :: rest ∧ c ≠ first) (settles : other.Settles text result) :
    (Reader.choose first matching other).Settles text result := by
  obtain ⟨outcome, gives, same⟩ := settles
  obtain ⟨c, rest, rfl, notFirst⟩ := different
  exact ⟨outcome, gives_choose_other notFirst gives, same⟩

/-! Scalars -/

theorem scalar_settles {draft : Draft} {text : List Char} (written : draft.Written text)
    (notList : ∀ items, draft ≠ .list items) (notObject : ∀ members, draft ≠ .object members) :
    scalar.Settles text draft.scalar? := by
  cases written with
  | null => exact settles_ok (@scalar_gives .null _ .null)
  | boolean truth => exact settles_ok (@scalar_gives (.boolean truth) _ (.boolean truth))
  | number numeral =>
    refine ⟨_, scalar_numeral numeral, ?_⟩
    rw [Draft.scalar?]
    cases numeral.read <;> rfl
  | @text marks spelled spelling =>
    refine ⟨_, scalar_marks spelling, ?_⟩
    rw [Draft.scalar?]
    cases readMarks marks <;> rfl
  | list each layout => exact absurd rfl (notList _)
  | object names each layout => exact absurd rfl (notObject _)

theorem scalar_as_settles {draft : Draft} {text : List Char} (written : draft.Written text) (expected : String)
    (accept : Scalar → Except Cause α) :
    (scalarAs expected accept).Settles text (draft.scalar?.bind fun found => (accept found).toOption) := by
  cases draft with
  | list items =>
    cases written
    exact settles_error (gives_choose_same fun _ _ => ⟨_, rfl⟩)
  | object members =>
    cases written
    exact settles_error (gives_choose_other (by decide) (gives_choose_same fun _ _ => ⟨_, rfl⟩))
  | _ =>
    have settles := settles_check accept (scalar_settles written nofun nofun)
    exact settles_choose_other (written_apart written rfl) (settles_choose_other (written_apart written rfl) settles)

theorem scalar_kind_settles {draft : Draft} {text : List Char} (written : draft.Written text) (expected : String)
    {accept : Scalar → Except Cause α} {kind : Scalar → Option α} (same : ∀ found, (accept found).toOption = kind found) :
    (scalarAs expected accept).Settles text (draft.scalar?.bind kind) := by
  obtain rfl : (fun found => (accept found).toOption) = kind := funext same
  exact scalar_as_settles written expected accept

theorem refuse_settles {draft : Draft} {text : List Char} (written : draft.Written text) (expected : String) :
    (refuse expected : Reader α).Settles text none := by
  have settles := scalar_as_settles written expected fun found => (.error (.wrongType found.found expected) : Except Cause α)
  cases read : draft.scalar? <;> rw [read] at settles <;> exact settles

/-! Lists and members -/

theorem course_settles {γ ε : Type} {item : σ → Reader σ} (step : σ → γ → Option σ) (seen : ε → γ) (text : ε → List Char)
    (entries : List ε) (each : ∀ entry ∈ entries, ∀ state, (item state).Settles (text entry) (step state (seen entry)))
    (state : σ) :
    ∃ outcome, Course item state (entries.map text) outcome ∧ outcome.toOption = (entries.map seen).foldlM step state := by
  induction entries generalizing state with
  | nil => exact ⟨.ok state, .done state, rfl⟩
  | cons entry rest ih =>
    obtain ⟨first, others⟩ := List.forall_mem_cons.mp each
    obtain ⟨outcome, gives, same⟩ := first state
    rw [List.map_cons, List.map_cons, List.foldlM_cons, ← same]
    cases outcome with
    | error cause => exact ⟨.error cause, .stop gives, rfl⟩
    | ok next =>
      obtain ⟨result, course, onward⟩ := ih others next
      exact ⟨result, .next gives course, onward⟩

theorem enclosure_settles {γ ε : Type} (bracket : Bracket) {item : σ → Reader σ} (step : σ → γ → Option σ) (seen : ε → γ)
    (text : ε → List Char) (entries : List ε) {body : List Char}
    (layout : Layout bracket.enclosure.close (entries.map text) body) (opens : ∀ entry ∈ entries, Opens (text entry))
    (each : ∀ entry ∈ entries, ∀ state, (item state).Settles (text entry) (step state (seen entry))) (state : σ) :
    (bracket.enclosure.reader item state).Settles body ((entries.map seen).foldlM step state) := by
  obtain ⟨outcome, course, same⟩ := course_settles step seen text entries each state
  exact ⟨outcome, enclosure_layout bracket item layout (List.forall_mem_map.mpr opens) state outcome course, same⟩

theorem fold_items (read : Draft → Option α) (items : List Draft) (before : List α) :
    items.foldlM (fun before item => (read item).map (· :: before)) before =
      (items.mapM read).map fun values => values.reverse ++ before := by
  induction items generalizing before with
  | nil => rfl
  | cons item rest ih =>
    rw [List.foldlM_cons, List.mapM_cons]
    cases read item with
    | none => rfl
    | some first =>
      rw [Option.map_some]
      refine (ih (first :: before)).trans ?_
      cases rest.mapM read with
      | none => rfl
      | some values =>
        refine congrArg some ?_
        dsimp only
        rw [List.reverse_cons, List.append_assoc, List.singleton_append]

theorem list_items_settles {reader : Reader α} (read : Draft → Option α) (entries : List (Draft × List Char))
    {body : List Char} (layout : Layout ']' (entries.map Prod.snd) body) (opens : ∀ entry ∈ entries, Opens entry.2)
    (each : ∀ entry ∈ entries, reader.Settles entry.2 (read entry.1)) :
    (listItems reader).Settles body ((entries.map Prod.fst).mapM read) := by
  have next : ∀ entry ∈ entries, ∀ before,
      (reader.afterSpace.map (· :: before)).Settles entry.2 ((read entry.1).map (· :: before)) :=
    fun entry present before => settles_map (· :: before) (settles_after_space (opens entry present) (each entry present))
  have items := enclosure_settles .list (fun before item => (read item).map (· :: before)) Prod.fst Prod.snd entries layout
    opens next []
  have settles := settles_map List.reverse items
  rw [fold_items, Option.map_map] at settles
  have reversed : (List.reverse ∘ fun values : List α => values.reverse ++ []) = id := by
    funext values
    rw [Function.comp_apply, List.append_nil, List.reverse_reverse, id]
  rwa [reversed, Option.map_id_apply] at settles

theorem name_settles {next : String → Reader α} {marks : List Mark} {label text : List Char}
    (result : List Char → Option α) (spelling : NameSpelling marks label)
    (onward : ∀ chars, ∃ outcome, (∀ separator, Separator separator →
      (next (String.ofList chars)).Gives (separator ++ text) outcome) ∧ outcome.toOption = result chars) :
    (memberName.bind next).Settles (label ++ text) ((readMarks marks).toOption.bind result) := by
  cases resolved : readMarks marks with
  | error cause =>
    have gives : (memberName.bind next).Gives (label ++ text) ((readMarks marks).bind fun _ => .error cause) :=
      name_gives spelling fun chars _ same => nomatch resolved.symm.trans same
    rw [resolved] at gives
    exact settles_error gives
  | ok chars =>
    obtain ⟨outcome, gives, same⟩ := onward chars
    have given : (memberName.bind next).Gives (label ++ text) ((readMarks marks).bind fun _ => outcome) :=
      name_gives spelling fun other separator own separates =>
        Except.ok.inj (resolved.symm.trans own) ▸ gives separator separates
    rw [resolved] at given
    exact ⟨outcome, given, same⟩

/-! Records -/

theorem repeated_gives (name : String) (text : List Char) :
    (repeated name : Reader α).Gives text (.error (.duplicateField name)) := by
  intro rest _
  unfold repeated
  simp only [Reader.fail]
  split <;> exact ⟨_, rfl⟩

def Trailing : List (List Char) → List Char → Prop
  | [], tail => ∃ gap, Gap gap ∧ tail = gap ++ [']']
  | texts, tail => ∃ gap body, Gap gap ∧ Layout ']' texts body ∧ tail = gap ++ ',' :: body

def Pending (start : Bool) (texts : List (List Char)) (tail : List Char) : Prop :=
  if start then Layout ']' texts tail else Trailing texts tail

theorem trailing_delimits {texts : List (List Char)} {tail : List Char} (trailing : Trailing texts tail) (rest : List Char) :
    Delimited (tail ++ rest) := by
  cases texts with
  | nil =>
    obtain ⟨gap, blank, rfl⟩ := trailing
    rw [List.append_assoc]
    exact delimited_gap gap _ blank (close_delimits .list rest)
  | cons text texts =>
    obtain ⟨gap, body, blank, _, rfl⟩ := trailing
    rw [List.append_assoc]
    exact delimited_gap gap _ blank (comma_delimits _)

theorem layout_trailing {text : List Char} {texts : List (List Char)} {body : List Char}
    (layout : Layout ']' (text :: texts) body) :
    ∃ before tail, Gap before ∧ Trailing texts tail ∧ body = before ++ (text ++ tail) := by
  cases layout with
  | last blankBefore blankAfter => exact ⟨_, _, blankBefore, ⟨_, blankAfter, rfl⟩, rfl⟩
  | more blankBefore blankAfter others => exact ⟨_, _, blankBefore, ⟨_, _, blankAfter, others, rfl⟩, rfl⟩

theorem pending_none {start : Bool} {tail : List Char} (pending : Pending start [] tail) :
    ∃ gap, Gap gap ∧ tail = gap ++ [']'] := by
  cases start with
  | true =>
    have layout : Layout ']' [] tail := pending
    cases layout with
    | empty blank => exact ⟨_, blank, rfl⟩
  | false => exact pending

theorem element_ends {element : Reader α} {others : Reader β} {start : Bool} {absent : Except Cause α} {result : Option β}
    {tail : List Char} (pending : Pending start [] tail) (settles : others.Settles [']'] result) :
    (NodeProbe.Json.element start absent element others).Settles tail
      (absent.toOption.bind fun value => result.map (value, ·)) := by
  obtain ⟨gap, blank, rfl⟩ := pending_none pending
  have spaced : ∀ rest, skipSpace (gap ++ [']'] ++ rest) = ']' :: rest := by
    intro rest
    rw [List.append_assoc]
    exact skip_space_gap_solid gap rest ']' blank (by decide)
  cases absent with
  | error cause =>
    have refuses : (NodeProbe.Json.element start (.error cause) element others).Gives (gap ++ [']']) (.error cause) := by
      intro rest _
      simp only [NodeProbe.Json.element, elementBody, spaced]
      exact ⟨_, rfl⟩
    exact settles_error refuses
  | ok value =>
    obtain ⟨outcome, gives, same⟩ := settles_map (value, ·) settles
    refine ⟨outcome, fun rest delimited => ?_, same⟩
    simp only [NodeProbe.Json.element, elementBody, spaced]
    exact gives rest delimited

theorem pending_next {start : Bool} {text : List Char} {texts : List (List Char)} {tail : List Char}
    (pending : Pending start (text :: texts) tail) (opens : Opens text) :
    ∃ lead behind, Trailing texts behind ∧ (∀ rest, skipSpace (lead ++ rest) = text ++ behind ++ rest) ∧
      if start then lead = tail else ∀ rest, skipSpace (tail ++ rest) = ',' :: (lead ++ rest) := by
  have spaced : ∀ before behind rest, Gap before → skipSpace (before ++ (text ++ behind) ++ rest) = text ++ behind ++ rest := by
    intro before behind rest blank
    rw [List.append_assoc, List.append_assoc, skip_space_gap_opens blank opens]
  cases start with
  | true =>
    have layout : Layout ']' (text :: texts) tail := pending
    obtain ⟨before, behind, blank, trailing, rfl⟩ := layout_trailing layout
    exact ⟨_, behind, trailing, fun rest => spaced before behind rest blank, rfl⟩
  | false =>
    have behindComma : Trailing (text :: texts) tail := pending
    obtain ⟨gap, body, blankGap, layout, rfl⟩ := behindComma
    obtain ⟨before, behind, blank, trailing, rfl⟩ := layout_trailing layout
    refine ⟨_, behind, trailing, fun rest => spaced before behind rest blank, fun rest => ?_⟩
    rw [List.append_assoc]
    exact skip_space_gap_solid gap _ ',' blankGap (by decide)

theorem element_next {element : Reader α} {others : Reader β} {start : Bool} {absent : Except Cause α}
    {text : List Char} {texts : List (List Char)} {tail : List Char} {first : Option α} {result : Option β}
    (pending : Pending start (text :: texts) tail) (opens : Opens text) (settles : element.Settles text first)
    (onward : ∀ behind, Trailing texts behind → others.Settles behind result) :
    (NodeProbe.Json.element start absent element others).Settles tail
      (first.bind fun value => result.map (value, ·)) := by
  obtain ⟨lead, behind, trailing, spaced, placed⟩ := pending_next pending opens
  have items : (element.bind fun value => others.map (value, ·)).Settles (text ++ behind)
      (first.bind fun value => result.map (value, ·)) :=
    settles_bind (fun rest _ => trailing_delimits trailing rest) settles
      fun value _ => settles_map (value, ·) (onward behind trailing)
  obtain ⟨outcome, gives, same⟩ := items
  refine ⟨outcome, fun rest delimited => ?_, same⟩
  have ends := gives rest delimited
  obtain ⟨c, after, opened, notClose⟩ := opens_not_close .list text opens (behind ++ rest)
  have notEnd : ¬ c = ']' := notClose
  have notComma : ¬ ',' = ']' := by decide
  have here := spaced rest
  rw [List.append_assoc, opened] at here ends
  cases start with
  | true =>
    subst placed
    simp only [NodeProbe.Json.element, elementBody, here, if_neg notEnd, if_true]
    exact ends
  | false =>
    simp only [NodeProbe.Json.element, elementBody, placed rest, here, if_neg notEnd, if_neg notComma, Bool.false_eq_true,
      if_false, if_true]
    exact ends

theorem list_end_settles {start : Bool} (entries : List (Draft × List Char)) {tail : List Char}
    (written : ∀ entry ∈ entries, entry.1.Written entry.2) (pending : Pending start (entries.map Prod.snd) tail) :
    listEnd.Settles tail (if entries.map Prod.fst = [] then some () else none) := by
  cases entries with
  | nil =>
    obtain ⟨gap, blank, rfl⟩ := pending_none pending
    refine settles_ok fun rest _ => ?_
    have spaced := skip_space_gap_solid gap rest ']' blank (by decide)
    simp only [listEnd, listEndBody, List.append_assoc, List.singleton_append, spaced, Reading.Ends, if_true]
  | cons entry entries =>
    have writtenFirst := written entry List.mem_cons_self
    have opens := written_opens writtenFirst
    obtain ⟨lead, behind, _, spaced, placed⟩ := pending_next pending opens
    have refuses : listEnd.Gives tail (.error .trailingCharacters) := by
      intro rest _
      have here := spaced rest
      obtain ⟨c, others, opened, notComma⟩ := @written_apart _ _ writtenFirst ',' (by cases entry.1 <;> rfl)
      obtain ⟨d, after, again, notClose⟩ := opens_not_close .list entry.2 opens (behind ++ rest)
      have notEnd : ¬ d = ']' := notClose
      rw [List.append_assoc, again] at here
      rw [opened, List.cons_append] at again
      obtain ⟨rfl, rfl⟩ := List.cons.inj again
      cases start with
      | true =>
        subst placed
        simp only [listEnd, listEndBody, here, if_neg notEnd, if_neg notComma]
        exact ⟨_, rfl⟩
      | false =>
        have commaNotEnd : ¬ ',' = ']' := by decide
        simp only [listEnd, listEndBody, placed rest, here, if_neg commaNotEnd, if_true]
        split
        · rename_i same
          exact absurd (List.cons.inj same).1 notEnd
        · exact ⟨_, rfl⟩
    exact settles_error refuses

theorem in_list_trailing (absence : Absence α) (cause : Cause) : (absence.inList cause).toOption = absence.trailing? := by
  cases absence <;> rfl

theorem member_rest (reader : Option (Reader β)) (first : α) (others : β) (text : List Char) :
    ((reader.map fun reader => reader.map fun others => (first, others)).getD (skip.afterColon.map fun _ => (first, others))).run
        text =
      ((reader.getD (skip.afterColon.map fun _ => others)).map fun others => (first, others)).run text := by
  cases reader with
  | some reader => rfl
  | none =>
    simp only [Option.map_none, Option.getD_none, Reader.map]
    cases skip.afterColon.run text <;> rfl

-- Whichever way a member is named, what follows the name is read as its draft says.
def Fields.Takes (fields : Fields β) (depth : Nat) : Prop :=
  ∀ key draft text slots, draft.Written text → ∃ outcome,
    (∀ separator, Separator separator →
      ((fields.member depth key slots).getD (skip.afterColon.map fun _ => slots)).Gives (separator ++ text) outcome) ∧
    outcome.toOption = fields.take depth key draft slots

def Fields.Lists (fields : Fields β) (depth : Nat) : Prop :=
  ∀ tooShort read tail (entries : List (Draft × List Char)), (∀ entry ∈ entries, entry.1.Written entry.2) →
    Pending (decide (read = 0)) (entries.map Prod.snd) tail →
    (fields.elements depth tooShort read).Settles tail (fields.readItems depth (entries.map Prod.fst))

theorem record_object_settles (fields : Fields β) (depth : Nat) (takes : fields.Takes depth) (entries : List DraftMember)
    {body : List Char} (names : ∀ entry ∈ entries, NameSpelling entry.marks entry.label)
    (each : ∀ entry ∈ entries, entry.draft.Written entry.text)
    (layout : Layout '\x7d' (entries.map fun entry => entry.label ++ entry.text) body) :
    (Enclosure.object.reader
      (fun slots => memberName.bind fun key =>
        (fields.member depth key slots).getD (skip.afterColon.map fun _ => slots)) fields.empty).Settles body
      ((entries.map fun entry => (entry.marks, entry.draft)).foldlM (fun slots member =>
        (readMarks member.1).toOption.bind fun name => fields.take depth (String.ofList name) member.2 slots) fields.empty) := by
  refine enclosure_settles .object _ (fun entry : DraftMember => (entry.marks, entry.draft)) _ entries layout ?_ ?_ fields.empty
  · exact fun entry present => opens_append (name_opens (names entry present)) _
  · intro entry present slots
    have taken := fun chars => takes (String.ofList chars) entry.draft entry.text slots (each entry present)
    exact name_settles _ (names entry present) taken

mutual
theorem shape_settles {α : Type} (shape : Shape α) {draft : Draft} {text : List Char} (written : draft.Written text)
    (depth : Nat) : (shape.reader depth).Settles text (shape.read depth draft) := by
  have opens := written_opens written
  match α, shape with
  | _, .text => exact settles_after_space opens (scalar_kind_settles written _ fun found => by cases found <;> rfl)
  | _, .path => exact settles_after_space opens (scalar_kind_settles written _ fun found => by cases found <;> rfl)
  | _, .boolean => exact settles_after_space opens (scalar_kind_settles written _ fun found => by cases found <;> rfl)
  | _, .word kind =>
    refine settles_after_space opens (scalar_kind_settles written _ fun found => ?_)
    cases found with
    | number value =>
      cases value with
      | float => rfl
      | integer value =>
        dsimp only [Scalar.word?]
        cases kind.ofInt? value.value <;> rfl
    | _ => rfl
  | _, .optional inner =>
    refine settles_after_space opens ?_
    cases draft with
    | null =>
      cases written
      exact settles_choose_same (settles_map (fun _ => none) (settles_ok (@scalar_gives .null _ .null)))
    | _ =>
      exact settles_choose_other (written_apart written rfl) (settles_map some (shape_settles inner written depth))
  | _, .list item =>
    refine settles_after_space opens ?_
    cases draft with
    | list items =>
      cases written with
      | @list entries body each layout =>
        refine settles_choose_same (settles_bracketed '[' (list_items_settles _ entries layout ?_ ?_))
        · exact fun entry present => written_opens (each entry present)
        · exact fun entry present => shape_settles item (each entry present) (depth - 1)
    | _ =>
      exact settles_choose_other (written_apart written rfl) (refuse_settles written _)
  | _, .members =>
    refine settles_after_space opens ?_
    cases draft with
    | object members =>
      cases written with
      | @object entries body names each layout =>
        refine settles_choose_same (settles_bracketed '\x7b' ⟨_, draft_object_gives entries layout names ?_ ?_, rfl⟩)
        · exact fun entry present => written_opens (each entry present)
        · exact fun entry present => draft_gives (each entry present) (depth - 1)
    | _ =>
      exact settles_choose_other (written_apart written rfl) (refuse_settles written _)
  | _, .record name fields build _ =>
    refine settles_after_space opens ?_
    cases draft with
    | list items =>
      cases written with
      | @list entries body each layout =>
        exact settles_choose_same (settles_bracketed '[' (settles_map build
          (fields_list fields (depth - 1) _ 0 body entries each layout)))
    | object members =>
      cases written with
      | @object entries body names each layout =>
        have settles := record_object_settles fields (depth - 1) (fields_take fields (depth - 1)) entries names each layout
        exact settles_choose_other ⟨_, _, rfl, by decide⟩ (settles_choose_same (settles_bracketed '\x7b'
          (settles_map build (settles_check fields.collect settles))))
    | _ =>
      exact settles_choose_other (written_apart written rfl)
        (settles_choose_other (written_apart written rfl) (refuse_settles written _))

theorem fields_take {β : Type} (fields : Fields β) (depth : Nat) : fields.Takes depth := by
  intro key draft text slots written
  have opens := written_opens written
  match β, fields, slots with
  | _, .done, slots =>
    exact ⟨.ok slots, fun separator separates => gives_map _ (after_colon_gives separates opens (skip_gives written)), rfl⟩
  | _, .field name shape absence rest, slots =>
    obtain ⟨first, others⟩ := slots
    by_cases same : key = name
    · simp only [Fields.member, Fields.take, if_pos same, Option.getD_some]
      cases first with
      | some value => exact ⟨_, fun separator _ => repeated_gives name _, rfl⟩
      | none =>
        obtain ⟨outcome, gives, read⟩ := shape_settles shape written depth
        refine ⟨outcome.map fun value => (some value, others), ?_, ?_⟩
        · exact fun separator separates => gives_map _ (after_colon_gives separates opens gives)
        · rw [← read]
          cases outcome <;> rfl
    · simp only [Fields.member, Fields.take, if_neg same]
      obtain ⟨outcome, gives, read⟩ := fields_take rest depth key draft text others written
      refine ⟨outcome.map fun others => (first, others), ?_, ?_⟩
      · intro separator separates behind delimited
        have ends := gives_map (fun others => (first, others)) (gives separator separates) behind delimited
        rwa [← member_rest] at ends
      · rw [← read]
        cases outcome <;> rfl

theorem fields_list {β : Type} (fields : Fields β) (depth : Nat) : fields.Lists depth := by
  intro tooShort read tail entries written pending
  match β, fields with
  | _, .done => exact list_end_settles entries written pending
  | _, .field name shape absence rest =>
    cases entries with
    | nil =>
      rw [Fields.elements, List.map_nil, Fields.readItems, ← in_list_trailing absence (tooShort read)]
      exact element_ends pending (fields_list rest depth tooShort (read + 1) [']'] [] nofun ⟨[], gap_nil, rfl⟩)
    | cons entry entries =>
      obtain ⟨first, others⟩ := List.forall_mem_cons.mp written
      exact element_next pending (written_opens first) (shape_settles shape first depth)
        fun behind trailing => fields_list rest depth tooShort (read + 1) behind entries others trailing
end

end NodeProbe.Json
