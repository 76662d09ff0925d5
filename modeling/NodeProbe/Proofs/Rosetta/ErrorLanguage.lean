import NodeProbe.Proofs.Json.TypedMembers
import NodeProbe.Proofs.Sink.Outcome

set_option autoImplicit false

namespace NodeProbe.Rosetta

open Json

-- Each part is there once, or not at all if it is the last one and false.
def ApiError.InObject (error : ApiError) (members : List (List Mark × Draft)) : Prop :=
  ∃ named, Named members named ∧
    (∃ numeral, withName "code" named = [("code", .number numeral)] ∧ numeral.Spells error.code.toInt) ∧
    (∃ marks, withName "message" named = [("message", .text marks)] ∧ Resolves marks error.message.toList) ∧
    (withName "retriable" named = [("retriable", .boolean error.retriable)] ∨
      withName "retriable" named = [] ∧ error.retriable = false)

def ApiError.InList (error : ApiError) (items : List Draft) : Prop :=
  ∃ numeral marks last, items = .number numeral :: .text marks :: last ∧ numeral.Spells error.code.toInt ∧
    Resolves marks error.message.toList ∧ (last = [.boolean error.retriable] ∨ last = [] ∧ error.retriable = false)

def ApiError.In (error : ApiError) : Draft → Prop
  | .object members => error.InObject members
  | .list items => error.InList items
  | _ => False

theorem error_in_object (error : ApiError) (members : List (List Mark × Draft)) :
    ApiError.shape.read depthLimit (.object members) = some error ↔ error.InObject members := by
  rw [ApiError.shape, read_object_iff _ _ _ (by decide)]
  constructor
  · rintro ⟨_, named, ⟨code, message, retriable, ⟨⟩⟩, whole, ⟨codeRead, messageRead, retriableRead, _⟩, rfl⟩
    refine ⟨named, whole, ?_, ?_, ?_⟩
    · rcases codeRead with ⟨draft, single, read⟩ | ⟨_, missing⟩
      · obtain ⟨numeral, rfl, spells⟩ := (scalar_word_iff .int32 draft code).mp read
        exact ⟨numeral, single, spells⟩
      · cases missing
    · rcases messageRead with ⟨draft, single, read⟩ | ⟨_, missing⟩
      · obtain ⟨marks, rfl, resolves⟩ := (scalar_text_iff draft message).mp read
        exact ⟨marks, single, resolves⟩
      · cases missing
    · rcases retriableRead with ⟨draft, single, read⟩ | ⟨absent, missing⟩
      · obtain rfl := (scalar_boolean_iff draft retriable).mp read
        exact .inl single
      · exact .inr ⟨absent, (Option.some.inj missing).symm⟩
  · rintro ⟨named, whole, ⟨numeral, oneCode, spells⟩, ⟨marks, oneMessage, resolves⟩, retriable⟩
    refine ⟨by decide, named, (error.code, error.message, error.retriable, ()), whole, ⟨?_, ?_, ?_, trivial⟩, rfl⟩
    · exact .inl ⟨_, oneCode, (scalar_word_iff .int32 _ error.code).mpr ⟨numeral, rfl, spells⟩⟩
    · exact .inl ⟨_, oneMessage, (scalar_text_iff _ error.message).mpr ⟨marks, rfl, resolves⟩⟩
    · rcases retriable with single | ⟨absent, same⟩
      · exact .inl ⟨_, single, rfl⟩
      · exact .inr ⟨absent, congrArg some same.symm⟩

theorem error_in_list (error : ApiError) (items : List Draft) :
    ApiError.shape.read depthLimit (.list items) = some error ↔ error.InList items := by
  rw [ApiError.shape, read_list_iff]
  constructor
  · rintro ⟨_, ⟨code, message, retriable, ⟨⟩⟩, read, rfl⟩
    match items with
    | [] => exact nomatch ((items_nil_iff _ _ _ _ _ _).mp read).1
    | [item] =>
      obtain ⟨_, missing⟩ := (items_cons_iff _ _ _ _ _ _ _ _).mp read
      exact nomatch ((items_nil_iff _ _ _ _ _ _).mp missing).1
    | first :: second :: last =>
      obtain ⟨codeRead, behindCode⟩ := (items_cons_iff _ _ _ _ _ _ _ _).mp read
      obtain ⟨messageRead, behindMessage⟩ := (items_cons_iff _ _ _ _ _ _ _ _).mp behindCode
      obtain ⟨numeral, rfl, spells⟩ := (scalar_word_iff .int32 first code).mp codeRead
      obtain ⟨marks, rfl, resolves⟩ := (scalar_text_iff second message).mp messageRead
      refine ⟨numeral, marks, last, rfl, spells, resolves, ?_⟩
      cases last with
      | nil =>
        obtain ⟨missing, _⟩ := (items_nil_iff _ _ _ _ _ _).mp behindMessage
        exact .inr ⟨rfl, (Option.some.inj missing).symm⟩
      | cons third more =>
        obtain ⟨retriableRead, ended⟩ := (items_cons_iff _ _ _ _ _ _ _ _).mp behindMessage
        obtain rfl := (scalar_boolean_iff third retriable).mp retriableRead
        cases more with
        | nil => exact .inl rfl
        | cons => cases ended
  · rintro ⟨numeral, marks, last, rfl, spells, resolves, ends⟩
    refine ⟨by decide, (error.code, error.message, error.retriable, ()), ?_, rfl⟩
    refine (items_cons_iff _ _ _ _ _ _ _ _).mpr ⟨(scalar_word_iff .int32 _ error.code).mpr ⟨numeral, rfl, spells⟩, ?_⟩
    refine (items_cons_iff _ _ _ _ _ _ _ _).mpr ⟨(scalar_text_iff _ error.message).mpr ⟨marks, rfl, resolves⟩, ?_⟩
    rcases ends with rfl | ⟨rfl, same⟩
    · exact (items_cons_iff _ _ _ _ _ _ _ _).mpr ⟨rfl, rfl⟩
    · exact (items_nil_iff _ _ _ _ _ _).mpr ⟨congrArg some same.symm, rfl⟩

theorem error_read_iff (error : ApiError) (draft : Draft) :
    ApiError.shape.read depthLimit draft = some error ↔ error.In draft := by
  cases draft with
  | object members => exact error_in_object error members
  | list items => exact error_in_list error items
  | _ => exact ⟨nofun, nofun⟩

theorem parse_some_iff (body : String) (error : ApiError) :
    ApiError.parse? body = some error ↔ ∃ draft : Draft, draft.Writes body.toList ∧ error.In draft := by
  have decoded : ApiError.parse? body = some error ↔ ApiError.shape.decode body = .ok error := to_option_some
  rw [decoded, decode_ok_iff]
  exact exists_congr fun draft => and_congr_right fun _ => error_read_iff error draft

/-! Members with other names -/

def ApiError.parts : List String := ["code", "message", "retriable"]

def errorMembers (named : List (String × Draft)) : List (String × Draft) :=
  named.filter fun member => member.1 ∈ ApiError.parts

theorem with_name_part (name : String) (part : name ∈ ApiError.parts) (named : List (String × Draft)) :
    withName name (errorMembers named) = withName name named := by
  rw [withName, withName, errorMembers, List.filter_filter]
  apply List.filter_congr
  intro member _
  by_cases same : member.1 = name
  · simp [same, part]
  · simp [same]

theorem with_name_shuffled {named other : List (String × Draft)} (same : (errorMembers named).Perm (errorMembers other))
    {name : String} (part : name ∈ ApiError.parts) : (withName name named).Perm (withName name other) := by
  rw [← with_name_part name part named, ← with_name_part name part other]
  exact same.filter _

theorem error_shuffled (error : ApiError) {members others : List (List Mark × Draft)}
    {named otherNamed : List (String × Draft)} (whole : Named members named) (otherWhole : Named others otherNamed)
    (same : (errorMembers named).Perm (errorMembers otherNamed)) (inObject : error.InObject members) :
    error.InObject others := by
  obtain ⟨own, ownWhole, ⟨numeral, oneCode, spells⟩, ⟨marks, oneMessage, resolves⟩, retriable⟩ := inObject
  obtain rfl := named_once members own named ownWhole whole
  have code := with_name_shuffled same (by decide : "code" ∈ ApiError.parts)
  have message := with_name_shuffled same (by decide : "message" ∈ ApiError.parts)
  have last := with_name_shuffled same (by decide : "retriable" ∈ ApiError.parts)
  rw [oneCode] at code
  rw [oneMessage] at message
  refine ⟨otherNamed, otherWhole, ⟨numeral, List.perm_singleton.mp code.symm, spells⟩,
    ⟨marks, List.perm_singleton.mp message.symm, resolves⟩, ?_⟩
  rcases retriable with single | ⟨absent, isFalse⟩
  · rw [single] at last
    exact .inl (List.perm_singleton.mp last.symm)
  · rw [absent] at last
    exact .inr ⟨List.nil_perm.mp last, isFalse⟩

theorem parse_shuffled {body other : String} {members others : List (List Mark × Draft)}
    {named otherNamed : List (String × Draft)} (writes : (Draft.object members).Writes body.toList)
    (otherWrites : (Draft.object others).Writes other.toList) (whole : Named members named) (otherWhole : Named others otherNamed)
    (same : (errorMembers named).Perm (errorMembers otherNamed)) : ApiError.parse? body = ApiError.parse? other := by
  apply Option.ext
  intro error
  rw [ApiError.parse?, ApiError.parse?, decode_written _ writes, decode_written _ otherWrites, error_read_iff, error_read_iff]
  exact ⟨error_shuffled error whole otherWhole same, error_shuffled error otherWhole whole same.symm⟩

/-- A report on a refused response. Its one warning is the error in the body. -/
structure RefusalTold (sink : Sink) (status : UInt16) (body : String) (elapsed : Duration) (world : World)
    (block : Bytes) (events : List Event) : Prop where
  printed : block = line ("Error: " ++ toString status.toNat) ++ line body ++ sink.timingBlock ⟨status, body, elapsed⟩
  ran : (sink.report ⟨status, body, elapsed⟩).run world =
    (if (world.output.write block).1 then .ok (.failure status body) else .error (.io .outputFull),
      { world with output := (world.output.write block).2, log := world.log ++ events })
  silent : ApiError.parse? body = none → events = []
  warned : ∀ error, ApiError.parse? body = some error → events = [.apiError status error]
  level : ∀ error, (Event.apiError status error).level = .warn
  message : ∀ error, (Event.apiError status error).message = "API error: " ++ error.message
  fields : ∀ error, (Event.apiError status error).fields = [("status", Event.statusValue status),
    ("code", .number (.integer (Word.int32.toInteger error.code))), ("retriable", .boolean error.retriable)]

theorem report_told (sink : Sink) (status : UInt16) (body : String) (elapsed : Duration) (world : World)
    (other : status ≠ 200) : ∃ block events, RefusalTold sink status body elapsed world block events := by
  have refused : (Response.mk status body elapsed).isOk = false := decide_eq_false other
  refine ⟨_, _, rfl, sink.report_refusal ⟨status, body, elapsed⟩ refused world, ?_, ?_, fun _ => rfl, fun _ => rfl,
    fun _ => rfl⟩
  · intro none
    rw [Sink.refusalEvents, none]
    rfl
  · intro error some
    rw [Sink.refusalEvents, some]
    rfl

/-- An error is read from just the bodies that hold one, whatever the order of their members, and told as it is. -/
theorem error_language (body : String) :
    (∀ error, ApiError.parse? body = some error ↔ ∃ draft : Draft, draft.Writes body.toList ∧ error.In draft) ∧
    (∀ other members others named otherNamed, (Draft.object members).Writes body.toList →
      (Draft.object others).Writes other.toList → Named members named → Named others otherNamed →
      (errorMembers named).Perm (errorMembers otherNamed) → ApiError.parse? other = ApiError.parse? body) ∧
    ∀ (sink : Sink) (status : UInt16) (elapsed : Duration) (world : World), status ≠ 200 →
      ∃ block events, RefusalTold sink status body elapsed world block events := by
  refine ⟨parse_some_iff body, ?_, fun sink status => report_told sink status body⟩
  intro other members others named otherNamed writes otherWrites whole otherWhole same
  exact (parse_shuffled writes otherWrites whole otherWhole same).symm

theorem gone_block_told :
    (((⟨"Block", none, false⟩ : Sink).report
      ⟨500, "\x7b\"detail\":[1e999,\x7b\x7d],\"message\":\"gone\",\"\\u0063ode\":7\x7d", .zero⟩).run
        ⟨.unlimited, ⟨[], []⟩, []⟩).2.log = [.apiError 500 ⟨7, "gone", false⟩] ∧
    ApiError.parse? "\x7b\"code\":7,\"message\":\"gone\"\x7d" =
      ApiError.parse? "\x7b\"message\":\"gone\",\"x\":null,\"code\":7\x7d" := by
  constructor
  · let body := "\x7b\"detail\":[1e999,\x7b\x7d],\"message\":\"gone\",\"\\u0063ode\":7\x7d"
    obtain ⟨_, _, reports⟩ := error_language body
    obtain ⟨block, events, told⟩ := reports ⟨"Block", none, false⟩ 500 .zero ⟨.unlimited, ⟨[], []⟩, []⟩ (by decide)
    rw [told.ran, told.warned ⟨7, "gone", false⟩ (by decide +kernel)]
    rfl
  · let seven : Numeral := ⟨false, ['7'], none, none, ⟨List.cons_ne_nil _ _, List.forall_mem_singleton.mpr rfl⟩, nofun, nofun⟩
    let code := DraftMember.plain ['c', 'o', 'd', 'e'] (.number seven) ['7']
    let message := DraftMember.plain ['m', 'e', 's', 's', 'a', 'g', 'e'] (.text (['g', 'o', 'n', 'e'].map Mark.char))
      ('"' :: (['g', 'o', 'n', 'e'] ++ ['"']))
    let other := DraftMember.plain ['x'] .null writeNull
    have codeLabel : NameSpelling code.marks code.label := plain_label ['c', 'o', 'd', 'e'] rfl _ _
    have messageLabel : NameSpelling message.marks message.label :=
      plain_label ['m', 'e', 's', 's', 'a', 'g', 'e'] rfl _ _
    have codeWritten : code.draft.Written code.text := .number seven
    have messageWritten : message.draft.Written message.text := .text (plain_marks ['g', 'o', 'n', 'e'] rfl)
    have codeResolves : Resolves code.marks "code".toList := plain_resolves ['c', 'o', 'd', 'e']
    have messageResolves : Resolves message.marks "message".toList := plain_resolves ['m', 'e', 's', 's', 'a', 'g', 'e']
    have short := @Draft.Written.object [code, message] _
      (List.forall_mem_cons.mpr ⟨codeLabel, List.forall_mem_singleton.mpr messageLabel⟩)
      (List.forall_mem_cons.mpr ⟨codeWritten, List.forall_mem_singleton.mpr messageWritten⟩)
      (.more gap_nil gap_nil (.last gap_nil gap_nil))
    have long := @Draft.Written.object [message, other, code] _
      (List.forall_mem_cons.mpr ⟨messageLabel, List.forall_mem_cons.mpr
        ⟨plain_label ['x'] rfl _ _, List.forall_mem_singleton.mpr codeLabel⟩⟩)
      (List.forall_mem_cons.mpr ⟨messageWritten, List.forall_mem_cons.mpr ⟨.null, List.forall_mem_singleton.mpr codeWritten⟩⟩)
      (.more gap_nil gap_nil (.more gap_nil gap_nil (.last gap_nil gap_nil)))
    obtain ⟨_, shuffled, _⟩ := error_language "\x7b\"message\":\"gone\",\"x\":null,\"code\":7\x7d"
    exact shuffled "\x7b\"code\":7,\"message\":\"gone\"\x7d" _ _
      [("message", message.draft), ("x", .null), ("code", code.draft)] [("code", code.draft), ("message", message.draft)]
      ⟨[], _, [], gap_nil, gap_nil, long, by decide⟩ ⟨[], _, [], gap_nil, gap_nil, short, by decide⟩
      (.cons ⟨messageResolves, rfl⟩ (.cons ⟨plain_resolves ['x'], rfl⟩ (.cons ⟨codeResolves, rfl⟩ .nil)))
      (.cons ⟨codeResolves, rfl⟩ (.cons ⟨messageResolves, rfl⟩ .nil)) (List.Perm.swap _ _ _)

-- A list of all parts holds an error too, but no part may be there twice.
example :
    ApiError.parse? "[7, \"gone\", true]" = some ⟨7, "gone", true⟩ ∧
      ApiError.parse? "\x7b\"code\":7,\"code\":7,\"message\":\"gone\"\x7d" = none := by
  decide +kernel

end NodeProbe.Rosetta
