import NodeProbe.Proofs.Json.Alike
import NodeProbe.Proofs.Json.ByteOrder
import NodeProbe.Proofs.Sink.Outcome
import NodeProbe.Rosetta.Query

set_option autoImplicit false

namespace NodeProbe

open Json Rosetta

theorem parse_read {draft : Draft} {text : String} {document : Value} (writes : draft.Writes text.toList)
    (parsed : Json.parse text = .ok document) : draft.read depthLimit = .ok document := by
  have own := parse_written writes
  cases read : draft.read depthLimit with
  | ok value =>
    rw [read] at own
    rw [← Except.ok.inj (parsed.symm.trans own)]
  | error cause =>
    rw [read] at own
    obtain ⟨_, refused⟩ := own
    cases parsed.symm.trans refused

theorem parse_canonical {text : String} {document : Value} (parsed : Json.parse text = .ok document) :
    document.Canonical := by
  obtain ⟨draft, writes⟩ := parse_is_json text document parsed
  exact means_canonical (read_means (parse_read writes parsed))

theorem members_read {draft : Draft} {text : String} {members : Members} (writes : draft.Writes text.toList)
    (decoded : Shape.members.decode text = .ok members) : draft.read depthLimit = .ok (.object members) := by
  have read := decode_written Shape.members writes
  rw [decoded] at read
  exact (read_members_iff depthLimit draft members).mp read.symm

section Texts

variable {first second : String} {draft other : Draft} (writes : draft.Writes first.toList)
  (otherWrites : other.Writes second.toList) (alike : draft.Alike other)

include writes otherWrites alike

theorem parse_alike {value another : Value} (parsed : Json.parse first = .ok value)
    (otherParsed : Json.parse second = .ok another) : value = another :=
  alike_read alike (parse_read writes parsed) (parse_read otherWrites otherParsed)

theorem members_alike {members others : Members} (decoded : Shape.members.decode first = .ok members)
    (otherDecoded : Shape.members.decode second = .ok others) : members = others :=
  Value.object.inj (alike_read alike (members_read writes decoded) (members_read otherWrites otherDecoded))

end Texts

theorem report_parsed (sink : Sink) {first second : String} {value : Value} (parsed : Json.parse first = .ok value)
    (otherParsed : Json.parse second = .ok value) (elapsed : Duration) :
    sink.report ⟨200, first, elapsed⟩ = sink.report ⟨200, second, elapsed⟩ := by
  have accepted : ∀ body, (Response.mk 200 body elapsed).isOk = true := fun _ => rfl
  rw [Sink.report, Sink.report, sink.judge_accepted (accepted first) parsed, sink.judge_accepted (accepted second) otherParsed]

/-- A text of a document whose members ascend at every level. -/
structure Ascending (text : String) : Prop where
  written : ∃ draft : Draft, draft.Writes text.toList
  ascends : ∀ draft : Draft, draft.Writes text.toList → draft.Ascends

/-- Two texts that no output can tell apart. -/
structure SameOutput (first second : String) : Prop where
  document : ∀ value another, Json.parse first = .ok value → Json.parse second = .ok another → value = another
  report : ∀ value another, Json.parse first = .ok value → Json.parse second = .ok another →
    ∀ (sink : Sink) (elapsed : Duration) (world : World),
      (sink.report ⟨200, first, elapsed⟩).run world = (sink.report ⟨200, second, elapsed⟩).run world
  body : ∀ metadata others, Shape.members.decode first = .ok metadata → Shape.members.decode second = .ok others →
    ∀ (network : NetworkIdentifier) (operations : List Operation),
      ((Query.constructionPreprocess operations metadata).request network).body =
        ((Query.constructionPreprocess operations others).request network).body

theorem render_ascends (document : Value) (canonical : document.Canonical) :
    ∃ text, document.render = .ok text ∧ Ascending text := by
  obtain ⟨written, ascends⟩ := printed_ascends (pretty_printed document 0) canonical
  refine ⟨document.pretty, render_pretty document, ?_, ?_⟩
  · rwa [Value.pretty, String.toList_ofList]
  · rwa [Value.pretty, String.toList_ofList]

theorem body_ascends (network : NetworkIdentifier) (query : Query) : Ascending (query.request network).body := by
  obtain ⟨written, ascends⟩ := printed_ascends (compact_printed (query.request network).payload) (sorted_canonical _)
  constructor
  · rwa [Request.body, Value.compact, String.toList_ofList]
  · rwa [Request.body, Value.compact, String.toList_ofList]

/-- Texts of one document give the same output, and in every output the members ascend. -/
theorem output_canonical :
    (∀ (first second : String) (draft other : Draft), draft.Writes first.toList → other.Writes second.toList →
      draft.Alike other → SameOutput first second) ∧
    (∀ text document, Json.parse text = .ok document → document.Canonical) ∧
    (∀ document : Value, document.Canonical → ∃ text, document.render = .ok text ∧ Ascending text) ∧
    ∀ (network : NetworkIdentifier) (query : Query), Ascending (query.request network).body := by
  refine ⟨?_, fun _ _ => parse_canonical, render_ascends, body_ascends⟩
  intro first second draft other writes otherWrites alike
  have same : ∀ value another, Json.parse first = .ok value → Json.parse second = .ok another → value = another :=
    fun _ _ => parse_alike writes otherWrites alike
  refine ⟨same, ?_, ?_⟩
  · intro value another parsed otherParsed sink elapsed world
    obtain rfl := same value another parsed otherParsed
    rw [report_parsed sink parsed otherParsed elapsed]
  · intro metadata others decoded otherDecoded network operations
    rw [members_alike writes otherWrites alike decoded otherDecoded]

theorem member_order_unseen :
    let first := "\x7b\"b\":null,\"a\":true\x7d"
    let second := " \x7b\"a\":true,\"b\":null\x7d"
    let report := fun body => ((⟨"Block", none, false⟩ : Sink).report ⟨200, body, .zero⟩).run ⟨.unlimited, ⟨[], []⟩, []⟩
    let sent := fun metadata => ((Query.constructionPreprocess [] metadata).request .main).body
    report first = report second ∧
      (∃ metadata others, Shape.members.decode first = .ok metadata ∧ Shape.members.decode second = .ok others ∧
        sent metadata = sent others) ∧
      ∃ document text, Json.parse first = .ok document ∧ document.render = .ok text ∧
        ∀ draft : Draft, draft.Writes text.toList → draft.Ascends := by
  intro first second report sent
  let absent := DraftMember.plain ['b'] .null writeNull
  let present := DraftMember.plain ['a'] (.boolean true) (writeBoolean true)
  have named : ∀ entry ∈ [absent, present], NameSpelling entry.marks entry.label :=
    List.forall_mem_cons.mpr ⟨plain_label ['b'] rfl _ _, List.forall_mem_singleton.mpr (plain_label ['a'] rfl _ _)⟩
  have written : ∀ entry ∈ [absent, present], entry.draft.Written entry.text :=
    List.forall_mem_cons.mpr ⟨.null, List.forall_mem_singleton.mpr (.boolean true)⟩
  have swapped : ∀ {holds : DraftMember → Prop}, (∀ entry ∈ [absent, present], holds entry) →
      ∀ entry ∈ [present, absent], holds entry :=
    fun each entry among => each entry ((List.Perm.swap absent present []).mem_iff.mp among)
  have object := Draft.Written.object named written (.more gap_nil gap_nil (.last gap_nil gap_nil))
  have other := Draft.Written.object (swapped named) (swapped written) (.more gap_nil gap_nil (.last gap_nil gap_nil))
  have alike : (Draft.object [(absent.marks, absent.draft), (present.marks, present.draft)]).Alike
      (.object [(present.marks, present.draft), (absent.marks, absent.draft)]) :=
    .moved [] [] (plain_resolves ['b']) (plain_resolves ['a']) (by decide)
  have writes : Draft.Writes _ "\x7b\"b\":null,\"a\":true\x7d".toList :=
    ⟨[], _, [], gap_nil, gap_nil, object, by decide⟩
  have otherWrites : Draft.Writes _ " \x7b\"a\":true,\"b\":null\x7d".toList :=
    ⟨[' '], _, [], List.forall_mem_singleton.mpr rfl, gap_nil, other, by decide⟩
  have accepted : ∀ {α ε : Type} {outcome : Except ε α}, outcome.toOption.isSome = true → ∃ value, outcome = .ok value :=
    fun some => (Option.isSome_iff_exists.mp some).imp fun _ => to_option_some.mp
  obtain ⟨value, parsed⟩ : ∃ value, Json.parse first = .ok value := accepted (by decide +kernel)
  obtain ⟨another, otherParsed⟩ : ∃ value, Json.parse second = .ok value := accepted (by decide +kernel)
  obtain ⟨metadata, decoded⟩ : ∃ members, Shape.members.decode first = .ok members := accepted (by decide +kernel)
  obtain ⟨others, otherDecoded⟩ : ∃ members, Shape.members.decode second = .ok members := accepted (by decide +kernel)
  obtain ⟨same, canonical, renders, _⟩ := output_canonical
  have output := same _ _ _ _ writes otherWrites alike
  obtain ⟨text, rendered, ascending⟩ := renders value (canonical _ _ parsed)
  exact ⟨output.report value another parsed otherParsed _ _ _, ⟨metadata, others, decoded, otherDecoded,
    output.body metadata others decoded otherDecoded .main []⟩, value, text, parsed, rendered, ascending.ascends⟩

-- A name that is escaped and a member that gives way leave no trace.
example :
    (Json.parse "\x7b\"b\":\"x\",\"a\":[2]\x7d").toOption.map Value.pretty =
      (Json.parse "\x7b \"a\": 5, \"\\u0061\" : [2], \"b\": \"\\u0078\" \x7d").toOption.map Value.pretty := by
  decide +kernel

end NodeProbe
