import NodeProbe.Proofs.Client.Exchange
import NodeProbe.Proofs.Json.Recognition
import NodeProbe.Proofs.Sink.Outcome

set_option autoImplicit false

namespace NodeProbe

open Json Rosetta

theorem Client.post_json_decodes {web : Web} {client : Client} {request : Request} {history after : List Exchange}
    {response : Response} (posted : client.post web .zero request history = (.ok response, after)) :
    client.postJson web request history = (decodeResponse response, after) := by
  rw [postJson, posted]
  rfl

theorem Client.decode_refused {response : Response} {refusal : Refusal} (accepted : response.isOk = true)
    (refused : Json.parse response.body = .error refusal) :
    decodeResponse response = .error (.decode refusal.message) := by
  rw [decodeResponse, if_pos accepted, refused]

/-- A body of JSON comes to the document that it denotes, and any other body is refused, for one and the same cause. -/
theorem body_is_document (text : String) :
    (∀ draft : Draft, draft.Writes text.toList → draft.depth ≤ 127 → draft.Paired → draft.Integral →
      ∃ value, draft.Denotes value ∧ (∀ other, draft.Denotes other → other = value) ∧
        (∀ (web : Web) (client : Client) (request : Request) (history after : List Exchange) (response : Response),
          client.post web .zero request history = (.ok response, after) → response.status = 200 → response.body = text →
          client.postJson web request history = (.ok value, after)) ∧
        ∀ (sink : Sink) (world : World) (response : Response), response.status = 200 → response.body = text →
          sink.persists world.disk value = true → world.output.fits (sink.block world.disk response) = true →
          ((sink.report response).run world).1 = .ok (.success value)) ∧
    ((¬ IsJson text.toList ∨ ∃ draft : Draft, draft.Writes text.toList ∧ (128 ≤ draft.depth ∨ ¬ draft.Paired)) →
      ∃ message,
        (∀ (web : Web) (client : Client) (request : Request) (history after : List Exchange) (response : Response),
          client.post web .zero request history = (.ok response, after) → response.status = 200 → response.body = text →
          client.postJson web request history = (.error (.decode message), after)) ∧
        ∀ (sink : Sink) (world : World) (response : Response), response.status = 200 → response.body = text →
          (sink.report response).run world = (.error (.decode message), world)) := by
  constructor
  · intro draft writes shallow paired integral
    obtain ⟨value, denotes⟩ := denotes_some draft paired integral
    have parsed := parse_denoted writes denotes shallow
    refine ⟨value, denotes, fun other otherwise => denotes_once otherwise denotes, ?_, ?_⟩
    · rintro web client request history after response posted accepted rfl
      rw [Client.post_json_decodes posted, (Client.decode_ok response value).mpr ⟨decide_eq_true accepted, parsed⟩]
    · rintro sink world response accepted rfl saves fits
      exact sink.report_success world (decide_eq_true accepted) parsed saves fits
  · intro unfit
    obtain ⟨refusal, refused⟩ := parse_refused text unfit
    refine ⟨refusal.message, ?_, ?_⟩
    · rintro web client request history after response posted accepted rfl
      rw [Client.post_json_decodes posted, Client.decode_refused (decide_eq_true accepted) refused]
    · rintro sink world response accepted rfl
      exact sink.report_refused world (decide_eq_true accepted) refused

theorem negative_integer_body :
    let text := "[-7]\n"
    let document := Value.list [.number (.integer ⟨-7, by decide, by decide⟩)]
    let web := Web.scripted fun _ => .ok ⟨200, none, none, .ok (utf8 text)⟩
    ((Client.ofUrl "http://127.0.0.1:8080" (.ofSecs 5)).postJson web (Query.mempool.request .main) []).1 = .ok document ∧
      (((⟨"Block", none, false⟩ : Sink).report ⟨200, text, .zero⟩).run ⟨.unlimited, ⟨[], []⟩, []⟩).1 =
        .ok (.success document) := by
  intro text document web
  let numeral : Numeral := ⟨true, ['7'], none, none, ⟨List.cons_ne_nil _ _, List.forall_mem_singleton.mpr rfl⟩, nofun, nofun⟩
  have integer : numeral.IsInteger := ⟨rfl, rfl, by decide, by decide, by decide⟩
  have written : (Draft.list [.number numeral]).Written ['[', '-', '7', ']'] :=
    @Draft.Written.list [(.number numeral, numeral.text)] _ (List.forall_mem_singleton.mpr (.number numeral))
      (.last gap_nil gap_nil)
  have writes : (Draft.list [.number numeral]).Writes text.toList :=
    ⟨[], _, ['\n'], gap_nil, List.forall_mem_singleton.mpr rfl, written, by decide⟩
  have denotes : (Draft.list [.number numeral]).Denotes document :=
    @Draft.Denotes.list [(.number numeral, .number (.integer ⟨-7, by decide, by decide⟩))]
      (List.forall_mem_singleton.mpr (.integer numeral _ integer rfl))
  obtain ⟨value, _, unique, posts, reports⟩ :=
    (body_is_document text).1 _ writes (by decide) ⟨trivial, trivial, trivial⟩ ⟨trivial, integer, trivial⟩
  obtain rfl : document = value := unique document denotes
  have posted := @Client.post_once web (.ofUrl "http://127.0.0.1:8080" (.ofSecs 5)) (Query.mempool.request .main) []
    .zero fun _ same => Except.ok.inj same ▸ .inr rfl
  have body : web.text none (utf8 text) = text := by simp [web, Web.scripted, text_of_utf8]
  refine ⟨?_, reports _ _ ⟨200, text, .zero⟩ rfl rfl rfl rfl⟩
  rw [posts _ _ _ _ _ _ posted rfl body]

end NodeProbe
