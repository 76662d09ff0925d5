import NodeProbe.Client
import NodeProbe.Proofs.Json.Rendering

set_option autoImplicit false

namespace NodeProbe

open Json Rosetta

/-- A reply that does not send the client elsewhere. -/
def Stays (reply : Except Lost Head) : Prop :=
  ∀ head, reply = .ok head → head.status ∉ [301, 302, 303, 307, 308] ∨ head.location = none

def Web.Stays (web : Web) : Prop := ∀ history message, NodeProbe.Stays (web.respond history message)

/-- A reply that came to its end, with its status and its text. -/
def Web.Brings (web : Web) (reply : Except Lost Head) (status : UInt16) (text : String) : Prop :=
  ∃ head bytes, reply = .ok head ∧ head.body = .ok bytes ∧ head.status = status ∧ web.text head.contentType bytes = text

/-- A reply that came to its end, was accepted and is a document. -/
def Web.Serves (web : Web) (reply : Except Lost Head) (value : Value) : Prop :=
  ∃ text, web.Brings reply 200 text ∧ Json.parse text = .ok value

-- Neither a charset nor a byte order mark says that the bytes are anything but UTF-8.
structure Unmarked (contentType : Option String) (text : String) : Prop where
  charset : ∀ type, contentType = some type → ¬ "charset".toList <:+: type.toList.map Char.toLower
  mark : text.toList.head? ≠ some '\uFEFF'

theorem untyped_unmarked {text : String} (mark : text.toList.head? ≠ some '\uFEFF') : Unmarked none text := ⟨nofun, mark⟩

/-- UTF-8 that nothing marks as anything else is read as the text that it encodes. -/
def Web.Reads (web : Web) : Prop :=
  ∀ contentType text, Unmarked contentType text → web.text contentType (utf8 text) = text

variable {web : Web}

theorem scripted_reads (script : Nat → Except Lost Head) : (Web.scripted script).Reads := by
  intro contentType text _
  simp [Web.scripted, text_of_utf8]

theorem reads_brings (reads : web.Reads) {head : Head} {text : String} (whole : head.body = .ok (utf8 text))
    (unmarked : Unmarked head.contentType text) : web.Brings (.ok head) head.status text :=
  ⟨head, utf8 text, rfl, whole, rfl, reads head.contentType text unmarked⟩

theorem brings_once {reply : Except Lost Head} {status other : UInt16} {text same : String}
    (brings : web.Brings reply status text) (again : web.Brings reply other same) : status = other ∧ text = same := by
  obtain ⟨head, bytes, rfl, whole, rfl, rfl⟩ := brings
  obtain ⟨_, _, ⟨⟩, body, rfl, rfl⟩ := again
  cases whole.symm.trans body
  exact ⟨rfl, rfl⟩

theorem serves_iff {reply : Except Lost Head} {status : UInt16} {text : String} (brings : web.Brings reply status text)
    (value : Value) : web.Serves reply value ↔ status = 200 ∧ Json.parse text = .ok value := by
  constructor
  · rintro ⟨_, again, parsed⟩
    obtain ⟨rfl, rfl⟩ := brings_once brings again
    exact ⟨rfl, parsed⟩
  · rintro ⟨rfl, parsed⟩
    exact ⟨text, brings, parsed⟩

theorem redirect_stays (message : Message) (status : UInt16) (address : String)
    (stays : status ∉ [301, 302, 303, 307, 308]) : message.redirect status address = none := by
  simp only [List.mem_cons, List.not_mem_nil, or_false, not_or] at stays
  obtain ⟨moved, found, other, temporary, permanent⟩ := stays
  rw [Message.redirect, if_neg (by simp [moved, found, other]), if_neg (by simp [temporary, permanent])]

theorem next_stays (message : Message) (head : Head) (stays : Stays (.ok head)) : web.next message head = none := by
  rcases stays head rfl with notMoved | absent
  · have nowhere : message.redirect head.status = fun _ => none :=
      funext fun address => redirect_stays message head.status address notMoved
    simp only [Web.next, nowhere, Option.bind_fun_none]
  · rw [Web.next, absent, Option.bind_none]

theorem send_once (redirects : Nat) (message : Message) (history : List Exchange)
    (stays : Stays (web.respond history message)) :
    web.send redirects message history =
      (web.respond history message, history ++ [(message, web.respond history message)]) := by
  rw [Web.send]
  cases replied : web.respond history message with
  | error lost => rfl
  | ok head =>
    rw [replied] at stays
    dsimp only
    rw [next_stays message head stays]

namespace Client

variable (client : Client) (request : Request) (history : List Exchange)

theorem post_once (elapsed : Duration) (stays : Stays (web.respond history (client.message request))) :
    client.post web elapsed request history =
      (client.receive web elapsed (web.respond history (client.message request)),
        history ++ [(client.message request, web.respond history (client.message request))]) := by
  rw [post, send_once _ _ history stays]

theorem post_json_once (stays : Stays (web.respond history (client.message request))) :
    client.postJson web request history =
      ((client.receive web .zero (web.respond history (client.message request))).bind decodeResponse,
        history ++ [(client.message request, web.respond history (client.message request))]) := by
  rw [postJson, post_once client request history .zero stays]

theorem decode_ok (response : Response) (value : Value) :
    decodeResponse response = .ok value ↔ response.isOk = true ∧ Json.parse response.body = .ok value := by
  unfold decodeResponse
  cases response.isOk with
  | false => exact ⟨nofun, nofun⟩
  | true =>
    rw [if_pos rfl]
    cases Json.parse response.body with
    | error refusal => exact ⟨nofun, nofun⟩
    | ok own =>
      constructor
      · intro same
        cases same
        exact ⟨rfl, rfl⟩
      · rintro ⟨_, same⟩
        cases same
        rfl

theorem receive_brings {reply : Except Lost Head} {status : UInt16} {text : String} (brings : web.Brings reply status text)
    (elapsed : Duration) : client.receive web elapsed reply = .ok ⟨status, text, elapsed⟩ := by
  obtain ⟨head, bytes, rfl, whole, rfl, rfl⟩ := brings
  rw [receive, whole]

theorem receive_error {reply : Except Lost Head} (nothing : ∀ status text, ¬ web.Brings reply status text)
    (elapsed : Duration) : ∃ failure, client.receive web elapsed reply = .error failure := by
  cases reply with
  | error lost => exact ⟨_, rfl⟩
  | ok head =>
    cases body : head.body with
    | error lost => exact ⟨client.failure lost, by rw [receive, body]⟩
    | ok bytes => exact absurd ⟨head, bytes, rfl, body, rfl, rfl⟩ (nothing _ _)

theorem receive_decodes (elapsed : Duration) (reply : Except Lost Head) (value : Value) :
    (client.receive web elapsed reply).bind decodeResponse = .ok value ↔ web.Serves reply value := by
  by_cases whole : ∃ status text, web.Brings reply status text
  · obtain ⟨status, text, brings⟩ := whole
    rw [client.receive_brings brings]
    exact (decode_ok ⟨status, text, elapsed⟩ value).trans
      ((and_congr_left' decide_eq_true_iff).trans (serves_iff brings value).symm)
  · obtain ⟨failure, failed⟩ := client.receive_error (fun status text brings => whole ⟨status, text, brings⟩) elapsed
    rw [failed]
    exact ⟨nofun, fun ⟨text, brings, _⟩ => absurd ⟨200, text, brings⟩ whole⟩

end Client

end NodeProbe
