import NodeProbe.Proofs.Client.Exchange

set_option autoImplicit false

namespace NodeProbe

open Json Rosetta

/-- A final answer of a server. Two statuses leave no room for a body. -/
structure Answer where
  status : UInt16
  location : Option String
  contentType : Option String
  body : Bytes
  final : 200 ≤ status
  bodiless : status = 204 ∨ status = 304 → body = []

inductive Reply
  | whole (answer : Answer)
  -- The connection is lost before the body has come to its end.
  | cut (answer : Answer) (room : answer.status ∉ [204, 304])
  | closed
  | silent

def Answer.head (answer : Answer) (body : Except Lost Bytes) : Head :=
  ⟨answer.status, answer.location, answer.contentType, body⟩

/-- What the HTTP library hands over of a reply. -/
inductive Reply.Becomes : Reply → Except Lost Head → Prop
  | whole (answer : Answer) : Becomes (.whole answer) (.ok (answer.head (.ok answer.body)))
  | cut {answer : Answer} {room : answer.status ∉ [204, 304]} (detail : String) :
      Becomes (.cut answer room) (.ok (answer.head (.error (.failure detail))))
  -- The loss may show before the head is handed over.
  | lost {answer : Answer} {room : answer.status ∉ [204, 304]} (detail : String) :
      Becomes (.cut answer room) (.error (.failure detail))
  | closed (detail : String) : Becomes .closed (.error (.failure detail))
  | silent : Becomes .silent (.error .timeout)

def Reply.Stays : Reply → Prop
  | .whole answer => answer.status ∉ [301, 302, 303, 307, 308] ∨ answer.location = none
  | .cut answer _ => answer.status ∉ [301, 302, 303, 307, 308] ∨ answer.location = none
  | .closed => True
  | .silent => True

theorem becomes_stays {reply : Reply} {handed : Except Lost Head} (becomes : reply.Becomes handed) (stays : reply.Stays) :
    Stays handed := by
  intro head same
  cases becomes with
  | whole answer =>
    cases same
    exact stays
  | cut detail =>
    cases same
    exact stays
  | lost detail => cases same
  | closed detail => cases same
  | silent => cases same

/-- The text of an answer. Where nothing marks its bytes, it is the text that they encode. -/
inductive Answer.Text (web : Web) (answer : Answer) : String → Prop
  | read : Text web answer (web.text answer.contentType answer.body)
  | unchanged {text : String} : answer.body = utf8 text → Unmarked answer.contentType text → Text web answer text

theorem text_told {web : Web} {answer : Answer} {text : String} (reads : web.Reads) (told : answer.Text web text) :
    web.text answer.contentType answer.body = text := by
  cases told with
  | read => rfl
  | unchanged same unmarked => rw [same, reads _ _ unmarked]

def Reply.handed : Reply → Except Lost Head
  | .whole answer => .ok (answer.head (.ok answer.body))
  | .cut answer _ => .ok (answer.head (.error (.failure "the body broke off")))
  | .closed => .error (.failure "the connection was closed")
  | .silent => .error .timeout

theorem handed_becomes (reply : Reply) : reply.Becomes reply.handed := by
  cases reply with
  | whole answer => exact .whole answer
  | cut answer room => exact .cut _
  | closed => exact .closed _
  | silent => exact .silent

structure Call where
  request : Request
  elapsed : Duration
  decoded : Bool

inductive Call.Result
  | response (response : Response)
  | document (value : Value)

namespace Client

def call (web : Web) (client : Client) (call : Call) (history : List Exchange) :
    Except Failure Call.Result × List Exchange :=
  if call.decoded then
    let sent := client.postJson web call.request history
    (sent.1.map .document, sent.2)
  else
    let sent := client.post web call.elapsed call.request history
    (sent.1.map .response, sent.2)

def session (web : Web) (client : Client) :
    List Call → List Exchange → List (Except Failure Call.Result) × List Exchange
  | [], history => ([], history)
  | first :: rest, history =>
    let called := client.call web first history
    let others := client.session web rest called.2
    (called.1 :: others.1, others.2)

def verdict (web : Web) (client : Client) (call : Call) : Except Lost Head → Except Failure Call.Result
  | .error .timeout => .error (.timeout client.timeout.secs.toNat)
  | .error (.failure detail) => .error (.transport detail)
  | .ok head =>
    match head.body with
    | .error .timeout => .error (.timeout client.timeout.secs.toNat)
    | .error (.failure detail) => .error (.transport detail)
    | .ok bytes =>
      let text := web.text head.contentType bytes
      if call.decoded then
        if head.status = 200 then
          match Json.parse text with
          | .ok value => .ok (.document value)
          | .error refusal => .error (.decode refusal.message)
        else .error (.status head.status text)
      else .ok (.response ⟨head.status, text, call.elapsed⟩)

variable {web : Web} (client : Client)

theorem decode_document (response : Response) :
    (decodeResponse response).map Call.Result.document =
      if response.status = 200 then
        match Json.parse response.body with
        | .ok value => .ok (.document value)
        | .error refusal => .error (.decode refusal.message)
      else .error (.status response.status response.body) := by
  unfold decodeResponse Response.isOk
  by_cases accepted : response.status = 200
  · rw [if_pos (decide_eq_true accepted), if_pos accepted]
    cases Json.parse response.body <;> rfl
  · rw [if_neg (fun same => accepted (of_decide_eq_true same)), if_neg accepted]
    rfl

theorem receive_verdict (call : Call) (reply : Except Lost Head) :
    client.verdict web call reply =
      if call.decoded then ((client.receive web .zero reply).bind decodeResponse).map .document
      else (client.receive web call.elapsed reply).map .response := by
  unfold verdict receive
  cases reply with
  | error lost => cases lost <;> cases call.decoded <;> rfl
  | ok head =>
    obtain ⟨status, location, contentType, body⟩ := head
    cases body with
    | error lost => cases lost <;> cases call.decoded <;> rfl
    | ok bytes =>
      cases call.decoded with
      | false => rfl
      | true => exact (decode_document ⟨status, web.text contentType bytes, .zero⟩).symm

theorem call_once (call : Call) (history : List Exchange)
    (stays : Stays (web.respond history (client.message call.request))) :
    client.call web call history =
      (client.verdict web call (web.respond history (client.message call.request)),
        history ++ [(client.message call.request, web.respond history (client.message call.request))]) := by
  rw [Client.call, receive_verdict]
  cases call.decoded with
  | true => rw [if_pos rfl, if_pos rfl, post_json_once client call.request history stays]
  | false =>
    rw [if_neg Bool.false_ne_true, if_neg Bool.false_ne_true,
      post_once client call.request history call.elapsed stays]

/-- What comes of a call, by the reply to it. -/
structure Judged (web : Web) (client : Client) (call : Call) (reply : Reply) (result : Except Failure Call.Result) :
    Prop where
  closed : reply = .closed → ∃ detail, result = .error (.transport detail)
  cut : ∀ answer room, reply = .cut answer room → ∃ detail, result = .error (.transport detail)
  silent : reply = .silent → result = .error (.timeout client.timeout.secs.toNat)
  handed : ∀ answer text, reply = .whole answer → answer.Text web text → call.decoded = false →
    result = .ok (.response ⟨answer.status, text, call.elapsed⟩)
  document : ∀ answer text value, reply = .whole answer → answer.Text web text → call.decoded = true →
    answer.status = 200 → Json.parse text = .ok value → result = .ok (.document value)
  undecodable : ∀ answer text refusal, reply = .whole answer → answer.Text web text → call.decoded = true →
    answer.status = 200 → Json.parse text = .error refusal → result = .error (.decode refusal.message)
  refused : ∀ answer text, reply = .whole answer → answer.Text web text → call.decoded = true →
    answer.status ≠ 200 → result = .error (.status answer.status text)

theorem lost_judged {call : Call} {reply : Reply} {result : Except Failure Call.Result}
    (broken : ∀ answer, reply ≠ .whole answer)
    (closed : reply = .closed → ∃ detail, result = .error (.transport detail))
    (cut : ∀ answer room, reply = .cut answer room → ∃ detail, result = .error (.transport detail))
    (silent : reply = .silent → result = .error (.timeout client.timeout.secs.toNat)) :
    client.Judged web call reply result where
  closed := closed
  cut := cut
  silent := silent
  handed answer _ same := absurd same (broken answer)
  document answer _ _ same := absurd same (broken answer)
  undecodable answer _ _ same := absurd same (broken answer)
  refused answer _ same := absurd same (broken answer)

theorem verdict_judged (call : Call) {reply : Reply} {handed : Except Lost Head} (reads : web.Reads)
    (becomes : reply.Becomes handed) : client.Judged web call reply (client.verdict web call handed) := by
  cases becomes with
  | cut detail => exact client.lost_judged nofun nofun (fun _ _ _ => ⟨detail, rfl⟩) nofun
  | lost detail => exact client.lost_judged nofun nofun (fun _ _ _ => ⟨detail, rfl⟩) nofun
  | closed detail => exact client.lost_judged nofun (fun _ => ⟨detail, rfl⟩) nofun nofun
  | silent => exact client.lost_judged nofun nofun nofun fun _ => rfl
  | whole answer =>
    refine ⟨nofun, nofun, nofun, ?_, ?_, ?_, ?_⟩
    · rintro _ text ⟨⟩ told raw
      simp [verdict, Answer.head, text_told reads told, raw]
    · rintro _ text value ⟨⟩ told decoded accepted parsed
      simp [verdict, Answer.head, text_told reads told, decoded, accepted, parsed]
    · rintro _ text refusal ⟨⟩ told decoded accepted refused
      simp [verdict, Answer.head, text_told reads told, decoded, accepted, refused]
    · rintro _ text ⟨⟩ told decoded other
      simp [verdict, Answer.head, text_told reads told, decoded, other]

theorem session_run (calls : List Call) (history : List Exchange)
    (stays : ∀ history request, Stays (web.respond history (client.message request))) :
    ∃ exchanges, (client.session web calls history).2 = history ++ exchanges ∧
      exchanges.map Prod.fst = calls.map (fun call => client.message call.request) ∧
      (client.session web calls history).1 =
        List.zipWith (fun call exchange => client.verdict web call exchange.2) calls exchanges ∧
      ∀ before exchange after, exchanges = before ++ exchange :: after →
        exchange.2 = web.respond (history ++ before) exchange.1 := by
  induction calls generalizing history with
  | nil => exact ⟨[], (List.append_nil history).symm, rfl, rfl, by simp⟩
  | cons call rest ih =>
    let own := (client.message call.request, web.respond history (client.message call.request))
    have here := client.call_once call history (stays history call.request)
    obtain ⟨others, after, sent, judged, replied⟩ := ih (history ++ [own])
    refine ⟨own :: others, ?_, ?_, ?_, ?_⟩
    · rw [session, here, after, List.append_assoc, List.singleton_append]
    · rw [List.map_cons, List.map_cons, sent]
    · rw [session, here, List.zipWith_cons_cons, judged]
    · intro before exchange behind split
      cases before with
      | nil =>
        cases split
        rw [List.append_nil]
      | cons first earlier =>
        obtain ⟨rfl, later⟩ := List.cons.inj split
        rw [replied earlier exchange behind later, List.append_assoc, List.singleton_append]

/-- Every call makes one exchange, and the reply to it alone decides what comes of the call. -/
theorem session_call_by_call (web : Web) (client : Client) (calls : List Call) (history : List Exchange)
    (script : Nat → Reply) (reads : web.Reads) (stays : ∀ number, (script number).Stays)
    (reaches : ∀ history request, (script history.length).Becomes (web.respond history (client.message request))) :
    ∃ exchanges, (client.session web calls history).2 = history ++ exchanges ∧
      exchanges.length = calls.length ∧ (client.session web calls history).1.length = calls.length ∧
      ∀ (number : Nat) (call : Call), calls[number]? = some call → ∃ handed,
        exchanges[number]? = some
          (⟨.post, client.baseUrl ++ call.request.endpoint.path, some "application/json", call.request.body⟩, handed) ∧
        (script (history.length + number)).Becomes handed ∧
        (client.session web calls history).1[number]? = some (client.verdict web call handed) ∧
        client.Judged web call (script (history.length + number)) (client.verdict web call handed) := by
  obtain ⟨exchanges, after, sent, judged, replied⟩ := client.session_run calls history
    fun history request => becomes_stays (reaches history request) (stays history.length)
  have sameLength : exchanges.length = calls.length := by
    rw [← List.length_map (f := Prod.fst), sent, List.length_map]
  refine ⟨exchanges, after, sameLength, ?_, ?_⟩
  · rw [judged, List.length_zipWith, sameLength, Nat.min_self]
  · intro number call issued
    obtain ⟨inside, _⟩ := List.getElem?_eq_some_iff.mp issued
    have made : number < exchanges.length := sameLength ▸ inside
    have message : exchanges[number].1 = client.message call.request := by
      have paired := congrArg (·[number]?) sent
      simpa [issued, made] using paired
    have reply := replied (exchanges.take number) exchanges[number] (exchanges.drop (number + 1))
      (by rw [← List.drop_eq_getElem_cons made, List.take_append_drop])
    have becomes : (script (history.length + number)).Becomes exchanges[number].2 := by
      have reached := reaches (history ++ exchanges.take number) call.request
      rwa [← message, ← reply, List.length_append, List.length_take_of_le (Nat.le_of_lt made)] at reached
    refine ⟨exchanges[number].2, ?_, becomes, ?_, client.verdict_judged call reads becomes⟩
    · rw [List.getElem?_eq_getElem made]
      exact congrArg some (Prod.ext message rfl)
    · rw [judged, List.getElem?_zipWith, issued, List.getElem?_eq_getElem made]

-- The reply that the second call waits for in vain takes nothing from the fourth one.
theorem call_after_silence :
    let call : Call := ⟨Query.mempool.request .main, .zero, true⟩
    let missing : Answer := ⟨404, some "/block", none, utf8 "none", by decide, by simp⟩
    let found : Answer := ⟨200, none, none, utf8 "null", by decide, by simp⟩
    let script : Nat → Reply := fun number =>
      ([.whole missing, .silent, .cut found (by decide)] : List Reply).getD number (.whole found)
    ((ofUrl "http://127.0.0.1:8080/" (.ofSecs 5)).session (.scripted fun number => (script number).handed)
      [call, { call with decoded := false }, call, call] []).1[3]? = some (.ok (.document .null)) := by
  intro call missing found script
  have stays : ∀ number, (script number).Stays
    | 0 => Or.inl (by decide)
    | 1 => trivial
    | 2 => Or.inl (by decide)
    | number + 3 => Or.inl (by decide)
  have reads := scripted_reads fun number => (script number).handed
  obtain ⟨_, _, _, _, each⟩ := session_call_by_call _ (ofUrl "http://127.0.0.1:8080/" (.ofSecs 5))
    [call, { call with decoded := false }, call, call] [] script reads stays fun _ _ => handed_becomes _
  obtain ⟨handed, _, _, result, judged⟩ := each 3 call rfl
  have told : found.Text (.scripted fun number => (script number).handed) "null" :=
    .unchanged rfl (untyped_unmarked (by decide))
  rw [result, judged.document found "null" .null rfl told rfl rfl rfl]

end Client

end NodeProbe
