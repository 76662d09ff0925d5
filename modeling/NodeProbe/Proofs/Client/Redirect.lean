import NodeProbe.Proofs.Client.Session

set_option autoImplicit false

namespace NodeProbe

open Json Rosetta

/-- A reply sends a message on to an address. -/
def Web.Leads (web : Web) (message : Message) (reply : Except Lost Head) (address : String) : Prop :=
  ∃ head location, reply = .ok head ∧ head.status ∈ [301, 302, 303, 307, 308] ∧ head.location = some location ∧
    web.resolve message.address location = some address

-- After such a redirect the client no longer posts; after any other the request is repeated.
def Replaces (reply : Except Lost Head) : Prop := ∃ head, reply = .ok head ∧ head.status ∈ [301, 302, 303]

structure Message.Bare (message : Message) : Prop where
  method : message.method = .get
  contentType : message.contentType = none
  body : message.body = ""

structure Message.Carries (message original : Message) : Prop where
  method : message.method = original.method
  contentType : message.contentType = original.contentType
  body : message.body = original.body

/-- The exchanges that one message causes, and what comes of them. -/
structure Trail (web : Web) (redirects : Nat) (message : Message) (history run : List Exchange)
    (outcome : Except Lost Head) : Prop where
  first : ∃ reply rest, run = (message, reply) :: rest
  short : run.length ≤ redirects + 1
  replied : ∀ before exchange after, run = before ++ exchange :: after →
    exchange.2 = web.respond (history ++ before) exchange.1
  led : ∀ before exchange next after, run = before ++ exchange :: next :: after →
    web.Leads exchange.1 exchange.2 next.1.address
  carried : ∀ before exchange after, run = before ++ exchange :: after →
    (∀ earlier ∈ before, ¬ Replaces earlier.2) → exchange.1.Carries message
  bare : ∀ before exchange after, run = before ++ exchange :: after →
    (∃ earlier ∈ before, Replaces earlier.2) → exchange.1.Bare
  settled : ∀ before last, run = before ++ [last] → (∀ address, ¬ web.Leads last.1 last.2 address) → outcome = last.2
  stopped : ∀ before last address, run = before ++ [last] → web.Leads last.1 last.2 address →
    run.length = redirects + 1 ∧ outcome = .error (.failure web.tooManyRedirects)

variable {web : Web} {redirects : Nat} {message other : Message} {history run : List Exchange}
  {outcome : Except Lost Head}

theorem redirect_none {status : UInt16} {address : String} (none : message.redirect status address = none) :
    status ∉ [301, 302, 303, 307, 308] := by
  intro moved
  simp only [List.mem_cons, List.not_mem_nil, or_false] at moved
  unfold Message.redirect at none
  split at none
  · cases none
  · rename_i posts
    have again := moved.resolve_left fun same => posts (.inl same)
    have again := again.resolve_left fun same => posts (.inr (.inl same))
    rw [if_pos (again.resolve_left fun same => posts (.inr (.inr same)))] at none
    cases none

theorem redirect_some {status : UInt16} {address : String} (some : message.redirect status address = some other) :
    other.address = address ∧ status ∈ [301, 302, 303, 307, 308] ∧ (status ∉ [301, 302, 303] → other.Carries message) ∧
      (status ∈ [301, 302, 303] → other.Bare) := by
  simp only [List.mem_cons, List.not_mem_nil, or_false]
  unfold Message.redirect at some
  split at some
  · rename_i replaced
    cases some
    refine ⟨rfl, ?_, fun kept => absurd replaced kept, fun _ => ⟨rfl, rfl, rfl⟩⟩
    rcases replaced with moved | found | other
    · exact .inl moved
    · exact .inr (.inl found)
    · exact .inr (.inr (.inl other))
  · rename_i posts
    split at some
    · rename_i repeated
      cases some
      exact ⟨rfl, .inr (.inr (.inr repeated)), fun _ => ⟨rfl, rfl, rfl⟩, fun replaced => absurd replaced posts⟩
    · cases some

theorem next_none {head : Head} (none : web.next message head = none) (address : String) :
    ¬ web.Leads message (.ok head) address := by
  rintro ⟨_, location, ⟨⟩, moved, located, resolved⟩
  rw [Web.next, located, Option.bind_some, resolved, Option.bind_some] at none
  exact redirect_none none moved

theorem next_some {head : Head} (some : web.next message head = some other) :
    web.Leads message (.ok head) other.address ∧ (¬ Replaces (.ok head) → other.Carries message) ∧
      (Replaces (.ok head) → other.Bare) := by
  obtain ⟨location, located, found⟩ := Option.bind_eq_some_iff.mp some
  obtain ⟨address, resolved, redirected⟩ := Option.bind_eq_some_iff.mp found
  obtain ⟨rfl, moved, kept, replaced⟩ := redirect_some redirected
  refine ⟨⟨head, location, rfl, moved, located, resolved⟩, ?_, ?_⟩
  · exact fun keeps => kept fun within => keeps ⟨head, rfl, within⟩
  · rintro ⟨_, ⟨⟩, within⟩
    exact replaced within

theorem single_split {own exchange : Exchange} {before after : List Exchange}
    (split : [own] = before ++ exchange :: after) : before = [] ∧ exchange = own ∧ after = [] := by
  cases before with
  | nil =>
    cases split
    exact ⟨rfl, rfl, rfl⟩
  | cons first before =>
    have nothing := (List.cons.inj split).2
    simp at nothing

theorem trail_last
    (settled : (∀ address, ¬ web.Leads message (web.respond history message) address) →
      outcome = web.respond history message)
    (stopped : ∀ address, web.Leads message (web.respond history message) address →
      redirects = 0 ∧ outcome = .error (.failure web.tooManyRedirects)) :
    Trail web redirects message history [(message, web.respond history message)] outcome := by
  constructor
  · exact ⟨_, [], rfl⟩
  · exact Nat.le_add_left 1 redirects
  · intro before exchange after split
    obtain ⟨rfl, rfl, _⟩ := single_split split
    rw [List.append_nil]
  · intro before exchange next after split
    obtain ⟨_, _, more⟩ := single_split split
    cases more
  · intro before exchange after split _
    obtain ⟨_, rfl, _⟩ := single_split split
    exact ⟨rfl, rfl, rfl⟩
  · rintro before exchange after split ⟨earlier, within, _⟩
    obtain ⟨rfl, _⟩ := single_split split
    cases within
  · intro before last split nowhere
    obtain ⟨_, rfl, _⟩ := single_split split
    exact settled nowhere
  · intro before last address split leads
    obtain ⟨_, rfl, _⟩ := single_split split
    obtain ⟨rfl, same⟩ := stopped address leads
    exact ⟨rfl, same⟩

theorem trail_cons (leads : web.Leads message (web.respond history message) other.address)
    (kept : ¬ Replaces (web.respond history message) → other.Carries message)
    (replaced : Replaces (web.respond history message) → other.Bare)
    (trail : Trail web redirects other (history ++ [(message, web.respond history message)]) run outcome) :
    Trail web (redirects + 1) message history ((message, web.respond history message) :: run) outcome := by
  obtain ⟨⟨reply, rest, begins⟩, short, replied, led, carried, bare, settled, stopped⟩ := trail
  constructor
  · exact ⟨_, run, rfl⟩
  · exact Nat.succ_le_succ short
  · intro before exchange after split
    cases before with
    | nil =>
      cases split
      rw [List.append_nil]
    | cons own before =>
      obtain ⟨rfl, later⟩ := List.cons.inj split
      rw [replied before exchange after later, List.append_assoc, List.singleton_append]
  · intro before exchange next after split
    cases before with
    | nil =>
      obtain ⟨rfl, later⟩ := List.cons.inj split
      obtain ⟨rfl, _⟩ := List.cons.inj (begins.symm.trans later)
      exact leads
    | cons own before => exact led before exchange next after (List.cons.inj split).2
  · intro before exchange after split none
    cases before with
    | nil =>
      cases split
      exact ⟨rfl, rfl, rfl⟩
    | cons own before =>
      obtain ⟨rfl, later⟩ := List.cons.inj split
      obtain ⟨here, others⟩ := List.forall_mem_cons.mp none
      obtain ⟨method, contentType, body⟩ := carried before exchange after later others
      obtain ⟨sameMethod, sameType, sameBody⟩ := kept here
      exact ⟨method.trans sameMethod, contentType.trans sameType, body.trans sameBody⟩
  · intro before exchange after split some
    cases before with
    | nil =>
      obtain ⟨_, within, _⟩ := some
      cases within
    | cons own before =>
      obtain ⟨rfl, later⟩ := List.cons.inj split
      by_cases behind : ∃ earlier ∈ before, Replaces earlier.2
      · exact bare before exchange after later behind
      · have here : Replaces (web.respond history message) := by
          obtain ⟨earlier, within, held⟩ := some
          rcases List.mem_cons.mp within with rfl | later
          · exact held
          · exact absurd ⟨earlier, later, held⟩ behind
        obtain ⟨method, contentType, body⟩ := carried before exchange after later
          fun earlier within held => behind ⟨earlier, within, held⟩
        obtain ⟨get, untyped, empty⟩ := replaced here
        exact ⟨method.trans get, contentType.trans untyped, body.trans empty⟩
  · intro before last split nowhere
    cases before with
    | nil => rw [begins] at split; cases split
    | cons own before => exact settled before last (List.cons.inj split).2 nowhere
  · intro before last address split onward
    cases before with
    | nil => rw [begins] at split; cases split
    | cons own before =>
      obtain ⟨long, same⟩ := stopped before last address (List.cons.inj split).2 onward
      exact ⟨congrArg Nat.succ long, same⟩

theorem send_trail (web : Web) (redirects : Nat) (message : Message) (history : List Exchange) :
    ∃ run, (web.send redirects message history).2 = history ++ run ∧
      Trail web redirects message history run (web.send redirects message history).1 := by
  fun_induction Web.send web redirects message history with
  | case1 redirects message history reply extended lost replied =>
    refine ⟨[(message, reply)], rfl, trail_last (fun _ => replied.symm) ?_⟩
    rintro address ⟨_, _, same, _⟩
    cases replied.symm.trans same
  | case2 redirects message history reply extended head replied none =>
    refine ⟨[(message, reply)], rfl, trail_last (fun _ => replied.symm) ?_⟩
    intro address leads
    exact absurd (replied ▸ leads) (next_none none address)
  | case3 message history reply extended head replied other some =>
    refine ⟨[(message, reply)], rfl, trail_last (fun nowhere => ?_) fun _ _ => ⟨rfl, rfl⟩⟩
    refine absurd ?_ (nowhere other.address)
    rw [show web.respond history message = .ok head from replied]
    exact (next_some some).1
  | case4 message history reply extended head replied other redirects some ih =>
    obtain ⟨run, after, trail⟩ := ih
    obtain ⟨leads, kept, replaced⟩ := next_some some
    rw [← replied] at leads kept replaced
    refine ⟨(message, reply) :: run, ?_, trail_cons leads kept replaced trail⟩
    rw [after, List.append_assoc, List.singleton_append]

namespace Client

variable (client : Client)

theorem call_sends (call : Call) (history : List Exchange) :
    client.call web call history =
      (client.verdict web call (web.send web.redirectLimit (client.message call.request) history).1,
        (web.send web.redirectLimit (client.message call.request) history).2) := by
  rw [Client.call, receive_verdict]
  cases call.decoded <;> rfl

/-- However the replies send it around, every call makes its own exchanges, one after the other. -/
theorem session_pursues (web : Web) (client : Client) (calls : List Call) (history : List Exchange) :
    ∃ runs : List (List Exchange), runs.length = calls.length ∧
      (client.session web calls history).1.length = calls.length ∧
      (client.session web calls history).2 = history ++ runs.flatten ∧
      ∀ number call run result, calls[number]? = some call → runs[number]? = some run →
        (client.session web calls history).1[number]? = some result →
        ∃ outcome, result = client.verdict web call outcome ∧
          Trail web web.redirectLimit
            ⟨.post, client.baseUrl ++ call.request.endpoint.path, some "application/json", call.request.body⟩
            (history ++ (runs.take number).flatten) run outcome := by
  induction calls generalizing history with
  | nil => exact ⟨[], rfl, rfl, (List.append_nil history).symm, by simp⟩
  | cons call rest ih =>
    obtain ⟨run, after, trail⟩ := send_trail web web.redirectLimit (client.message call.request) history
    have called := @call_sends web client call history
    obtain ⟨runs, sameLength, allResults, later, each⟩ := ih (client.call web call history).2
    have behind : (client.call web call history).2 = history ++ run := by rw [called, after]
    rw [behind] at later each
    refine ⟨run :: runs, congrArg Nat.succ sameLength, congrArg Nat.succ allResults, ?_, ?_⟩
    · rw [session, behind, later, List.append_assoc, List.flatten_cons]
    · intro number other own result issued made given
      cases number with
      | zero =>
        cases issued
        cases made
        cases given
        refine ⟨_, congrArg Prod.fst called, ?_⟩
        rwa [List.take_zero, List.flatten_nil, List.append_nil]
      | succ number =>
        obtain ⟨outcome, judged, pursued⟩ := each number other own result issued made (behind ▸ given)
        refine ⟨outcome, judged, ?_⟩
        rwa [List.take_succ_cons, List.flatten_cons, ← List.append_assoc]

/-- A whole reply with another status is not handed back, and the second request carries no body. -/
theorem redirect_not_handed_back :
    let client := ofUrl "http://127.0.0.1:8080" (.ofSecs 5)
    let request := Query.mempool.request .main
    let web (location : String) (other : Except Lost Head) : Web :=
      { Web.scripted (fun number => if number = 0 then .ok ⟨302, some location, none, .ok (utf8 "moved")⟩ else other) with
        resolve := fun _ location => some (if location = "/elsewhere" then "http://127.0.0.1:8080/elsewhere" else location)
        redirectLimit := 9 }
    (client.post (web "http://127.0.0.1:1/" (.error (.failure "refused"))) .zero request []).1 =
        .error (.transport "refused") ∧
      ((client.post (web "/elsewhere" (.ok ⟨200, none, none, .ok (utf8 "\x7b\x7d")⟩)) .zero request []).2.map Prod.fst =
        [⟨.post, "http://127.0.0.1:8080/mempool", some "application/json", request.body⟩,
          ⟨.get, "http://127.0.0.1:8080/elsewhere", none, ""⟩]) := by
  decide +kernel

end Client

end NodeProbe
