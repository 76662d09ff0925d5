import NodeProbe.Json.Document
import NodeProbe.Response
import NodeProbe.Rosetta.Query
import NodeProbe.Settings

set_option autoImplicit false

namespace NodeProbe

open Json Rosetta

inductive Method
  | get
  | post
deriving DecidableEq, Repr

structure Message where
  method : Method
  address : String
  contentType : Option String
  body : String
deriving DecidableEq, Repr

inductive Lost
  | timeout
  | failure (detail : String)
deriving DecidableEq, Repr

/-- A response whose head has come. Its body is there if it came to its end. -/
structure Head where
  status : UInt16
  location : Option String
  contentType : Option String
  body : Except Lost Bytes

abbrev Exchange := Message × Except Lost Head

/-- The web as the HTTP library finds it: name lookup, proxies and encryption are all in `respond`. -/
structure Web where
  refusal : Option String
  respond : List Exchange → Message → Except Lost Head
  resolve : String → String → Option String
  -- The text of a body, by the type of its content.
  text : Option String → Bytes → String
  redirectLimit : Nat
  tooManyRedirects : String

/-- A web that answers by a script whatever it is asked, and has no redirects. -/
def Web.scripted (script : Nat → Except Lost Head) : Web where
  refusal := none
  respond history _ := script history.length
  resolve _ _ := none
  text _ bytes := (String.fromUTF8? bytes.toByteArray).getD ""
  redirectLimit := 0
  tooManyRedirects := "too many redirects"

def Message.redirect (message : Message) (status : UInt16) (address : String) : Option Message :=
  if status = 301 ∨ status = 302 ∨ status = 303 then some ⟨.get, address, none, ""⟩
  else if status = 307 ∨ status = 308 then some { message with address }
  else none

-- A location that cannot be read leads nowhere, and the response is handed on.
def Web.next (web : Web) (message : Message) (head : Head) : Option Message :=
  head.location.bind fun location => (web.resolve message.address location).bind (message.redirect head.status)

def Web.send (web : Web) (redirects : Nat) (message : Message) (history : List Exchange) :
    Except Lost Head × List Exchange :=
  let reply := web.respond history message
  let history := history ++ [(message, reply)]
  match reply with
  | .error lost => (.error lost, history)
  | .ok head =>
    match web.next message head, redirects with
    | none, _ => (.ok head, history)
    | some _, 0 => (.error (.failure web.tooManyRedirects), history)
    | some message, redirects + 1 => web.send redirects message history

structure Client where
  baseUrl : String
  timeout : Duration
deriving DecidableEq, Repr

namespace Client

def ofUrl (url : String) (timeout : Duration) : Client := ⟨Settings.trimSlashes url, timeout⟩

def ofSettings (settings : Settings) : Client := ofUrl settings.apiUrl (.ofSecs settings.timeoutSecs)

def create (web : Web) (settings : Settings) : Except Failure Client :=
  match web.refusal with
  | some reason => .error (.config ("Failed to build HTTP client: " ++ reason))
  | none => .ok (ofSettings settings)

def requestUrl (client : Client) (request : Request) : String := client.baseUrl ++ request.endpoint.path

def message (client : Client) (request : Request) : Message :=
  ⟨.post, client.requestUrl request, some "application/json", request.body⟩

def failure (client : Client) : Lost → Failure
  | .timeout => .timeout client.timeout.secs.toNat
  | .failure detail => .transport detail

def receive (web : Web) (client : Client) (elapsed : Duration) : Except Lost Head → Except Failure Response
  | .error lost => .error (client.failure lost)
  | .ok head =>
    match head.body with
    | .error lost => .error (client.failure lost)
    | .ok bytes => .ok ⟨head.status, web.text head.contentType bytes, elapsed⟩

def post (web : Web) (client : Client) (elapsed : Duration) (request : Request) (history : List Exchange) :
    Except Failure Response × List Exchange :=
  let sent := web.send web.redirectLimit (client.message request) history
  (client.receive web elapsed sent.1, sent.2)

def decodeResponse (response : Response) : Except Failure Value :=
  if response.isOk then
    match Json.parse response.body with
    | .ok value => .ok value
    | .error refusal => .error (.decode refusal.message)
  else .error (.status response.status response.body)

def postJson (web : Web) (client : Client) (request : Request) (history : List Exchange) :
    Except Failure Value × List Exchange :=
  let posted := client.post web .zero request history
  (posted.1.bind decodeResponse, posted.2)

end Client

end NodeProbe
