import NodeProbe.Json.Printer
import NodeProbe.Rosetta.Types

set_option autoImplicit false

namespace NodeProbe.Rosetta

open Json

inductive Endpoint
  | block
  | blockTransaction
  | accountBalance
  | constructionPreprocess
  | networkList
  | networkStatus
  | networkOptions
  | mempool
  | mempoolTransaction
deriving DecidableEq, Repr

def Endpoint.path : Endpoint → String
  | .block => "/block"
  | .blockTransaction => "/block/transaction"
  | .accountBalance => "/account/balance"
  | .constructionPreprocess => "/construction/preprocess"
  | .networkList => "/network/list"
  | .networkStatus => "/network/status"
  | .networkOptions => "/network/options"
  | .mempool => "/mempool"
  | .mempoolTransaction => "/mempool/transaction"

def Endpoint.Body : Endpoint → Type
  | .block => BlockRequest
  | .blockTransaction => BlockTransactionRequest
  | .accountBalance => AccountBalanceRequest
  | .constructionPreprocess => ConstructionPreprocessRequest
  | .networkList => MetadataRequest
  | .networkStatus => NetworkRequest
  | .networkOptions => NetworkRequest
  | .mempool => NetworkRequest
  | .mempoolTransaction => MempoolTransactionRequest

def Endpoint.shape : (endpoint : Endpoint) → Shape endpoint.Body
  | .block => BlockRequest.shape
  | .blockTransaction => BlockTransactionRequest.shape
  | .accountBalance => AccountBalanceRequest.shape
  | .constructionPreprocess => ConstructionPreprocessRequest.shape
  | .networkList => MetadataRequest.shape
  | .networkStatus => NetworkRequest.shape
  | .networkOptions => NetworkRequest.shape
  | .mempool => NetworkRequest.shape
  | .mempoolTransaction => MempoolTransactionRequest.shape

inductive Query
  | block (index : Option Int64) (hash : Option String)
  | blockTransaction (identifier : BlockIdentifier) (transaction : String)
  | accountBalance (address : String)
  | constructionPreprocess (operations : List Operation) (metadata : Members)
  | networkList
  | networkStatus
  | networkOptions
  | mempool
  | mempoolTransaction (transaction : String)

def Query.blockByIndex (index : Int64) : Query := .block (some index) none

def Query.blockByHash (hash : String) : Query := .block none (some hash)

def Query.endpoint : Query → Endpoint
  | .block _ _ => .block
  | .blockTransaction _ _ => .blockTransaction
  | .accountBalance _ => .accountBalance
  | .constructionPreprocess _ _ => .constructionPreprocess
  | .networkList => .networkList
  | .networkStatus => .networkStatus
  | .networkOptions => .networkOptions
  | .mempool => .mempool
  | .mempoolTransaction _ => .mempoolTransaction

def Query.body (network : NetworkIdentifier) : (query : Query) → query.endpoint.Body
  | .block index hash => (⟨network, ⟨index, hash⟩⟩ : BlockRequest)
  | .blockTransaction identifier transaction => (⟨network, identifier, ⟨transaction⟩⟩ : BlockTransactionRequest)
  | .accountBalance address => (⟨network, ⟨address⟩⟩ : AccountBalanceRequest)
  | .constructionPreprocess operations metadata =>
    (⟨network, operations, metadata⟩ : ConstructionPreprocessRequest)
  | .networkList => (⟨[]⟩ : MetadataRequest)
  | .networkStatus => (⟨network⟩ : NetworkRequest)
  | .networkOptions => (⟨network⟩ : NetworkRequest)
  | .mempool => (⟨network⟩ : NetworkRequest)
  | .mempoolTransaction transaction => (⟨network, ⟨transaction⟩⟩ : MempoolTransactionRequest)

structure Request where
  endpoint : Endpoint
  payload : Value

-- The payload's members are in order at every level.
def Query.request (network : NetworkIdentifier) (query : Query) : Request :=
  ⟨query.endpoint, (query.endpoint.shape.encode (query.body network)).sorted⟩

def Request.body (request : Request) : String := request.payload.compact

end NodeProbe.Rosetta
