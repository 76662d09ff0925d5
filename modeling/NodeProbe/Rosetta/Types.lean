import NodeProbe.Json.Shape
import NodeProbe.Json.Typed

set_option autoImplicit false

namespace NodeProbe.Rosetta

open Json

structure NetworkIdentifier where
  blockchain : String
  network : String
deriving DecidableEq, Repr

def NetworkIdentifier.main : NetworkIdentifier := ⟨"mochimo", "mainnet"⟩

-- A block by its height, its hash, both or neither.
structure BlockIdentifier where
  index : Option Int64
  hash : Option String
deriving DecidableEq, Repr

structure AccountIdentifier where
  address : String
deriving DecidableEq, Repr

structure TransactionIdentifier where
  hash : String
deriving DecidableEq, Repr

structure OperationIdentifier where
  index : Int64
deriving DecidableEq, Repr

def NetworkIdentifier.shape : Shape NetworkIdentifier :=
  .record "NetworkIdentifier"
    (.field "blockchain" .text .refused <| .field "network" .text .refused .done)
    (fun parts => ⟨parts.1, parts.2.1⟩)
    (fun network => (network.blockchain, network.network, ()))

def BlockIdentifier.shape : Shape BlockIdentifier :=
  .record "BlockIdentifier"
    (.field "index" (.optional (.word .int64)) (.unset none) <|
      .field "hash" (.optional .text) (.unset none) .done)
    (fun parts => ⟨parts.1, parts.2.1⟩)
    (fun block => (block.index, block.hash, ()))

def AccountIdentifier.shape : Shape AccountIdentifier :=
  .record "AccountIdentifier" (.field "address" .text .refused .done)
    (fun parts => ⟨parts.1⟩) (fun account => (account.address, ()))

def TransactionIdentifier.shape : Shape TransactionIdentifier :=
  .record "TransactionIdentifier" (.field "hash" .text .refused .done)
    (fun parts => ⟨parts.1⟩) (fun transaction => (transaction.hash, ()))

def OperationIdentifier.shape : Shape OperationIdentifier :=
  .record "OperationIdentifier" (.field "index" (.word .int64) .refused .done)
    (fun parts => ⟨parts.1⟩) (fun operation => (operation.index, ()))


structure Currency where
  symbol : String
  decimals : UInt32
deriving DecidableEq, Repr

def Currency.native : Currency := ⟨"MCM", 9⟩

structure Amount where
  value : String
  currency : Currency
deriving DecidableEq, Repr

structure Operation where
  identifier : OperationIdentifier
  kind : String
  account : AccountIdentifier
  amount : Amount
deriving DecidableEq, Repr

def Operation.transfer (index : Int64) (address value : String) (currency : Currency) : Operation :=
  ⟨⟨index⟩, "TRANSFER", ⟨address⟩, ⟨value, currency⟩⟩

def Currency.shape : Shape Currency :=
  .record "Currency"
    (.field "symbol" .text .refused <| .field "decimals" (.word .uint32) .refused .done)
    (fun parts => ⟨parts.1, parts.2.1⟩)
    (fun currency => (currency.symbol, currency.decimals, ()))

def Amount.shape : Shape Amount :=
  .record "Amount"
    (.field "value" .text .refused <| .field "currency" Currency.shape .refused .done)
    (fun parts => ⟨parts.1, parts.2.1⟩)
    (fun amount => (amount.value, amount.currency, ()))

def Operation.shape : Shape Operation :=
  .record "Operation"
    (.field "operation_identifier" OperationIdentifier.shape .refused <|
      .field "type" .text .refused <|
      .field "account" AccountIdentifier.shape .refused <|
      .field "amount" Amount.shape .refused .done)
    (fun parts => ⟨parts.1, parts.2.1, parts.2.2.1, parts.2.2.2.1⟩)
    (fun operation => (operation.identifier, operation.kind, operation.account, operation.amount, ()))


structure BlockRequest where
  network : NetworkIdentifier
  block : BlockIdentifier

structure BlockTransactionRequest where
  network : NetworkIdentifier
  block : BlockIdentifier
  transaction : TransactionIdentifier

structure AccountBalanceRequest where
  network : NetworkIdentifier
  account : AccountIdentifier

structure ConstructionPreprocessRequest where
  network : NetworkIdentifier
  operations : List Operation
  metadata : Members

structure MetadataRequest where
  metadata : Members

structure NetworkRequest where
  network : NetworkIdentifier

structure MempoolTransactionRequest where
  network : NetworkIdentifier
  transaction : TransactionIdentifier

def BlockRequest.shape : Shape BlockRequest :=
  .record "BlockRequest"
    (.field "network_identifier" NetworkIdentifier.shape .refused <|
      .field "block_identifier" BlockIdentifier.shape .refused .done)
    (fun parts => ⟨parts.1, parts.2.1⟩)
    (fun request => (request.network, request.block, ()))

def BlockTransactionRequest.shape : Shape BlockTransactionRequest :=
  .record "BlockTransactionRequest"
    (.field "network_identifier" NetworkIdentifier.shape .refused <|
      .field "block_identifier" BlockIdentifier.shape .refused <|
      .field "transaction_identifier" TransactionIdentifier.shape .refused .done)
    (fun parts => ⟨parts.1, parts.2.1, parts.2.2.1⟩)
    (fun request => (request.network, request.block, request.transaction, ()))

def AccountBalanceRequest.shape : Shape AccountBalanceRequest :=
  .record "AccountBalanceRequest"
    (.field "network_identifier" NetworkIdentifier.shape .refused <|
      .field "account_identifier" AccountIdentifier.shape .refused .done)
    (fun parts => ⟨parts.1, parts.2.1⟩)
    (fun request => (request.network, request.account, ()))

def ConstructionPreprocessRequest.shape : Shape ConstructionPreprocessRequest :=
  .record "ConstructionPreprocessRequest"
    (.field "network_identifier" NetworkIdentifier.shape .refused <|
      .field "operations" (.list Operation.shape) .refused <|
      .field "metadata" .members (.default []) .done)
    (fun parts => ⟨parts.1, parts.2.1, parts.2.2.1⟩)
    (fun request => (request.network, request.operations, request.metadata, ()))

def MetadataRequest.shape : Shape MetadataRequest :=
  .record "MetadataRequest" (.field "metadata" .members (.default []) .done)
    (fun parts => ⟨parts.1⟩) (fun request => (request.metadata, ()))

def NetworkRequest.shape : Shape NetworkRequest :=
  .record "NetworkRequest" (.field "network_identifier" NetworkIdentifier.shape .refused .done)
    (fun parts => ⟨parts.1⟩) (fun request => (request.network, ()))

def MempoolTransactionRequest.shape : Shape MempoolTransactionRequest :=
  .record "MempoolTransactionRequest"
    (.field "network_identifier" NetworkIdentifier.shape .refused <|
      .field "transaction_identifier" TransactionIdentifier.shape .refused .done)
    (fun parts => ⟨parts.1, parts.2.1⟩)
    (fun request => (request.network, request.transaction, ()))


structure ApiError where
  code : Int32
  message : String
  retriable : Bool
deriving DecidableEq, Repr

def ApiError.shape : Shape ApiError :=
  .record "RosettaError"
    (.field "code" (.word .int32) .refused <|
      .field "message" .text .refused <|
      .field "retriable" .boolean (.default false) .done)
    (fun parts => ⟨parts.1, parts.2.1, parts.2.2.1⟩)
    (fun error => (error.code, error.message, error.retriable, ()))

def ApiError.parse? (body : String) : Option ApiError := (shape.decode body).toOption

end NodeProbe.Rosetta
