import NodeProbe.Proofs.Json.Codec
import NodeProbe.Rosetta.Query

set_option autoImplicit false

namespace NodeProbe.Rosetta

open Json

def Query.metadata : Query → Members
  | .constructionPreprocess _ metadata => metadata
  | _ => []

-- The metadata maps names to values at every level, and none of its numbers is a float.
structure Query.Plain (query : Query) : Prop where
  canonical : (Value.object query.metadata).Canonical
  exact : (Value.object query.metadata).Exact

theorem network_lawful : NetworkIdentifier.shape.Lawful :=
  ⟨by decide, ⟨trivial, trivial, trivial⟩, fun _ => rfl⟩

theorem block_lawful : BlockIdentifier.shape.Lawful :=
  ⟨by decide, ⟨⟨trivial, fun _ => nofun⟩, ⟨trivial, fun _ => nofun⟩, trivial⟩, fun _ => rfl⟩

theorem account_lawful : AccountIdentifier.shape.Lawful := ⟨by decide, ⟨trivial, trivial⟩, fun _ => rfl⟩

theorem transaction_lawful : TransactionIdentifier.shape.Lawful := ⟨by decide, ⟨trivial, trivial⟩, fun _ => rfl⟩

theorem operation_identifier_lawful : OperationIdentifier.shape.Lawful := ⟨by decide, ⟨trivial, trivial⟩, fun _ => rfl⟩

theorem currency_lawful : Currency.shape.Lawful := ⟨by decide, ⟨trivial, trivial, trivial⟩, fun _ => rfl⟩

theorem amount_lawful : Amount.shape.Lawful := ⟨by decide, ⟨trivial, currency_lawful, trivial⟩, fun _ => rfl⟩

theorem operation_lawful : Operation.shape.Lawful :=
  ⟨by decide, ⟨operation_identifier_lawful, trivial, account_lawful, amount_lawful, trivial⟩, fun _ => rfl⟩

theorem network_request_lawful : NetworkRequest.shape.Lawful :=
  ⟨by decide, ⟨network_lawful, trivial⟩, fun _ => rfl⟩

theorem endpoint_lawful (endpoint : Endpoint) : endpoint.shape.Lawful := by
  cases endpoint with
  | block => exact ⟨by decide, ⟨network_lawful, block_lawful, trivial⟩, fun _ => rfl⟩
  | blockTransaction => exact ⟨by decide, ⟨network_lawful, block_lawful, transaction_lawful, trivial⟩, fun _ => rfl⟩
  | accountBalance => exact ⟨by decide, ⟨network_lawful, account_lawful, trivial⟩, fun _ => rfl⟩
  | constructionPreprocess => exact ⟨by decide, ⟨network_lawful, operation_lawful, trivial, trivial⟩, fun _ => rfl⟩
  | networkList => exact ⟨by decide, ⟨trivial, trivial⟩, fun _ => rfl⟩
  | networkStatus => exact network_request_lawful
  | networkOptions => exact network_request_lawful
  | mempool => exact network_request_lawful
  | mempoolTransaction => exact ⟨by decide, ⟨network_lawful, transaction_lawful, trivial⟩, fun _ => rfl⟩

theorem body_open (holds : Value → Prop) (network : NetworkIdentifier) (query : Query)
    (opened : holds (.object query.metadata)) : query.endpoint.shape.Open holds (query.body network) := by
  have wholeNetwork : NetworkIdentifier.shape.Open holds network := ⟨trivial, trivial, trivial⟩
  have wholeBlock : ∀ block : BlockIdentifier, BlockIdentifier.shape.Open holds block := by
    rintro ⟨index, hash⟩
    cases index <;> cases hash <;> exact ⟨trivial, trivial, trivial⟩
  cases query with
  | block index hash => exact ⟨wholeNetwork, wholeBlock ⟨index, hash⟩, trivial⟩
  | blockTransaction identifier transaction =>
    exact ⟨wholeNetwork, wholeBlock identifier, ⟨trivial, trivial⟩, trivial⟩
  | accountBalance address => exact ⟨wholeNetwork, ⟨trivial, trivial⟩, trivial⟩
  | constructionPreprocess operations metadata =>
    have each : ∀ operation ∈ operations, Operation.shape.Open holds operation := by
      intro operation _
      have amount : Amount.shape.Open holds operation.amount := ⟨trivial, ⟨trivial, trivial, trivial⟩, trivial⟩
      exact ⟨⟨trivial, trivial⟩, trivial, ⟨trivial, trivial⟩, amount, trivial⟩
    exact ⟨wholeNetwork, each, opened, trivial⟩
  | networkList => exact ⟨opened, trivial⟩
  | networkStatus => exact ⟨wholeNetwork, trivial⟩
  | networkOptions => exact ⟨wholeNetwork, trivial⟩
  | mempool => exact ⟨wholeNetwork, trivial⟩
  | mempoolTransaction transaction => exact ⟨wholeNetwork, ⟨trivial, trivial⟩, trivial⟩

def Endpoint.arguments : (endpoint : Endpoint) → endpoint.Body → Query × Option NetworkIdentifier
  | .block, (request : BlockRequest) => (.block request.block.index request.block.hash, request.network)
  | .blockTransaction, (request : BlockTransactionRequest) =>
    (.blockTransaction request.block request.transaction.hash, request.network)
  | .accountBalance, (request : AccountBalanceRequest) => (.accountBalance request.account.address, request.network)
  | .constructionPreprocess, (request : ConstructionPreprocessRequest) =>
    (.constructionPreprocess request.operations request.metadata, request.network)
  | .networkList, _ => (.networkList, none)
  | .networkStatus, (request : NetworkRequest) => (.networkStatus, request.network)
  | .networkOptions, (request : NetworkRequest) => (.networkOptions, request.network)
  | .mempool, (request : NetworkRequest) => (.mempool, request.network)
  | .mempoolTransaction, (request : MempoolTransactionRequest) =>
    (.mempoolTransaction request.transaction.hash, request.network)

theorem body_arguments (network : NetworkIdentifier) (query : Query) :
    query.endpoint.arguments (query.body network) =
      (query, if query.endpoint = .networkList then none else some network) := by
  cases query <;> rfl

theorem body_keeps (network : NetworkIdentifier) (query : Query) (plain : query.Plain) :
    query.endpoint.shape.Keeps (query.body network) where
  lawful := endpoint_lawful query.endpoint
  canonical := body_open Value.Canonical network query plain.canonical
  exact := body_open Value.Exact network query plain.exact

theorem same_arguments {endpoint other : Endpoint} (first : endpoint.Body) (second : other.Body)
    (keepsFirst : endpoint.shape.Keeps first) (keepsSecond : other.shape.Keeps second) (sameEndpoint : endpoint = other)
    (sameText : (endpoint.shape.encode first).sorted.compact = (other.shape.encode second).sorted.compact) :
    endpoint.arguments first = other.arguments second := by
  subst sameEndpoint
  rw [compact_injective endpoint.shape first second keepsFirst keepsSecond sameText]

theorem block_depth (block : BlockIdentifier) : (BlockIdentifier.shape.encode block).depth = 1 := by
  obtain ⟨index, hash⟩ := block
  cases index <;> cases hash <;> rfl

theorem operations_depth (operations : List Operation) :
    ((Shape.list Operation.shape).encode operations).depth ≤ 4 := by
  rw [Shape.encode, Value.depth, Nat.add_le_add_iff_right, depth_items_le, List.forall_mem_map]
  exact fun _ _ => Nat.le_refl 3

theorem body_depth (network : NetworkIdentifier) (query : Query) :
    (query.endpoint.shape.encode (query.body network)).depth ≤ depthLimit ↔
      (Value.object query.metadata).depth ≤ 126 := by
  have networkShallow : (NetworkIdentifier.shape.encode network).depth ≤ 126 := Nat.le_of_ble_eq_true rfl
  have blockShallow : ∀ block, (BlockIdentifier.shape.encode block).depth ≤ 126 :=
    fun block => block_depth block ▸ Nat.le_of_ble_eq_true rfl
  have shallow : (Value.object []).depth ≤ 126 := Nat.le_of_ble_eq_true rfl
  cases query with
  | block index hash =>
    refine iff_of_true ((object_depth_le _ 126).mpr ?_) shallow
    exact List.forall_mem_cons.mpr ⟨networkShallow, List.forall_mem_singleton.mpr (blockShallow ⟨index, hash⟩)⟩
  | blockTransaction identifier transaction =>
    refine iff_of_true ((object_depth_le _ 126).mpr ?_) shallow
    exact List.forall_mem_cons.mpr ⟨networkShallow,
      List.forall_mem_cons.mpr ⟨blockShallow identifier, List.forall_mem_singleton.mpr (Nat.le_of_ble_eq_true rfl)⟩⟩
  | accountBalance address => exact iff_of_true (Nat.le_of_ble_eq_true rfl) shallow
  | constructionPreprocess operations metadata =>
    have operationsShallow := Nat.le_trans (operations_depth operations) (Nat.le_of_ble_eq_true rfl : 4 ≤ 126)
    refine (object_depth_le _ 126).trans ?_
    constructor
    · intro each
      exact each ("metadata", .object metadata) (List.mem_cons_of_mem _ (List.mem_cons_of_mem _ List.mem_cons_self))
    · intro metadataShallow
      exact List.forall_mem_cons.mpr ⟨networkShallow,
        List.forall_mem_cons.mpr ⟨operationsShallow, List.forall_mem_singleton.mpr metadataShallow⟩⟩
  | networkList => exact iff_of_true (Nat.le_of_ble_eq_true rfl) shallow
  | networkStatus => exact iff_of_true (Nat.le_of_ble_eq_true rfl) shallow
  | networkOptions => exact iff_of_true (Nat.le_of_ble_eq_true rfl) shallow
  | mempool => exact iff_of_true (Nat.le_of_ble_eq_true rfl) shallow
  | mempoolTransaction transaction => exact iff_of_true (Nat.le_of_ble_eq_true rfl) shallow

theorem same_request_body (network elsewhere : NetworkIdentifier) (query other : Query) (plain : query.Plain)
    (otherPlain : other.Plain) (sameEndpoint : query.endpoint = other.endpoint)
    (sameText : (query.request network).body = (other.request elsewhere).body) :
    query = other ∧ (query.endpoint ≠ .networkList → network = elsewhere) := by
  have same := same_arguments _ _ (body_keeps network query plain) (body_keeps elsewhere other otherPlain)
    sameEndpoint sameText
  rw [body_arguments, body_arguments] at same
  obtain ⟨sameQuery, sameNetwork⟩ := Prod.mk.inj same
  refine ⟨sameQuery, ?_⟩
  intro named
  rw [if_neg named, if_neg (sameEndpoint ▸ named)] at sameNetwork
  exact Option.some.inj sameNetwork

theorem shallow_read_back (network : NetworkIdentifier) (query : Query) (plain : query.Plain)
    (shallow : (Value.object query.metadata).depth ≤ 126) :
    query.endpoint.shape.decode (query.request network).body = .ok (query.body network) :=
  decode_compact _ _ (body_keeps network query plain) ((body_depth network query).mpr shallow)

-- A block asked for by its index leaves the hash open, and the other way round.
theorem block_by_index_read_back (network : NetworkIdentifier) (index : Int64) :
    BlockRequest.shape.decode ((Query.blockByIndex index).request network).body = .ok ⟨network, ⟨some index, none⟩⟩ :=
  shallow_read_back network (.blockByIndex index) ⟨⟨.nil, trivial⟩, trivial, trivial⟩ (Nat.le_of_ble_eq_true rfl)

theorem block_by_hash_read_back (network : NetworkIdentifier) (hash : String) :
    BlockRequest.shape.decode ((Query.blockByHash hash).request network).body = .ok ⟨network, ⟨none, some hash⟩⟩ :=
  shallow_read_back network (.blockByHash hash) ⟨⟨.nil, trivial⟩, trivial, trivial⟩ (Nat.le_of_ble_eq_true rfl)

/-- A body is read back as its request up to a depth of the metadata, and tells the arguments apart. -/
theorem request_read_back (network : NetworkIdentifier) (query : Query) (plain : query.Plain) :
    (query.endpoint.shape.decode (query.request network).body = .ok (query.body network) ↔
      (Value.object query.metadata).depth ≤ 126) ∧
    (126 < (Value.object query.metadata).depth → ∃ position,
      query.endpoint.shape.decode (query.request network).body = .error ⟨.tooDeep, position⟩) ∧
    ∀ (elsewhere : NetworkIdentifier) (other : Query), other.Plain → query.endpoint = other.endpoint →
      (query.request network).body = (other.request elsewhere).body →
      query = other ∧ (query.endpoint ≠ .networkList → network = elsewhere) := by
  have keeps := body_keeps network query plain
  have refused : 126 < (Value.object query.metadata).depth → ∃ position,
      query.endpoint.shape.decode (query.request network).body = .error ⟨.tooDeep, position⟩ := by
    intro deep
    exact decode_compact_deep _ _ keeps (mt (body_depth network query).mp (Nat.not_le_of_lt deep))
  refine ⟨⟨?_, ?_⟩, refused, ?_⟩
  · intro read
    by_contra deep
    obtain ⟨position, failed⟩ := refused (Nat.lt_of_not_le deep)
    rw [failed] at read
    cases read
  · exact shallow_read_back network query plain
  · intro elsewhere other otherPlain sameEndpoint sameText
    exact same_request_body network elsewhere query other plain otherPlain sameEndpoint sameText

theorem transfer_read_back :
    ConstructionPreprocessRequest.shape.decode
      ((Query.constructionPreprocess [.transfer (-1) "0x\"1\"" "-5" Currency.native]
        [("fee", .list [.object [("cap", .null)], .boolean true]), ("memo", .text "\n")]).request .main).body =
      .ok ⟨.main, [.transfer (-1) "0x\"1\"" "-5" Currency.native],
        [("fee", .list [.object [("cap", .null)], .boolean true]), ("memo", .text "\n")]⟩ := by
  have inner : Ascending [("cap", .null)] := List.pairwise_singleton _ _
  have outer : Ascending [("fee", .list [.object [("cap", .null)], .boolean true]), ("memo", .text "\n")] :=
    List.pairwise_pair.mpr (by decide)
  have plain : (Query.constructionPreprocess [.transfer (-1) "0x\"1\"" "-5" Currency.native]
      [("fee", .list [.object [("cap", .null)], .boolean true]), ("memo", .text "\n")]).Plain := by
    constructor
    · exact ⟨outer, ⟨trivial, ⟨inner, trivial, trivial⟩, trivial, trivial⟩, trivial, trivial⟩
    · exact ⟨trivial, ⟨trivial, ⟨trivial, trivial, trivial⟩, trivial, trivial⟩, trivial, trivial⟩
  exact (request_read_back .main _ plain).1.mpr (Nat.le_of_ble_eq_true rfl)

end NodeProbe.Rosetta
