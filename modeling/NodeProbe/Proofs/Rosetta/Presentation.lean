import NodeProbe.Proofs.Json.Flaw
import NodeProbe.Proofs.Rosetta.RoundTrip

set_option autoImplicit false

namespace NodeProbe.Rosetta

open Json

-- The forms of bodies, and of the objects in them.
inductive Form
  | body (endpoint : Endpoint)
  | network
  | block
  | account
  | transaction
  | operationIdentifier
  | currency
  | amount
  | operation

def Form.Carrier : Form → Type
  | .body endpoint => endpoint.Body
  | .network => NetworkIdentifier
  | .block => BlockIdentifier
  | .account => AccountIdentifier
  | .transaction => TransactionIdentifier
  | .operationIdentifier => OperationIdentifier
  | .currency => Currency
  | .amount => Amount
  | .operation => Operation

def Form.shape : (form : Form) → Shape form.Carrier
  | .body endpoint => endpoint.shape
  | .network => NetworkIdentifier.shape
  | .block => BlockIdentifier.shape
  | .account => AccountIdentifier.shape
  | .transaction => TransactionIdentifier.shape
  | .operationIdentifier => OperationIdentifier.shape
  | .currency => Currency.shape
  | .amount => Amount.shape
  | .operation => Operation.shape

theorem form_lawful (form : Form) : form.shape.Lawful := by
  cases form with
  | body endpoint => exact endpoint_lawful endpoint
  | network => exact network_lawful
  | block => exact block_lawful
  | account => exact account_lawful
  | transaction => exact transaction_lawful
  | operationIdentifier => exact operation_identifier_lawful
  | currency => exact currency_lawful
  | amount => exact amount_lawful
  | operation => exact operation_lawful

theorem form_required (form : Form) :
    ∀ name ∈ form.shape.fieldNames, name ∉ ["index", "hash", "metadata"] → name ∈ form.shape.requiredNames := by
  cases form with
  | body endpoint => cases endpoint <;> decide
  | _ => decide

/-- A text that presents a value is read as it, and one that lacks a member or has one twice is refused. -/
theorem presentation_read (form : Form) :
    (∀ value draft (text : String), form.shape.Presents depthLimit value draft → draft.Writes text.toList →
      form.shape.decode text = .ok value) ∧
    (∀ value, form.shape.Open Value.Canonical value → form.shape.Open Value.Exact value →
      (form.shape.encode value).depth ≤ depthLimit →
      ∀ written ∈ [form.shape.encode value, (form.shape.encode value).sorted], ∃ draft : Draft,
        draft.Writes written.compact.toList ∧ form.shape.Presents depthLimit value draft) ∧
    (∀ draft (text : String), form.shape.Flawed draft → draft.Writes text.toList →
      ∃ refusal, form.shape.decode text = .error refusal) ∧
    ∀ name ∈ form.shape.fieldNames, name ∉ ["index", "hash", "metadata"] → name ∈ form.shape.requiredNames := by
  have lawful := form_lawful form
  refine ⟨?_, ?_, ?_, form_required form⟩
  · exact fun value draft text presents writes => decode_presented form.shape lawful writes value presents
  · intro value canonical exact shallow
    refine List.forall_mem_cons.mpr ⟨?_, List.forall_mem_singleton.mpr ?_⟩
    · exact compact_presents arranges_declared form.shape lawful value canonical exact shallow
    · exact compact_presents arranges_sorted form.shape lawful value canonical exact shallow
  · exact fun draft text flawed writes => decode_flawed form.shape lawful writes flawed

theorem unknown_member_read :
    BlockIdentifier.shape.decode "\x7b\"n\":null,\"hash\":\"x\"\x7d" = .ok ⟨none, some "x"⟩ ∧
      (∃ draft : Draft, draft.Writes (BlockIdentifier.shape.encode ⟨none, some "x"⟩).sorted.compact.toList ∧
        BlockIdentifier.shape.Presents depthLimit ⟨none, some "x"⟩ draft) ∧
      ∃ refusal, BlockIdentifier.shape.decode "\x7b\"hash\":\"x\",\"hash\":\"x\"\x7d" = .error refusal := by
  let hash := DraftMember.plain ['h', 'a', 's', 'h'] (.text [.char 'x']) ['"', 'x', '"']
  let unknown := DraftMember.plain ['n'] .null writeNull
  have label : NameSpelling hash.marks hash.label := plain_label ['h', 'a', 's', 'h'] rfl _ _
  have written : hash.draft.Written hash.text := .text (plain_marks ['x'] rfl)
  have resolves : Resolves hash.marks "hash".toList := plain_resolves ['h', 'a', 's', 'h']
  obtain ⟨reads, states, refuses, _⟩ := presentation_read .block
  refine ⟨?_, ?_, ?_⟩
  · have object := @Draft.Written.object [unknown, hash] _
      (List.forall_mem_cons.mpr ⟨plain_label ['n'] rfl _ _, List.forall_mem_singleton.mpr label⟩)
      (List.forall_mem_cons.mpr ⟨.null, List.forall_mem_singleton.mpr written⟩) (.more gap_nil gap_nil (.last gap_nil gap_nil))
    refine reads ⟨none, some "x"⟩ _ "\x7b\"n\":null,\"hash\":\"x\"\x7d" ?_
      ⟨[], _, [], gap_nil, gap_nil, object, by decide⟩
    refine ⟨by decide, _, [("n", .null), ("hash", hash.draft)], [("hash", hash.draft)], [("n", .null)], rfl,
      .cons ⟨plain_resolves ['n'], rfl⟩ (.cons ⟨resolves, rfl⟩ .nil), List.Perm.swap _ _ _, ?_, ?_⟩
    · exact .inr ⟨rfl, .inl ⟨hash.draft, [], rfl, ⟨_, rfl, plain_resolves ['x']⟩, rfl⟩⟩
    · exact List.forall_mem_singleton.mpr (by decide)
  · exact states ⟨none, some "x"⟩ ⟨trivial, trivial, trivial⟩ ⟨trivial, trivial, trivial⟩ (by decide) _
      (List.mem_cons_of_mem _ List.mem_cons_self)
  · have object := @Draft.Written.object [hash, hash] _ (List.forall_mem_cons.mpr ⟨label, List.forall_mem_singleton.mpr label⟩)
      (List.forall_mem_cons.mpr ⟨written, List.forall_mem_singleton.mpr written⟩) (.more gap_nil gap_nil (.last gap_nil gap_nil))
    refine refuses _ "\x7b\"hash\":\"x\",\"hash\":\"x\"\x7d" ?_
      ⟨[], _, [], gap_nil, gap_nil, object, by decide⟩
    exact .inl ⟨_, rfl, .inl ⟨"hash", by decide, _, _, List.Sublist.refl _, resolves, resolves⟩⟩

-- The index may be left out, and more may be said about a block; the hash may not be said twice.
example :
    BlockIdentifier.shape.decode "\x7b\"reward\": [1.5, \x7b\x7d], \"h\\u0061sh\": \"0x1\"\x7d" = .ok ⟨none, some "0x1"⟩ ∧
      (BlockIdentifier.shape.decode "\x7b\"hash\": \"0x1\", \"hash\": \"0x1\"\x7d").toOption = none := by
  decide +kernel

end NodeProbe.Rosetta
