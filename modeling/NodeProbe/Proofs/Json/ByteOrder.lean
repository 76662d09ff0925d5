import NodeProbe.Proofs.Json.Printed
import NodeProbe.Proofs.Json.Rendering

set_option autoImplicit false

namespace NodeProbe

-- The first byte of a code point, and how many follow it.
def leadByte (code : Nat) : Nat :=
  if code ≤ 127 then code else if code ≤ 2047 then code / 64 % 32 + 192
  else if code ≤ 65535 then code / 4096 % 16 + 224 else code / 262144 % 8 + 240

def followCount (code : Nat) : Nat :=
  if code ≤ 127 then 0 else if code ≤ 2047 then 1 else if code ≤ 65535 then 2 else 3

def followBytes : Nat → Nat → Bytes
  | 0, _ => []
  | count + 1, code => followBytes count (code / 64) ++ [UInt8.ofNat (code % 64 + 128)]

def leadBits : Nat → Nat → Nat
  | 0, code => code
  | count + 1, code => leadBits count (code / 64)

def codeBytes (code : Nat) : Bytes := UInt8.ofNat (leadByte code) :: followBytes (followCount code) code

theorem char_bytes (c : Char) : String.utf8EncodeChar c = codeBytes c.val.toNat := by
  unfold String.utf8EncodeChar codeBytes leadByte followCount
  dsimp only
  split_ifs <;> simp only [followBytes, Nat.div_div_eq_div_mul] <;> rfl

theorem byte_below {first second : Nat} (before after : Bytes) (below : first < second) (byte : second < 256) :
    UInt8.ofNat first :: before < UInt8.ofNat second :: after := by
  refine List.cons_lt_cons_iff.mpr (.inl (UInt8.lt_iff_toNat_lt.mpr ?_))
  rw [UInt8.toNat_ofNat', UInt8.toNat_ofNat', Nat.mod_eq_of_lt byte, Nat.mod_eq_of_lt (Nat.lt_trans below byte)]
  exact below

theorem follow_below (count first second : Nat) (below : first < second) (same : leadBits count first = leadBits count second)
    (before after : Bytes) : followBytes count first ++ before < followBytes count second ++ after := by
  induction count generalizing first second before after with
  | zero => exact absurd same (Nat.ne_of_lt below)
  | succ count ih =>
    rw [followBytes, followBytes, List.append_assoc, List.append_assoc]
    by_cases front : first / 64 = second / 64
    · rw [front]
      exact List.append_left_lt (byte_below before after (by omega) (by omega))
    · exact ih (first / 64) (second / 64) (by omega) same _ _

theorem lead_byte (code : Nat) (scalar : code < 0x110000) : leadByte code < 256 := by
  unfold leadByte
  split_ifs <;> omega

-- More bytes start with a larger one. As many bytes start alike only if the bits for the first are the same.
theorem lead_below (first second : Nat) (below : first < second) (scalar : second < 0x110000) :
    leadByte first < leadByte second ∨ leadByte first = leadByte second ∧ followCount first = followCount second ∧
      leadBits (followCount first) first = leadBits (followCount first) second := by
  unfold leadByte followCount
  split_ifs <;> simp only [leadBits, true_and] <;> omega

theorem code_bytes_below (first second : Nat) (below : first < second) (scalar : second < 0x110000) (before after : Bytes) :
    codeBytes first ++ before < codeBytes second ++ after := by
  rw [codeBytes, codeBytes, List.cons_append, List.cons_append]
  rcases lead_below first second below scalar with lead | ⟨lead, count, bits⟩
  · exact byte_below _ _ lead (lead_byte second scalar)
  · rw [lead, ← count]
    exact List.cons_lt_cons_iff.mpr (.inr ⟨rfl, follow_below _ first second below bits before after⟩)

theorem code_scalar (c : Char) : c.val.toNat < 0x110000 := by
  rcases c.valid with low | ⟨_, high⟩
  · exact Nat.lt_trans low (by decide)
  · exact high

theorem encoded_below (first second : List Char) (below : first < second) : encoded first < encoded second := by
  induction below with
  | @nil c rest =>
    rw [encoded, encoded, List.flatMap_nil, List.flatMap_cons, char_bytes]
    exact .nil
  | @rel c before d after below =>
    rw [encoded, List.flatMap_cons, encoded, List.flatMap_cons, char_bytes, char_bytes]
    exact code_bytes_below _ _ below (code_scalar d) _ _
  | cons _ ih =>
    rw [encoded, List.flatMap_cons, encoded, List.flatMap_cons]
    exact List.append_left_lt ih

theorem utf8_below (first second : String) (below : first < second) : utf8 first < utf8 second := by
  rw [utf8_to_list, utf8_to_list]
  exact encoded_below _ _ (String.lt_iff.mp below)

namespace Json

def Draft.OwnAscends : Draft → Prop
  | .object members => ∃ named, Named members named ∧ named.Pairwise fun first second => utf8 first.1 < utf8 second.1
  | _ => True

def Draft.Ascends (draft : Draft) : Prop := draft.Everywhere Draft.OwnAscends

theorem states_ascends {draft : Draft} {document : Value} (states : draft.States document) (canonical : document.Canonical) :
    draft.Ascends := by
  induction states with
  | list each ih =>
    have inner := List.forall_mem_map.mp ((everywhere_list _ _).mp canonical).2
    refine (draft_list_everywhere _ _).mpr ⟨trivial, List.forall_mem_map.mpr ?_⟩
    exact fun entry present => ih entry present (inner entry present)
  | @object entries names each ih =>
    obtain ⟨ascending, others⟩ := (everywhere_object _ _).mp canonical
    have inner := List.forall_mem_map.mp others
    refine (draft_object_everywhere _ _).mpr ⟨⟨entries.map fun entry => (entry.name, entry.draft), ?_, ?_⟩,
      List.forall_mem_map.mpr fun entry present => ih entry present (inner entry present)⟩
    · exact mapped_related fun entry present => ⟨names entry present, rfl⟩
    · refine List.pairwise_map.mpr ((List.pairwise_map.mp ascending).imp ?_)
      exact fun below => utf8_below _ _ below
  | _ => trivial

theorem printed_ascends {document : Value} {text : List Char} (printed : Printed document text)
    (canonical : document.Canonical) :
    (∃ draft : Draft, draft.Writes text) ∧ ∀ draft : Draft, draft.Writes text → draft.Ascends := by
  obtain ⟨draft, states, written⟩ := printed
  have writes : draft.Writes text :=
    ⟨[], text, [], gap_nil, gap_nil, written, by rw [List.nil_append, List.append_nil]⟩
  exact ⟨⟨draft, writes⟩, fun other otherWrites => writes_once writes otherWrites ▸ states_ascends states canonical⟩

end Json

end NodeProbe
