import NodeProbe.Json.Printer
import NodeProbe.Proofs.Json.Order
import Mathlib.Data.List.Basic

set_option autoImplicit false

namespace NodeProbe

theorem bytes_loop (array : ByteArray) (index : Nat) (before : Bytes) :
    ByteArray.toList.loop array index before = before.reverse ++ array.data.toList.drop index := by
  fun_induction ByteArray.toList.loop array index before with
  | case1 index before inside ih =>
    have insideList : index < array.data.toList.length := by simpa using inside
    rw [ih, List.drop_eq_getElem_cons insideList]
    simp [ByteArray.get!, inside]
  | case2 index before outside =>
    rw [List.drop_eq_nil_of_le (by simpa using Nat.le_of_not_lt outside), List.append_nil]

theorem bytes_of_array (array : ByteArray) : array.toList = array.data.toList := by
  rw [ByteArray.toList, bytes_loop]
  rfl

def encoded (chars : List Char) : Bytes := chars.flatMap String.utf8EncodeChar

theorem utf8_of_list (chars : List Char) : utf8 (String.ofList chars) = encoded chars := by
  rw [utf8, String.toUTF8_eq_toByteArray, String.toByteArray_ofList, bytes_of_array, List.utf8Encode,
    List.toList_data_toByteArray, encoded]

theorem utf8_to_list (text : String) : utf8 text = encoded text.toList := by
  rw [← utf8_of_list, String.ofList_toList]

theorem encoded_append (first second : List Char) : encoded (first ++ second) = encoded first ++ encoded second :=
  List.flatMap_append

theorem text_of_utf8 (text : String) : String.fromUTF8? (utf8 text).toByteArray = some text := by
  have array : (utf8 text).toByteArray = text.toByteArray := by
    apply ByteArray.ext
    apply Array.toList_inj.mp
    rw [List.toList_data_toByteArray, utf8, bytes_of_array, String.toUTF8_eq_toByteArray]
  rw [array, String.fromUTF8?, dif_pos text.isValidUTF8]
  rfl

namespace Json

theorem escape_char_long (c : Char) (long : 128 ≤ c.toNat) : escapeChar c = [c] := by
  have different : ∀ short : Char, short.toNat < 128 → c ≠ short := by
    rintro short below rfl
    omega
  rw [escapeChar, if_neg (not_or.mpr ⟨different '"' (by decide), different '\\' (by decide)⟩),
    if_neg (different '\x08' (by decide)), if_neg (different '\t' (by decide)), if_neg (different '\n' (by decide)),
    if_neg (different '\x0c' (by decide)), if_neg (different '\r' (by decide)), if_neg (by omega)]

theorem encode_char_short (c : Char) (short : c.toNat < 128) : String.utf8EncodeChar c = [UInt8.ofNat c.toNat] := by
  have bound : c.val.toNat ≤ 127 := Nat.le_of_lt_succ short
  rw [String.utf8EncodeChar, if_pos bound]
  rfl

theorem encode_char_long (c : Char) (long : 128 ≤ c.toNat) : ∀ byte ∈ String.utf8EncodeChar c, 128 ≤ byte.toNat := by
  have past : ¬ c.val.toNat ≤ 127 := Nat.not_le_of_lt long
  rw [String.utf8EncodeChar, if_neg past]
  by_cases two : c.val.toNat ≤ 2047
  · rw [if_pos two]
    simp only [List.forall_mem_cons, List.not_mem_nil, UInt8.toNat_ofNat']
    refine ⟨?_, ?_, nofun⟩ <;> omega
  · rw [if_neg two]
    by_cases three : c.val.toNat ≤ 65535
    · rw [if_pos three]
      simp only [List.forall_mem_cons, List.not_mem_nil, UInt8.toNat_ofNat']
      refine ⟨?_, ?_, ?_, nofun⟩ <;> omega
    · rw [if_neg three]
      simp only [List.forall_mem_cons, List.not_mem_nil, UInt8.toNat_ofNat']
      refine ⟨?_, ?_, ?_, ?_, nofun⟩ <;> omega

theorem escape_bytes (c : Char) : (String.utf8EncodeChar c).flatMap escapeByte = encoded (escapeChar c) := by
  by_cases short : c.toNat < 128
  · have code : (UInt8.ofNat c.toNat).toNat = c.toNat := by
      rw [UInt8.toNat_ofNat', Nat.mod_eq_of_lt (Nat.lt_trans short (by decide))]
    rw [encode_char_short c short, List.flatMap_singleton, escapeByte, code, if_pos short, Char.ofNat_toNat, utf8_of_list]
  · have long : 128 ≤ c.toNat := Nat.le_of_not_lt short
    have plain : ∀ byte ∈ String.utf8EncodeChar c, escapeByte byte = [byte] := by
      intro byte present
      rw [escapeByte, if_neg (Nat.not_lt_of_le (encode_char_long c long byte present))]
    rw [escape_char_long c long, List.flatMap_congr plain, List.flatMap_singleton', encoded, List.flatMap_singleton]

-- Written one after another, the pieces are the bytes of the characters.
def Encodes (pieces : List Bytes) (chars : List Char) : Prop := pieces.flatten = encoded chars

theorem encodes_nil : Encodes [] [] := rfl

theorem encodes_append {first second : List Bytes} {before after : List Char} (encodesFirst : Encodes first before)
    (encodesSecond : Encodes second after) : Encodes (first ++ second) (before ++ after) := by
  rw [Encodes, List.flatten_append, encodesFirst, encodesSecond, encoded_append]

theorem encodes_cons (chars : List Char) {pieces : List Bytes} {after : List Char} (encodes : Encodes pieces after) :
    Encodes (utf8 (String.ofList chars) :: pieces) (chars ++ after) := by
  rw [Encodes, List.flatten_cons, encodes, utf8_of_list, encoded_append]

theorem encodes_one (chars : List Char) : Encodes [utf8 (String.ofList chars)] chars := by
  rw [Encodes, List.flatten_singleton, utf8_of_list]

theorem quote_encodes (text : String) : Encodes (quotePieces text) (quote text) := by
  have inner : Encodes ((utf8 text).map escapeByte) (text.toList.flatMap escapeChar) := by
    rw [Encodes, ← List.flatMap_def, utf8_to_list, encoded, List.flatMap_assoc, funext escape_bytes, encoded,
      List.flatMap_assoc]
    rfl
  exact encodes_append (encodes_cons ['"'] inner) (encodes_one ['"'])

theorem indent_encodes (depth : Nat) : Encodes (indentPieces depth) (List.replicate (4 * depth) ' ') := by
  induction depth with
  | zero => exact encodes_nil
  | succ depth ih => exact encodes_cons [' ', ' ', ' ', ' '] ih

theorem break_encodes (depth : Nat) : Encodes (utf8 "\n" :: indentPieces depth) (lineBreak depth) :=
  encodes_cons ['\n'] (indent_encodes depth)

theorem comma_encodes (depth : Nat) : Encodes (utf8 ",\n" :: indentPieces depth) (',' :: lineBreak depth) :=
  encodes_cons [',', '\n'] (indent_encodes depth)

theorem items_encode (items : List Value) (depth : Nat)
    (each : ∀ item ∈ items, Encodes (item.pieces (depth + 1)) (item.writePretty (depth + 1))) :
    Encodes (itemPieces depth items) (prettyItems depth items) := by
  induction items with
  | nil => exact encodes_append (break_encodes depth) (encodes_one [']'])
  | cons item rest ih =>
    obtain ⟨first, others⟩ := List.forall_mem_cons.mp each
    exact encodes_append (encodes_append (comma_encodes (depth + 1)) first) (ih others)

theorem members_encode (members : Members) (depth : Nat)
    (each : ∀ member ∈ members, Encodes (member.2.pieces (depth + 1)) (member.2.writePretty (depth + 1))) :
    Encodes (memberPieces depth members) (prettyMembers depth members) := by
  induction members with
  | nil => exact encodes_append (break_encodes depth) (encodes_one ['\x7d'])
  | cons member rest ih =>
    obtain ⟨name, value⟩ := member
    obtain ⟨first, others⟩ := List.forall_mem_cons.mp each
    have named := encodes_append (comma_encodes (depth + 1)) (quote_encodes name)
    exact encodes_append (encodes_append named (encodes_cons [':', ' '] first)) (ih others)

theorem pieces_encode (document : Value) (depth : Nat) :
    Encodes (document.pieces depth) (document.writePretty depth) := by
  induction document using value_induction generalizing depth with
  | null => exact encodes_one writeNull
  | boolean truth => exact encodes_one (writeBoolean truth)
  | number number => exact encodes_one number.write
  | text content => exact quote_encodes content
  | list items ih =>
    cases items with
    | nil => exact encodes_cons ['['] (encodes_one [']'])
    | cons item rest =>
      obtain ⟨first, others⟩ := List.forall_mem_cons.mp ih
      have opened := encodes_cons ['['] (encodes_append (break_encodes (depth + 1)) (first (depth + 1)))
      exact encodes_append opened (items_encode rest depth fun item present => others item present (depth + 1))
  | object members ih =>
    cases members with
    | nil => exact encodes_cons ['\x7b'] (encodes_one ['\x7d'])
    | cons member rest =>
      obtain ⟨name, value⟩ := member
      obtain ⟨first, others⟩ := List.forall_mem_cons.mp ih
      have opened := encodes_cons ['\x7b'] (encodes_append (break_encodes (depth + 1)) (quote_encodes name))
      have named := encodes_append opened (encodes_cons [':', ' '] (first (depth + 1)))
      exact encodes_append named (members_encode rest depth fun member present => others member present (depth + 1))

theorem write_all_unlimited (pieces : List Bytes) (printed : Bytes) :
    writeAll pieces ⟨printed, none⟩ = (true, ⟨printed ++ pieces.flatten, none⟩) := by
  induction pieces generalizing printed with
  | nil => rw [writeAll, List.flatten_nil, List.append_nil]
  | cons piece rest ih =>
    rw [writeAll, Output.write]
    dsimp only
    rw [ih, List.flatten_cons, List.append_assoc]

theorem render_pretty (document : Value) : document.render = .ok document.pretty := by
  have written : writeAll (document.pieces 0) .unlimited = (true, ⟨utf8 document.pretty, none⟩) := by
    rw [Output.unlimited, write_all_unlimited, pieces_encode document 0, Value.pretty, utf8_of_list, List.nil_append]
  rw [Value.render, written]
  dsimp only
  rw [text_of_utf8]

end Json

end NodeProbe
