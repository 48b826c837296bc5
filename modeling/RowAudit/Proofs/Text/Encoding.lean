import Mathlib.Data.List.Basic
import RowAudit.Proofs.Text.Pieces
import RowAudit.Text.Decoding

namespace RowAudit.Text

def encode (cs : List Char) : List UInt8 :=
  cs.flatMap String.utf8EncodeChar

@[simp] theorem encode_nil : encode [] = [] := rfl

@[simp] theorem encode_cons (c : Char) (cs : List Char) :
    encode (c :: cs) = String.utf8EncodeChar c ++ encode cs := rfl

@[simp] theorem encode_append (left right : List Char) :
    encode (left ++ right) = encode left ++ encode right :=
  List.flatMap_append

theorem toByteArray_encode (cs : List Char) :
    (encode cs).toByteArray = cs.utf8Encode :=
  rfl

private theorem toList_loop (bytes : ByteArray) (index : Nat)
    (read : List UInt8) :
    ByteArray.toList.loop bytes index read =
      read.reverse ++ bytes.data.toList.drop index := by
  induction index, read using ByteArray.toList.loop.induct bytes with
  | case1 index read within ih =>
      have bound : index < bytes.data.toList.length := by simpa using within
      have byte : bytes.get! index = bytes.data.toList[index] := by
        rw [Array.getElem_toList]
        exact getElem!_pos bytes.data index (by simpa using within)
      rw [ByteArray.toList.loop, if_pos within, ih,
        List.drop_eq_getElem_cons bound, byte, List.reverse_cons,
        List.append_assoc, List.singleton_append]
  | case2 index read beyond =>
      have all : bytes.data.toList.length ≤ index := by simpa using beyond
      rw [ByteArray.toList.loop, if_neg beyond, List.drop_eq_nil_of_le all,
        List.append_nil]

theorem toList_toUTF8 (s : String) : s.toUTF8.toList = encode s.toList := by
  have bytes : s.toUTF8 = (encode s.toList).toByteArray := by
    rw [String.toUTF8_eq_toByteArray, toByteArray_encode,
      ← String.toByteArray_ofList, String.ofList_toList]
  rw [bytes, ByteArray.toList, toList_loop, List.toList_data_toByteArray]
  rfl

theorem decode?_encode (cs : List Char) :
    decode? (encode cs) = some (String.ofList cs) := by
  have bytes :
      (⟨(encode cs).toArray⟩ : ByteArray) = (String.ofList cs).toByteArray := by
    rw [String.toByteArray_ofList, ← toByteArray_encode]
    apply ByteArray.ext
    rw [← Array.toList_inj, List.toList_data_toByteArray]
  rw [decode?, bytes, String.fromUTF8?, dif_pos (String.ofList cs).isValidUTF8]
  rfl

theorem decodeLossy_encode (cs : List Char) :
    decodeLossy (encode cs) = String.ofList cs := by
  rw [decodeLossy, decode?_encode]
  rfl

theorem utf8EncodeChar_of_ascii {c : Char} (ascii : c.toNat < 128) :
    String.utf8EncodeChar c = [UInt8.ofNat c.toNat] := by
  rw [String.utf8EncodeChar]
  exact if_pos (Nat.le_of_lt_succ ascii)

theorem le_toNat_of_mem_utf8EncodeChar {c : Char} (foreign : 128 ≤ c.toNat) :
    ∀ byte ∈ String.utf8EncodeChar c, 128 ≤ byte.toNat := by
  have code : c.val.toNat = c.toNat := rfl
  rw [String.utf8EncodeChar]
  simp only [code]
  split_ifs
  · omega
  -- One case for each number of bytes.
  all_goals
    simp only [List.forall_mem_cons, List.not_mem_nil, false_implies,
      implies_true, and_true, UInt8.toNat_ofNat']
    omega

/-- Where the bytes of a text begin with those of a character, the text begins
with the character. -/
theorem exists_eq_cons_of_starts {c : Char} {cs : List Char}
    (starts : String.utf8EncodeChar c <+: encode cs) :
    ∃ rest, cs = c :: rest := by
  obtain ⟨bytes, whole⟩ := starts
  cases cs with
  | nil =>
      exact absurd (List.append_eq_nil_iff.mp whole).1
        String.utf8EncodeChar_ne_nil
  | cons d rest =>
      have decoded :=
        ByteArray.utf8DecodeChar?_utf8EncodeChar_append
          (b := bytes.toByteArray) (c := c)
      rw [← List.toByteArray_append, whole, encode_cons,
        List.toByteArray_append,
        ByteArray.utf8DecodeChar?_utf8EncodeChar_append] at decoded
      obtain rfl := Option.some.inj decoded
      exact ⟨rest, rfl⟩

/-- The lines of a file are those of its text. -/
theorem pieces_encode (cs : List Char) :
    pieces 10 (encode cs) = (pieces '\n' cs).map encode := by
  induction cs with
  | nil => rfl
  | cons c cs ih =>
      by_cases lineFeed : c = '\n'
      · subst lineFeed
        rw [pieces_cons_separator, List.map_cons, ← ih]
        exact pieces_cons_separator 10 (encode cs)
      · have absent : (10 : UInt8) ∉ String.utf8EncodeChar c := by
          intro member
          by_cases ascii : c.toNat < 128
          · rw [utf8EncodeChar_of_ascii ascii, List.mem_singleton] at member
            have code := congrArg UInt8.toNat member
            rw [UInt8.toNat_ofNat', Nat.mod_eq_of_lt (by omega)] at code
            exact lineFeed (Char.toNat_inj.mp code.symm)
          · have high := le_toNat_of_mem_utf8EncodeChar (by omega) 10 member
            exact absurd high (by decide)
        obtain ⟨first, others, split⟩ :=
          List.exists_cons_of_ne_nil (pieces_ne_nil '\n' cs)
        rw [split, List.map_cons] at ih
        rw [encode_cons, pieces_append_of_not_mem absent ih, pieces,
          if_neg lineFeed, split]
        rfl

end RowAudit.Text
