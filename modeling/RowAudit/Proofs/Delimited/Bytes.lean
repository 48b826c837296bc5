import RowAudit.Proofs.Delimited.Reader
import RowAudit.Proofs.Text.Encoding

namespace RowAudit

namespace Mark

def IsAscii (mark : Mark) : Prop :=
  mark.toNat < 128

instance (mark : Mark) : Decidable mark.IsAscii :=
  inferInstanceAs (Decidable (_ < _))

variable {mark : Mark} {c : Char}

theorem isAscii_carriageReturn : IsAscii 13 := by decide

theorem isAscii_lineFeed : IsAscii 10 := by decide

theorem toNat_toChar (mark : Mark) : mark.toChar.toNat = mark.toNat := by
  have valid : mark.toNat.isValidChar :=
    .inl (Nat.lt_trans mark.toNat_lt (by decide))
  rw [toChar, Char.ofNat, dif_pos valid]
  rfl

theorem eq_toChar_iff : c = mark.toChar ↔ c.toNat = mark.toNat := by
  rw [← Char.toNat_inj, toNat_toChar]

theorem ofNat_eq_iff (mark : Mark) (ascii : c.toNat < 128) :
    UInt8.ofNat c.toNat = mark ↔ c = mark.toChar := by
  rw [eq_toChar_iff, ← UInt8.toNat_inj, UInt8.toNat_ofNat',
    Nat.mod_eq_of_lt (by omega)]

theorem IsAscii.ne_byte (ascii : mark.IsAscii) {byte : UInt8}
    (high : 128 ≤ byte.toNat) : byte ≠ mark := by
  rintro rfl
  exact absurd ascii (Nat.not_lt.mpr high)

theorem IsAscii.ne_toChar (ascii : mark.IsAscii) (foreign : 128 ≤ c.toNat) :
    c ≠ mark.toChar := by
  rw [ne_eq, eq_toChar_iff]
  exact Nat.ne_of_gt (Nat.lt_of_lt_of_le ascii foreign)

end Mark

namespace Delimited

open Text

namespace Symbols

variable {α β : Type} [DecidableEq α] [DecidableEq β]

structure SameMeaning (left : Symbols α) (right : Symbols β) (c : α) (d : β) :
    Prop where
  delimiter : c = left.delimiter ↔ d = right.delimiter
  quote : c = left.quote ↔ d = right.quote
  carriageReturn : c = left.carriageReturn ↔ d = right.carriageReturn
  lineFeed : c = left.lineFeed ↔ d = right.lineFeed

namespace SameMeaning

variable {left : Symbols α} {right : Symbols β} {c : α} {d : β}
  (same : SameMeaning left right c d)
include same

theorem isLineEnd_eq : left.isLineEnd c = right.isLineEnd d := by
  simp only [isLineEnd, same.carriageReturn, same.lineFeed]

theorem plainMove_eq : left.plainMove c = right.plainMove d := by
  rw [plainMove, plainMove, same.isLineEnd_eq]
  exact if_congr same.delimiter rfl rfl

theorem fieldMove_eq : left.fieldMove c = right.fieldMove d := by
  rw [fieldMove, fieldMove, same.plainMove_eq]
  exact if_congr same.quote rfl rfl

theorem move_eq (stage : Stage) : left.move stage c = right.move stage d := by
  cases stage with
  | recordStart => rw [move, move, same.isLineEnd_eq, same.fieldMove_eq]
  | fieldStart => exact same.fieldMove_eq
  | plain => exact same.plainMove_eq
  | quoted => exact if_congr same.quote rfl rfl
  | quoteSeen =>
      rw [move, move, same.plainMove_eq]
      exact if_congr same.quote rfl rfl

end SameMeaning

end Symbols

namespace Dialect

/-- Whether no symbol of a dialect is part of another character. -/
structure IsAscii (dialect : Dialect) : Prop where
  delimiter : dialect.delimiter.IsAscii
  quote : dialect.quote.IsAscii

variable {dialect : Dialect} {c : Char}

theorem sameMeaning_of_ascii (ascii : c.toNat < 128) :
    Symbols.SameMeaning dialect.symbols dialect.characters
      (UInt8.ofNat c.toNat) c where
  delimiter := Mark.ofNat_eq_iff _ ascii
  quote := Mark.ofNat_eq_iff _ ascii
  carriageReturn := Mark.ofNat_eq_iff 13 ascii
  lineFeed := Mark.ofNat_eq_iff 10 ascii

namespace IsAscii

variable (isAscii : dialect.IsAscii)
include isAscii

theorem foreign_of_not_ascii (foreign : 128 ≤ c.toNat) :
    dialect.characters.Foreign c where
  notDelimiter := isAscii.delimiter.ne_toChar foreign
  notQuote := isAscii.quote.ne_toChar foreign
  notCarriageReturn := Mark.isAscii_carriageReturn.ne_toChar foreign
  notLineFeed := Mark.isAscii_lineFeed.ne_toChar foreign

theorem foreign_of_high {byte : UInt8} (high : 128 ≤ byte.toNat) :
    dialect.symbols.Foreign byte where
  notDelimiter := isAscii.delimiter.ne_byte high
  notQuote := isAscii.quote.ne_byte high
  notCarriageReturn := Mark.isAscii_carriageReturn.ne_byte high
  notLineFeed := Mark.isAscii_lineFeed.ne_byte high

/-- The induction is on the text; the field under way is kept from the last
symbol back, so its bytes are those of the field turned around. -/
theorem readFrom_encode (stage : Stage) (field : List Char)
    (fields : List (List Char)) (cs : List Char) :
    dialect.symbols.readFrom stage (encode field.reverse).reverse
      (fields.map encode) (encode cs) =
      (dialect.characters.readFrom stage field fields cs).map
        (List.map encode) := by
  induction cs generalizing stage field fields with
  | nil =>
      cases stage <;> simp [Symbols.readFrom]
  | cons c cs ih =>
      by_cases ascii : c.toNat < 128
      · have same : dialect.symbols.move stage (UInt8.ofNat c.toNat) =
            dialect.characters.move stage c :=
          (sameMeaning_of_ascii ascii).move_eq stage
        rw [encode_cons, utf8EncodeChar_of_ascii ascii, List.singleton_append]
        cases move : dialect.characters.move stage c with
        | keep next =>
            have kept : UInt8.ofNat c.toNat :: (encode field.reverse).reverse =
                (encode (c :: field).reverse).reverse := by
              simp [utf8EncodeChar_of_ascii ascii]
            rw [Symbols.readFrom_of_keep move,
              Symbols.readFrom_of_keep (same.trans move), kept, ih]
        | skip next =>
            rw [Symbols.readFrom_of_skip move,
              Symbols.readFrom_of_skip (same.trans move), ih]
        | endField =>
            have read := ih .fieldStart [] (field.reverse :: fields)
            rw [Symbols.readFrom_of_endField move,
              Symbols.readFrom_of_endField (same.trans move), ← read,
              List.reverse_reverse]
            rfl
        | endRecord =>
            have read := ih .recordStart [] []
            rw [Symbols.readFrom_of_endRecord move,
              Symbols.readFrom_of_endRecord (same.trans move), List.map_cons,
              ← read, List.reverse_reverse, List.map_reverse]
            rfl
      · have foreign : dialect.characters.Foreign c :=
          isAscii.foreign_of_not_ascii (by omega)
        have bytesForeign :
            ∀ byte ∈ String.utf8EncodeChar c, dialect.symbols.Foreign byte :=
          fun byte member => isAscii.foreign_of_high
            (le_toNat_of_mem_utf8EncodeChar (by omega) byte member)
        have kept : (String.utf8EncodeChar c).reverse ++
            (encode field.reverse).reverse =
            (encode (c :: field).reverse).reverse := by
          simp
        rw [encode_cons,
          Symbols.readFrom_append_of_foreign String.utf8EncodeChar_ne_nil
            bytesForeign, Symbols.readFrom_of_keep (foreign.move_eq stage),
            kept, ih]

omit isAscii in
theorem unmarked_encode (cs : List Char) :
    dialect.symbols.unmarked (encode cs) =
      encode (dialect.characters.unmarked cs) := by
  have mark : String.utf8EncodeChar '\ufeff' = [0xEF, 0xBB, 0xBF] := by decide
  by_cases marked : ∃ rest, cs = '\ufeff' :: rest
  · obtain ⟨rest, rfl⟩ := marked
    rw [encode_cons, mark]
    rfl
  · have unmarked :
        ¬ dialect.characters.byteOrderMark.isPrefixOf cs = true := by
      intro starts
      obtain ⟨rest, rfl⟩ := List.isPrefixOf_iff_prefix.mp starts
      exact marked ⟨rest, rfl⟩
    have bytesUnmarked :
        ¬ dialect.symbols.byteOrderMark.isPrefixOf (encode cs) = true := by
      intro starts
      exact marked (exists_eq_cons_of_starts
        (mark ▸ List.isPrefixOf_iff_prefix.mp starts))
    rw [Symbols.unmarked, Symbols.unmarked, if_neg unmarked,
      if_neg bytesUnmarked]

/-- The records of a file are those of its text. -/
theorem records_encode (cs : List Char) :
    dialect.symbols.records (encode cs) =
      (dialect.characters.records cs).map (List.map encode) := by
  rw [Symbols.records, unmarked_encode]
  exact isAscii.readFrom_encode .recordStart [] []
    (dialect.characters.unmarked cs)

end IsAscii

end Dialect

end Delimited

end RowAudit
