import NameRegistry.Proofs.Json.Number
/-!
Texts that are cut into tokens. However the tokens are laid out, with any blanks between them, they
are read from the text (`Spells.tokens?_eq`) as long as two words do not touch.
-/
namespace NameRegistry.Json

open Decimal

/-- A byte that words consist of. -/
def isWordByte (byte : UInt8) : Bool :=
  !isBlank byte && byte ≠ quote && (punctuation? byte).isNone

/-- A byte of the written form of a number. -/
def isNumberByte (byte : UInt8) : Bool := isDigit byte || byte = 0x2D || byte = 0x65

/-- Whether the written form of a token is a word. -/
def Token.isWord : Token → Bool
  | null | bool _ | integer _ | real _ _ => true
  | openArray | closeArray | openObject | closeObject | comma | colon | string _ => false

theorem isWordByte_of_isNumberByte (byte : UInt8) (h : isNumberByte byte = true) :
    isWordByte byte = true := by
  simp only [isNumberByte, Bool.or_eq_true, decide_eq_true_eq] at h
  obtain (hdigit | rfl) | rfl := h
  · have hlow : byte < 0x3A := by
      simp only [isDigit, Bool.and_eq_true, decide_eq_true_eq, UInt8.le_iff_toNat_le] at hdigit
      exact UInt8.lt_iff_toNat_lt.mpr (Nat.lt_succ_of_le hdigit.2)
    have hall : ∀ byte < (0x3A : UInt8), isDigit byte = true → isWordByte byte = true := by
      refine forall_byte_lt ?_
      decide
    exact hall byte hlow hdigit
  · rfl
  · rfl

theorem isNumberByte_of_mem_digits (n : Nat) : ∀ byte ∈ digits n, isNumberByte byte = true := by
  intro byte hbyte
  rw [isNumberByte, isDigit_of_mem_digits n byte hbyte]
  rfl

theorem isNumberByte_of_mem_writtenInteger (value : Int) :
    ∀ byte ∈ writtenInteger value, isNumberByte byte = true := by
  rw [writtenInteger]
  split
  · exact List.forall_mem_cons.mpr ⟨rfl, isNumberByte_of_mem_digits _⟩
  · exact isNumberByte_of_mem_digits _

theorem isNumberByte_of_mem_writtenReal (negative : Bool) (magnitude : Scientific) :
    ∀ byte ∈ (Token.real negative magnitude).written, isNumberByte byte = true := by
  simp only [Token.written, List.forall_mem_append, List.forall_mem_cons]
  refine ⟨⟨?_, isNumberByte_of_mem_digits _⟩, rfl, isNumberByte_of_mem_writtenInteger _⟩
  cases negative with
  | false => exact List.forall_mem_nil _
  | true => exact List.forall_mem_singleton.mpr rfl

theorem encode_names : Utf8.encode "null" = [0x6E, 0x75, 0x6C, 0x6C] ∧
    Utf8.encode "true" = [0x74, 0x72, 0x75, 0x65] ∧
    Utf8.encode "false" = [0x66, 0x61, 0x6C, 0x73, 0x65] := by
  simp [Utf8.encode, Utf8.encodeChar, String.utf8EncodeChar]

theorem word?_eq_number? {word : Bytes} (h : ∀ byte ∈ word, isNumberByte byte = true) :
    word? word = number? word := by
  have hname {letter : UInt8} {rest : Bytes} (hletter : isNumberByte letter = false) :
      word ≠ letter :: rest := by
    rintro rfl
    rw [h letter (.head rest)] at hletter
    cases hletter
  obtain ⟨hnull, htrue, hfalse⟩ := encode_names
  rw [word?, hnull, htrue, hfalse, if_neg (hname rfl), if_neg (hname rfl), if_neg (hname rfl)]

namespace Token

variable {token : Token}

theorem isWordByte_of_mem_written (h : token.isWord = true) :
    ∀ byte ∈ token.written, isWordByte byte = true := by
  obtain ⟨hnull, htrue, hfalse⟩ := encode_names
  cases token with
  | null =>
      rw [written, hnull]
      exact List.all_eq_true.mp rfl
  | bool value =>
      cases value with
      | false =>
          rw [written, hfalse]
          exact List.all_eq_true.mp rfl
      | true =>
          rw [written, htrue]
          exact List.all_eq_true.mp rfl
  | integer value =>
      exact fun byte hbyte => isWordByte_of_isNumberByte byte
        (isNumberByte_of_mem_writtenInteger value byte hbyte)
  | real negative magnitude =>
      exact fun byte hbyte => isWordByte_of_isNumberByte byte
        (isNumberByte_of_mem_writtenReal negative magnitude byte hbyte)
  | openArray | closeArray | openObject | closeObject | comma | colon | string => cases h

theorem word?_written (h : token.isWord = true) : word? token.written = some token := by
  obtain ⟨hnull, htrue, hfalse⟩ := encode_names
  cases token with
  | null => rw [written, word?, if_pos rfl]
  | bool value => cases value <;> simp [written, word?, hnull, htrue, hfalse]
  | integer value =>
      exact (word?_eq_number? (isNumberByte_of_mem_writtenInteger value)).trans
        (number?_writtenInteger value)
  | real negative magnitude =>
      rw [word?_eq_number? (isNumberByte_of_mem_writtenReal negative magnitude)]
      have hsigned : (real negative magnitude).written = signed negative
          (digits magnitude.significand.toNat ++ 0x65 :: writtenInteger magnitude.exponent) := by
        cases negative <;> rfl
      rw [hsigned, number?_writtenReal]
  | openArray | closeArray | openObject | closeObject | comma | colon | string => cases h

theorem written_ne_nil (h : token.isWord = true) : token.written ≠ [] := by
  intro hnil
  have hword := word?_written h
  rw [hnil] at hword
  cases hword

end Token

/-- A word ends before the given bytes. -/
def Delimited (rest : Bytes) : Prop := ∀ byte, rest.head? = some byte → isWordByte byte = false

theorem tokensFrom_wordByte {byte : UInt8} (h : isWordByte byte = true) (read rest : Bytes) :
    tokensFrom (.word read) (byte :: rest) = tokensFrom (.word (byte :: read)) rest ∧
      tokensFrom .between (byte :: rest) = tokensFrom (.word [byte]) rest := by
  simp only [isWordByte, Bool.and_eq_true, Bool.not_eq_true', decide_eq_true_eq,
    Option.isNone_iff_eq_none] at h
  obtain ⟨⟨hblank, hquote⟩, hmark⟩ := h
  constructor <;> rw [tokensFrom, hblank, if_neg Bool.false_ne_true, if_neg hquote, hmark]

theorem tokensFrom_word_append {bytes : Bytes} (h : ∀ byte ∈ bytes, isWordByte byte = true)
    (read rest : Bytes) :
    tokensFrom (.word read) (bytes ++ rest) = tokensFrom (.word (bytes.reverse ++ read)) rest := by
  induction bytes generalizing read with
  | nil => rfl
  | cons byte bytes ih =>
      obtain ⟨hbyte, hbytes⟩ := List.forall_mem_cons.mp h
      rw [List.cons_append, (tokensFrom_wordByte hbyte read _).1, ih hbytes, List.reverse_cons,
        List.append_assoc, List.singleton_append]

theorem tokensFrom_word_delimited {rest : Bytes} (h : Delimited rest) (read : Bytes) :
    tokensFrom (.word read) rest =
      (word? read.reverse).bind fun token => (tokensFrom .between rest).map (token :: ·) := by
  cases rest with
  | nil =>
      rw [tokensFrom, tokensFrom, Option.map_eq_bind]
      rfl
  | cons byte rest =>
      have hbyte := h byte rfl
      simp only [isWordByte, Bool.and_eq_false_iff, Bool.not_eq_false', decide_eq_false_iff_not,
        Decidable.not_not, Option.isNone_eq_false_iff, Option.isSome_iff_exists] at hbyte
      rw [tokensFrom, tokensFrom]
      -- The word ends at a blank, at a string or at a mark.
      split
      · cases word? read.reverse <;> cases tokensFrom .between rest <;> rfl
      split
      · cases word? read.reverse <;> cases tokensFrom (.string []) rest <;> rfl
      · obtain ⟨mark, hmark⟩ := hbyte.resolve_left (by grind)
        rw [hmark]
        cases word? read.reverse <;> cases tokensFrom .between rest <;> rfl

theorem hexDigit?_digit : ∀ digit < (16 : UInt8),
    hexDigit? (if digit < 10 then 0x30 + digit else 0x57 + digit) = some digit.toUInt16 := by
  refine forall_byte_lt ?_
  decide

theorem exists_hexDigits (byte : UInt8) : ∃ high low, hexBytes byte = [high, low] ∧
    hexDigit? high = some (byte / 16).toUInt16 ∧ hexDigit? low = some (byte % 16).toUInt16 := by
  have hlt := byte.toNat_lt
  refine ⟨_, _, rfl, hexDigit?_digit _ ?_, hexDigit?_digit _ ?_⟩
  · rw [UInt8.lt_iff_toNat_lt, UInt8.toNat_div]
    exact Nat.div_lt_of_lt_mul hlt
  · rw [UInt8.lt_iff_toNat_lt, UInt8.toNat_mod]
    exact Nat.mod_lt _ (by decide)

theorem escapeByte_control : ∀ byte < (0x20 : UInt8),
    [backslash, 0x75, 0x30, 0x30] ++ hexBytes byte =
      [backslash, 0x75] ++ hexBytes (byte.toUInt16 / 256).toUInt8 ++
        hexBytes (byte.toUInt16 % 256).toUInt8 ∧
    pieceOfUnit byte.toUInt16 = .byte byte := by
  refine forall_byte_lt ?_
  decide

theorem hexBytes_value (unit : UInt16) (byte : UInt8) :
    (unit * 16 + (byte / 16).toUInt16) * 16 + (byte % 16).toUInt16 =
      unit * 256 + byte.toUInt16 := by
  simp only [← UInt16.toNat_inj, UInt16.toNat_add, UInt16.toNat_mul, UInt8.toNat_toUInt16,
    UInt8.toNat_div, UInt8.toNat_mod]
  change ((unit.toNat * 16 % 65536 + byte.toNat / 16) % 65536 * 16 % 65536 + byte.toNat % 16) %
    65536 = (unit.toNat * 256 % 65536 + byte.toNat) % 65536
  omega

section Strings

variable (read : List Piece) (unit : UInt16) (byte : UInt8) (rest : Bytes)

theorem tokensFrom_digits_more :
    tokensFrom (.digits read 4 unit) (hexBytes byte ++ rest) =
      tokensFrom (.digits read 2 (unit * 256 + byte.toUInt16)) rest := by
  obtain ⟨high, low, hdigits, hhigh, hlow⟩ := exists_hexDigits byte
  rw [hdigits, List.cons_append, List.singleton_append, tokensFrom, hhigh, ← hexBytes_value]
  change tokensFrom (.digits read 3 _) (low :: rest) = _
  rw [tokensFrom, hlow]
  rfl

theorem tokensFrom_digits_last :
    tokensFrom (.digits read 2 unit) (hexBytes byte ++ rest) =
      tokensFrom (.string (pieceOfUnit (unit * 256 + byte.toUInt16) :: read)) rest := by
  obtain ⟨high, low, hdigits, hhigh, hlow⟩ := exists_hexDigits byte
  rw [hdigits, List.cons_append, List.singleton_append, tokensFrom, hhigh, ← hexBytes_value]
  change tokensFrom (.digits read 1 _) (low :: rest) = _
  rw [tokensFrom, hlow]
  rfl

theorem tokensFrom_escaped_unit :
    tokensFrom (.string read) ([backslash, 0x75] ++ hexBytes (unit / 256).toUInt8 ++
      hexBytes (unit % 256).toUInt8 ++ rest) =
      tokensFrom (.string (pieceOfUnit unit :: read)) rest := by
  have hunit : (0 * 256 + (unit / 256).toUInt8.toUInt16) * 256 +
      (unit % 256).toUInt8.toUInt16 = unit := by
    simp only [← UInt16.toNat_inj, UInt16.toNat_add, UInt16.toNat_mul, UInt8.toNat_toUInt16,
      UInt16.toNat_toUInt8, UInt16.toNat_div, UInt16.toNat_mod]
    have hlt := unit.toNat_lt
    change ((0 * 256 % 65536 + unit.toNat / 256 % 256) % 65536 * 256 % 65536 +
      unit.toNat % 256 % 256) % 65536 = unit.toNat
    omega
  simp only [List.append_assoc]
  change tokensFrom (.digits read 4 0)
    (hexBytes (unit / 256).toUInt8 ++ (hexBytes (unit % 256).toUInt8 ++ rest)) = _
  rw [tokensFrom_digits_more, tokensFrom_digits_last, hunit]

theorem tokensFrom_escapeByte :
    tokensFrom (.string read) (escapeByte byte ++ rest) =
      tokensFrom (.string (.byte byte :: read)) rest := by
  rw [escapeByte]
  split
  · next hmark =>
      obtain rfl | rfl := hmark <;> rfl
  split
  · next hbyte => subst hbyte; rfl
  split
  · next hbyte => subst hbyte; rfl
  split
  · next hbyte => subst hbyte; rfl
  split
  · next hbyte => subst hbyte; rfl
  split
  · next hbyte => subst hbyte; rfl
  split
  · next hcontrol =>
      obtain ⟨hdigits, hpiece⟩ := escapeByte_control byte hcontrol
      rw [hdigits, tokensFrom_escaped_unit, hpiece]
  · next hmark _ _ _ _ _ hcontrol =>
      rw [not_or] at hmark
      rw [List.singleton_append, tokensFrom, if_neg hmark.1, if_neg hmark.2, if_neg hcontrol]

theorem tokensFrom_piece (piece : Piece) :
    tokensFrom (.string read) (piece.written ++ rest) =
      tokensFrom (.string (piece :: read)) rest := by
  cases piece with
  | byte byte => exact tokensFrom_escapeByte read byte rest
  | unit unit beyond_ascii =>
      have hpiece : pieceOfUnit unit = .unit unit beyond_ascii := dif_pos beyond_ascii
      exact (tokensFrom_escaped_unit read unit rest).trans (by rw [hpiece])

theorem tokensFrom_string (pieces : List Piece) :
    tokensFrom (.string read) (pieces.flatMap Piece.written ++ quote :: rest) =
      (tokensFrom .between rest).map (.string (read.reverse ++ pieces) :: ·) := by
  -- What has been read stands in reverse, so that each step moves a piece to its front.
  induction pieces generalizing read with
  | nil =>
      rw [List.append_nil]
      rfl
  | cons piece pieces ih =>
      rw [List.flatMap_cons, List.append_assoc, tokensFrom_piece, ih, List.reverse_cons,
        List.append_assoc, List.singleton_append]

end Strings

theorem tokensFrom_written {token : Token} {rest : Bytes}
    (h : token.isWord = true → Delimited rest) :
    tokensFrom .between (token.written ++ rest) =
      (tokensFrom .between rest).map (token :: ·) := by
  cases hword : token.isWord with
  | true =>
      have hbytes := Token.isWordByte_of_mem_written hword
      have hdenoted := Token.word?_written hword
      have hstart : tokensFrom .between (token.written ++ rest) =
          tokensFrom (.word []) (token.written ++ rest) := by
        obtain ⟨first, more, hwritten⟩ := List.exists_cons_of_ne_nil (Token.written_ne_nil hword)
        have hfirst : isWordByte first = true := hbytes first (hwritten ▸ List.mem_cons_self)
        obtain ⟨hword, hbetween⟩ := tokensFrom_wordByte hfirst [] (more ++ rest)
        rw [hwritten, List.cons_append, hbetween, hword]
      rw [hstart, tokensFrom_word_append hbytes, List.append_nil,
        tokensFrom_word_delimited (h hword), List.reverse_reverse, hdenoted, Option.bind_some]
  | false =>
      cases token with
      | string pieces =>
          rw [Token.written, List.append_assoc]
          exact tokensFrom_string [] rest pieces
      | openArray | closeArray | openObject | closeObject | comma | colon => rfl
      | null | bool | integer | real => cases hword

/-- The text consists of the tokens, with blanks between them at will. A word is followed by
something that ends it. -/
inductive Spells : List Token → Bytes → Prop
  | nil : Spells [] []
  | blank {tokens : List Token} {text : Bytes} {byte : UInt8} (hblank : isBlank byte = true)
      (h : Spells tokens text) : Spells tokens (byte :: text)
  | token {tokens : List Token} {text : Bytes} {token : Token}
      (hends : token.isWord = true → Delimited text) (h : Spells tokens text) :
      Spells (token :: tokens) (token.written ++ text)

theorem Spells.tokens?_eq {tokens : List Token} {text : Bytes} (h : Spells tokens text) :
    tokens? text = some tokens := by
  rw [tokens?]
  induction h with
  | nil => rfl
  | blank hblank _ ih => rw [tokensFrom, if_pos hblank, ih]
  | token hends _ ih => rw [tokensFrom_written hends, ih, Option.map_some]

end NameRegistry.Json
