import Screencast.Proofs.Text.Split
import Screencast.Proofs.Text.Utf8
import Screencast.Url.Percent

/-!
# Percent-encoding and back

Decoding a percent-encoded text gives the text, and the encoded form holds no character that could
end a part of a URL.  Together these let every part of a URL be read on its own.
-/

namespace Screencast

namespace Url

/-! ## The characters of an encoded text -/

/-- Whether a character can stand in a percent-encoded text. -/
def isEncodedChar (char : Char) : Bool :=
  char.isAlphanum || char = '-' || char = '.' || char = '_' || char = '~' || char = '%'

theorem isEncodedChar_hexCapital (value : Fin 16) :
    isEncodedChar (Text.hexCapital value) = true := by
  revert value
  decide

/-- Only such characters make up the encoded form of a byte. -/
theorem isEncodedChar_of_mem_encodeByte
    {byte : UInt8}
    {char : Char}
    (present : char ∈ encodeByte byte) :
    isEncodedChar char = true := by
  unfold encodeByte at present
  split at present
  · next unreserved =>
      simp only [List.mem_singleton] at present
      subst present
      simp only [isUnreserved] at unreserved
      simp only [isEncodedChar, unreserved, Bool.true_or]
  · simp only [List.mem_cons, List.not_mem_nil, or_false] at present
    rcases present with rfl | rfl | rfl
    · decide
    · exact isEncodedChar_hexCapital _
    · exact isEncodedChar_hexCapital _

/-- Only such characters make up an encoded text. -/
theorem isEncodedChar_of_mem_percentEncode
    {text : String}
    {char : Char}
    (present : char ∈ (percentEncode text).toList) :
    isEncodedChar char = true := by
  rw [percentEncode, String.toList_ofList, List.mem_flatMap] at present
  obtain ⟨byte, _, inByte⟩ := present
  exact isEncodedChar_of_mem_encodeByte inByte

/-- A character that never stands in an encoded text is not in this one. -/
theorem not_mem_percentEncode
    {char : Char}
    (reserved : isEncodedChar char = false)
    (text : String) :
    char ∉ (percentEncode text).toList := by
  intro present
  rw [isEncodedChar_of_mem_percentEncode present] at reserved
  exact Bool.noConfusion reserved

/-! ## Decoding -/

/-- The bytes of an encoded byte. -/
def encodedBytes (byte : UInt8) : Bytes :=
  if isUnreserved byte then [byte]
  else
    ['%'.toUInt8, (Text.hexCapital (Text.nibbles byte).1).toUInt8,
      (Text.hexCapital (Text.nibbles byte).2).toUInt8]

/-- An unreserved character is ASCII, so that its only byte is the one it stands for. -/
theorem utf8EncodeChar_of_isUnreserved
    {byte : UInt8}
    (unreserved : isUnreserved byte = true) :
    String.utf8EncodeChar (Char.ofNat byte.toNat) = [byte] := by
  have all : ∀ value : Fin 256, isUnreserved (UInt8.ofNat value) = true →
      String.utf8EncodeChar (Char.ofNat value) = [UInt8.ofNat value] := by
    decide +kernel
  have found := all ⟨byte.toNat, byte.toNat_lt⟩
  rw [UInt8.ofNat_toNat] at found
  exact found unreserved

theorem utf8EncodeChar_hexCapital (value : Fin 16) :
    String.utf8EncodeChar (Text.hexCapital value) = [(Text.hexCapital value).toUInt8] := by
  revert value
  decide

/-- The characters of an encoded byte are ASCII, one byte each. -/
theorem flatMap_encodeByte (byte : UInt8) :
    (encodeByte byte).flatMap String.utf8EncodeChar = encodedBytes byte := by
  unfold encodeByte encodedBytes
  split
  · next unreserved =>
      rw [List.flatMap_singleton, utf8EncodeChar_of_isUnreserved unreserved]
  · simp only [List.flatMap_cons, List.flatMap_nil, utf8EncodeChar_hexCapital]
    rfl

/-- A byte that begins no escape stands for itself. -/
theorem decodeBytes_cons_of_forall
    {first : UInt8}
    {rest : Bytes}
    (noEscape : ∀ second third behind,
      rest = second :: third :: behind → escape? first second third = none) :
    decodeBytes (first :: rest) = first :: decodeBytes rest := by
  match rest with
  | [] => rfl
  | [_] => rfl
  | second :: third :: behind => rw [decodeBytes, noEscape second third behind rfl]

theorem decodeBytes_cons
    {byte : UInt8}
    (isPlain : byte ≠ '%'.toUInt8)
    (rest : Bytes) :
    decodeBytes (byte :: rest) = byte :: decodeBytes rest :=
  decodeBytes_cons_of_forall fun _ _ _ _ => if_neg isPlain

theorem hexByte?_hexCapital (value : Fin 16) :
    hexByte? (Text.hexCapital value).toUInt8 = some value := by
  revert value
  decide

/-- Decoding takes back the encoding of one byte, whatever follows. -/
theorem decodeBytes_encodedBytes_append
    (byte : UInt8)
    (rest : Bytes) :
    decodeBytes (encodedBytes byte ++ rest) = byte :: decodeBytes rest := by
  unfold encodedBytes
  split
  · next unreserved =>
      have isPlain : byte ≠ '%'.toUInt8 := by
        rintro rfl
        revert unreserved
        decide
      exact decodeBytes_cons isPlain rest
  · simp [decodeBytes, escape?, hexByte?_hexCapital]

/-- Decoding takes back the encoding of bytes, whatever follows. -/
theorem decodeBytes_flatMap_encodedBytes_append (bytes rest : Bytes) :
    decodeBytes (bytes.flatMap encodedBytes ++ rest) = bytes ++ decodeBytes rest := by
  induction bytes with
  | nil => rfl
  | cons byte bytes inductionHypothesis =>
      rw [List.flatMap_cons, List.append_assoc, decodeBytes_encodedBytes_append,
        inductionHypothesis]
      rfl

/-- Decoding takes back the encoding of bytes. -/
theorem decodeBytes_flatMap_encodedBytes (bytes : Bytes) :
    decodeBytes (bytes.flatMap encodedBytes) = bytes := by
  have decoded := decodeBytes_flatMap_encodedBytes_append bytes []
  have isEmpty : decodeBytes [] = [] := rfl
  rwa [isEmpty, List.append_nil, List.append_nil] at decoded

theorem encode_percentEncode (text : String) :
    Text.encode (percentEncode text) = (Text.encode text).flatMap encodedBytes := by
  rw [percentEncode, Text.encode, String.toList_ofList, List.flatMap_assoc]
  simp only [flatMap_encodeByte]

@[simp] theorem percentDecode_percentEncode (text : String) :
    percentDecode (percentEncode text) = text := by
  rw [percentDecode, encode_percentEncode, decodeBytes_flatMap_encodedBytes,
    Text.decodeLossy_encode]

/-- Only the empty text has an empty encoded form. -/
theorem percentEncode_eq_empty_iff {text : String} : percentEncode text = "" ↔ text = "" := by
  constructor
  · intro isEmpty
    have decoded : percentDecode (percentEncode text) = percentDecode (percentEncode "") :=
      congrArg percentDecode isEmpty
    rwa [percentDecode_percentEncode, percentDecode_percentEncode] at decoded
  · rintro rfl
    rfl

/-- Decoding bytes that are not empty leaves some. -/
theorem decodeBytes_ne_nil
    {bytes : Bytes}
    (nonempty : bytes ≠ []) :
    decodeBytes bytes ≠ [] := by
  match bytes with
  | [] => exact absurd rfl nonempty
  | [_] => simp [decodeBytes]
  | [_, _] => simp [decodeBytes]
  | first :: second :: third :: rest =>
      unfold decodeBytes
      split <;> simp

theorem percentDecode_ne_empty
    {text : String}
    (nonempty : text ≠ "") :
    percentDecode text ≠ "" :=
  Text.decodeLossy_ne_empty (decodeBytes_ne_nil (Text.encode_ne_nil nonempty))

/-! ## Texts that stay as they are -/

/-- Whether a text holds nothing but unreserved characters. -/
def isPlain (text : String) : Bool :=
  text.toList.all fun char => char.toNat ≤ 127 && isUnreserved (UInt8.ofNat char.toNat)

/-- An unreserved character is encoded as itself. -/
theorem encodeByte_of_isUnreserved
    {char : Char}
    (isAscii : char.toNat ≤ 127)
    (unreserved : isUnreserved (UInt8.ofNat char.toNat) = true) :
    (String.utf8EncodeChar char).flatMap encodeByte = [char] := by
  have value := Text.toNat_byte (show char.toNat < 256 by omega)
  rw [Text.utf8EncodeChar_of_le_127 isAscii, List.flatMap_singleton, encodeByte,
    if_pos unreserved, value, Char.ofNat_toNat]

/-- A text of unreserved characters is its own encoded form. -/
theorem percentEncode_of_isPlain
    {text : String}
    (plain : isPlain text = true) :
    percentEncode text = text := by
  have unchanged : ∀ chars : List Char,
      chars.all (fun char => char.toNat ≤ 127 && isUnreserved (UInt8.ofNat char.toNat)) = true →
      (chars.flatMap String.utf8EncodeChar).flatMap encodeByte = chars := by
    intro chars allPlain
    induction chars with
    | nil => rfl
    | cons char chars inductionHypothesis =>
        simp only [List.all_cons, Bool.and_eq_true, decide_eq_true_eq] at allPlain
        obtain ⟨⟨isAscii, unreserved⟩, restPlain⟩ := allPlain
        rw [List.flatMap_cons, List.flatMap_append, encodeByte_of_isUnreserved isAscii unreserved,
          inductionHypothesis restPlain]
        rfl
  rw [percentEncode, Text.encode, unchanged text.toList plain, String.ofList_toList]

/-- A reserved character does not stand in a text of unreserved ones. -/
theorem not_mem_of_isPlain
    {text : String}
    {char : Char}
    (plain : isPlain text = true)
    (reserved : isEncodedChar char = false) :
    char ∉ text.toList := by
  rw [← percentEncode_of_isPlain plain]
  exact not_mem_percentEncode reserved text

/-! ## Queries -/

/-- The written form of a name with a value. -/
def writePair (pair : String × String) : String := pair.1 ++ "=" ++ percentEncode pair.2

/-- A reserved character other than the sign of equality does not stand in a written pair. -/
theorem not_mem_writePair
    {pair : String × String}
    {char : Char}
    (plain : isPlain pair.1 = true)
    (reserved : isEncodedChar char = false)
    (different : char ≠ '=') :
    char ∉ (writePair pair).toList := by
  simp [writePair, not_mem_of_isPlain plain reserved, not_mem_percentEncode reserved, different]

theorem writePair_ne_empty (pair : String × String) : writePair pair ≠ "" := by
  intro isEmpty
  have chars := congrArg String.toList isEmpty
  simp [writePair] at chars

/-- A written pair is read back. -/
theorem readPair_writePair
    {pair : String × String}
    (plain : isPlain pair.1 = true) :
    readPair (writePair pair) = pair := by
  have noPlus : isEncodedChar '+' = false := by decide
  have nameDecoded : percentDecode pair.1 = pair.1 := by
    have decoded := percentDecode_percentEncode pair.1
    rwa [percentEncode_of_isPlain plain] at decoded
  rw [readPair, writePair, show ("=" : String) = String.singleton '=' from rfl,
    Text.cut_append (not_mem_of_isPlain plain (by decide : isEncodedChar '=' = false))]
  simp only [Option.getD_some, Text.replaceChar_of_not_mem (not_mem_of_isPlain plain noPlus),
    Text.replaceChar_of_not_mem (not_mem_percentEncode noPlus pair.2), nameDecoded,
    percentDecode_percentEncode]

/-- A query of pieces that are not empty is read piece by piece. -/
theorem queryParams_intercalate_eq_map
    {first : String}
    {others : List String}
    (apart : ∀ piece ∈ first :: others, '&' ∉ piece.toList ∧ piece ≠ "") :
    queryParams ("&".intercalate (first :: others)) = (first :: others).map readPair := by
  have kept : (first :: others).filter (· ≠ "") = first :: others :=
    List.filter_eq_self.2 fun piece present => decide_eq_true (apart piece present).2
  rw [queryParams, show ("&" : String) = String.singleton '&' from rfl,
    Text.split_intercalate fun piece present => (apart piece present).1, kept]

/-- A query of written pairs is read as these pairs. -/
theorem queryParams_intercalate
    {first : String × String}
    {others : List (String × String)}
    (plain : ∀ pair ∈ first :: others, isPlain pair.1 = true) :
    queryParams ("&".intercalate ((first :: others).map writePair)) = first :: others := by
  have apart : ∀ piece ∈ writePair first :: others.map writePair,
      '&' ∉ piece.toList ∧ piece ≠ "" := by
    intro piece present
    obtain ⟨pair, inPairs, rfl⟩ := List.mem_map.1 (List.map_cons ▸ present)
    exact ⟨not_mem_writePair (plain pair inPairs) (by decide) (by decide), writePair_ne_empty pair⟩
  have read : ∀ pair ∈ first :: others, readPair (writePair pair) = pair :=
    fun pair inPairs => readPair_writePair (plain pair inPairs)
  rw [List.map_cons, queryParams_intercalate_eq_map apart, ← List.map_cons, List.map_map]
  exact (List.map_congr_left read).trans (List.map_id _)

end Url

end Screencast
