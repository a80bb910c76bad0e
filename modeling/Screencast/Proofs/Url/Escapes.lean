import Screencast.Proofs.Url.Percent
import Screencast.Proofs.Uuid

/-!
# Escapes in a text

An encoded text is written in unreserved characters and escapes alone.  Decoding changes a text
exactly if there is an escape in it.  The replacement of invalid bytes cannot hide such a change,
since the three characters of an escape become one byte, and a byte makes at most one character.
What is no escape is kept, and what an escape stands for is not decoded again.
-/

namespace Screencast

namespace Url

/-! ## The form of an encoded text -/

/-- Whether a character is unreserved: an ASCII letter or digit, or one of four marks. -/
def isUnreservedChar (char : Char) : Bool :=
  char.isAlphanum || char = '-' || char = '.' || char = '_' || char = '~'

/-- Whether a character is a hexadecimal digit, with the letters in upper case. -/
def isCapitalDigit (char : Char) : Bool :=
  ('0' ≤ char && char ≤ '9') || ('A' ≤ char && char ≤ 'F')

/-- Each of the characters is unreserved or belongs to an escape with digits in upper case. -/
inductive IsEncoded : List Char → Prop
  | nil : IsEncoded []
  | unreserved
      {char : Char}
      {rest : List Char}
      (isPlain : isUnreservedChar char = true)
      (encoded : IsEncoded rest) :
      IsEncoded (char :: rest)
  | escape
      {high low : Char}
      {rest : List Char}
      (isHigh : isCapitalDigit high = true)
      (isLow : isCapitalDigit low = true)
      (encoded : IsEncoded rest) :
      IsEncoded ('%' :: high :: low :: rest)

theorem isCapitalDigit_hexCapital (value : Fin 16) :
    isCapitalDigit (Text.hexCapital value) = true := by
  revert value
  decide

/-- The encoded form of a byte can be put before such characters. -/
theorem IsEncoded.encodeByte_append
    {rest : List Char}
    (encoded : IsEncoded rest)
    (byte : UInt8) :
    IsEncoded (encodeByte byte ++ rest) := by
  unfold encodeByte
  split
  · next isPlain => exact .unreserved isPlain encoded
  · exact .escape (isCapitalDigit_hexCapital _) (isCapitalDigit_hexCapital _) encoded

/-- An encoded text is made up in this way. -/
theorem isEncoded_percentEncode (text : String) : IsEncoded (percentEncode text).toList := by
  rw [percentEncode, String.toList_ofList]
  induction Text.encode text with
  | nil => exact .nil
  | cons byte bytes inductionHypothesis =>
      rw [List.flatMap_cons]
      exact inductionHypothesis.encodeByte_append byte

/-! ## Escapes -/

/-- Whether a character is a hexadecimal digit, in either case. -/
def isHexDigit (char : Char) : Bool := isCapitalDigit char || ('a' ≤ char && char ≤ 'f')

/-- An escape is a percent sign with two hexadecimal digits. -/
def IsEscape (chars : List Char) : Prop :=
  ∃ high low, isHexDigit high = true ∧ isHexDigit low = true ∧ chars = ['%', high, low]

/-- There is an escape at the beginning of the characters. -/
def StartsWithEscape (chars : List Char) : Prop := ∃ escape, IsEscape escape ∧ escape <+: chars

/-- There is an escape somewhere in the characters. -/
def HoldsEscape (chars : List Char) : Prop := ∃ escape, IsEscape escape ∧ escape <:+: chars

/-- A hexadecimal digit is a character with a value. -/
theorem isSome_hexValue? (char : Char) : (Text.hexValue? char).isSome = isHexDigit char := by
  unfold Text.hexValue? isHexDigit isCapitalDigit
  split
  · simp [*]
  · split
    · simp [*]
    · split <;> simp_all

/-- Characters start with an escape if the two behind a percent sign have values. -/
theorem startsWithEscape_iff {chars : List Char} :
    StartsWithEscape chars ↔
      ∃ high low rest upper lower, chars = '%' :: high :: low :: rest ∧
        Text.hexValue? high = some upper ∧ Text.hexValue? low = some lower := by
  constructor
  · rintro ⟨_, ⟨high, low, isHigh, isLow, rfl⟩, rest, rfl⟩
    rw [← isSome_hexValue?] at isHigh isLow
    obtain ⟨upper, isUpper⟩ := Option.isSome_iff_exists.1 isHigh
    obtain ⟨lower, isLower⟩ := Option.isSome_iff_exists.1 isLow
    exact ⟨high, low, rest, upper, lower, rfl, isUpper, isLower⟩
  · rintro ⟨high, low, rest, upper, lower, rfl, isUpper, isLower⟩
    refine ⟨_, ⟨high, low, ?_, ?_, rfl⟩, rest, rfl⟩
    · rw [← isSome_hexValue?, isUpper, Option.isSome_some]
    · rw [← isSome_hexValue?, isLower, Option.isSome_some]

/-- An escape somewhere is at the beginning or behind the first character. -/
theorem holdsEscape_cons_iff {char : Char} {rest : List Char} :
    HoldsEscape (char :: rest) ↔ StartsWithEscape (char :: rest) ∨ HoldsEscape rest := by
  simp only [HoldsEscape, StartsWithEscape, List.infix_cons_iff, and_or_left, exists_or]

theorem not_holdsEscape_nil : ¬HoldsEscape [] := by
  rintro ⟨_, ⟨high, low, _, _, rfl⟩, inNil⟩
  exact List.cons_ne_nil _ _ (List.eq_nil_of_infix_nil inNil)

instance decidableStartsWithEscape : (chars : List Char) → Decidable (StartsWithEscape chars)
  | [] => isFalse (by simp [startsWithEscape_iff])
  | [_] => isFalse (by simp [startsWithEscape_iff])
  | [_, _] => isFalse (by simp [startsWithEscape_iff])
  | first :: high :: low :: rest =>
    decidable_of_iff (first = '%' ∧ isHexDigit high = true ∧ isHexDigit low = true) (by
      simp only [startsWithEscape_iff, ← isSome_hexValue?, Option.isSome_iff_exists]
      constructor
      · rintro ⟨rfl, ⟨upper, isHigh⟩, ⟨lower, isLow⟩⟩
        exact ⟨high, low, rest, upper, lower, rfl, isHigh, isLow⟩
      · rintro ⟨_, _, _, upper, lower, isCons, isHigh, isLow⟩
        cases isCons
        exact ⟨rfl, ⟨upper, isHigh⟩, ⟨lower, isLow⟩⟩)

instance decidableHoldsEscape : (chars : List Char) → Decidable (HoldsEscape chars)
  | [] => isFalse not_holdsEscape_nil
  | char :: rest =>
    have := decidableHoldsEscape rest
    decidable_of_iff _ (@holdsEscape_cons_iff char rest).symm

/-! ## The bytes of an escape -/

/-- An escape has two digits behind its first byte. -/
theorem escape?_eq_none
    {first second third : UInt8}
    (noDigit : hexByte? second = none ∨ hexByte? third = none) :
    escape? first second third = none := by
  unfold escape?
  split
  · rcases noDigit with noHigh | noLow
    · rw [noHigh]
      rfl
    · rw [noLow]
      cases hexByte? second <;> rfl
  · rfl

/-- Decoding starts anew at every byte that is no digit. -/
theorem decodeBytes_append_cons
    {byte : UInt8}
    (noDigit : hexByte? byte = none)
    (before after : Bytes) :
    decodeBytes (before ++ byte :: after) = decodeBytes before ++ decodeBytes (byte :: after) := by
  -- A byte can begin an escape only with two digits behind it.
  have behindOne (first : UInt8) :
      decodeBytes (first :: byte :: after) = first :: decodeBytes (byte :: after) := by
    refine decodeBytes_cons_of_forall fun second third behind isRest => ?_
    obtain ⟨rfl, _⟩ := List.cons.inj isRest
    exact escape?_eq_none (.inl noDigit)
  have behindTwo (first second : UInt8) :
      decodeBytes (first :: second :: byte :: after) =
        first :: second :: decodeBytes (byte :: after) := by
    rw [← behindOne]
    refine decodeBytes_cons_of_forall fun second' third behind isRest => ?_
    obtain ⟨rfl, isRest'⟩ := List.cons.inj isRest
    obtain ⟨rfl, _⟩ := List.cons.inj isRest'
    exact escape?_eq_none (.inr noDigit)
  induction before using decodeBytes.induct with
  | case1 first second third rest value isEscape inductionHypothesis =>
      simp only [List.cons_append, decodeBytes, isEscape, inductionHypothesis]
  | case2 first second third rest noEscape inductionHypothesis =>
      simp only [List.cons_append, decodeBytes, noEscape] at inductionHypothesis ⊢
      rw [inductionHypothesis]
  | case3 before isShort =>
      rcases before with _ | ⟨first, _ | ⟨second, _ | ⟨third, rest⟩⟩⟩
      · rfl
      · exact behindOne first
      · exact behindTwo first second
      · exact absurd rfl (isShort first second third rest)

/-- A digit is a character of one byte, which has the value of the digit. -/
theorem utf8EncodeChar_of_hexValue?
    {char : Char}
    {value : Fin 16}
    (isDigit : Text.hexValue? char = some value) :
    ∃ byte, String.utf8EncodeChar char = [byte] ∧ hexByte? byte = some value := by
  have bounds := Text.bounds_of_hexValue? (Option.isSome_of_eq_some isDigit)
  refine ⟨_, Text.utf8EncodeChar_of_le_127 (by omega), ?_⟩
  rw [hexByte?, Text.toNat_byte (by omega), Char.ofNat_toNat, isDigit]

/-- A digit is an ASCII byte. -/
theorem toNat_le_of_hexByte?
    {byte : UInt8}
    {value : Fin 16}
    (isDigit : hexByte? byte = some value) :
    byte.toNat ≤ 102 := by
  have isValid : byte.toNat.isValidChar :=
    .inl (Nat.lt_trans byte.toNat_lt (by decide))
  have code : (Char.ofNat byte.toNat).toNat = byte.toNat := by
    rw [Char.ofNat, dif_pos isValid]
    rfl
  exact code ▸ (Text.bounds_of_hexValue? (Option.isSome_of_eq_some isDigit)).2

/-- Where the bytes of characters begin with a digit, the characters do. -/
theorem eq_cons_of_hexByte?
    {chars : List Char}
    {byte : UInt8}
    {behind : Bytes}
    {value : Fin 16}
    (isDigit : hexByte? byte = some value)
    (bytes : chars.flatMap String.utf8EncodeChar = byte :: behind) :
    ∃ char rest, chars = char :: rest ∧ Text.hexValue? char = some value ∧
      rest.flatMap String.utf8EncodeChar = behind := by
  have isSmall := toNat_le_of_hexByte? isDigit
  cases chars with
  | nil => cases bytes
  | cons char rest =>
      rw [List.flatMap_cons] at bytes
      by_cases isAscii : char.toNat ≤ 127
      · rw [Text.utf8EncodeChar_of_le_127 isAscii] at bytes
        obtain ⟨rfl, isRest⟩ := List.cons.inj bytes
        rw [hexByte?, Text.toNat_byte (by omega), Char.ofNat_toNat] at isDigit
        exact ⟨char, rest, rfl, isDigit, isRest⟩
      · obtain ⟨lead, others, isCons, _⟩ := Text.exists_utf8EncodeChar_eq_cons char
        have isLong := Text.le_of_mem_utf8EncodeChar (Nat.lt_of_not_le isAscii)
          (isCons ▸ List.mem_cons_self)
        rw [isCons, List.cons_append] at bytes
        obtain ⟨rfl, _⟩ := List.cons.inj bytes
        omega

/-- The digits of an escape are read as its byte. -/
theorem decodeBytes_escape_append
    {high low : Char}
    {upper lower : Fin 16}
    (isHigh : Text.hexValue? high = some upper)
    (isLow : Text.hexValue? low = some lower)
    (rest : Bytes) :
    decodeBytes (['%', high, low].flatMap String.utf8EncodeChar ++ rest) =
      Text.ofNibbles upper lower :: decodeBytes rest := by
  obtain ⟨second, secondBytes, isSecond⟩ := utf8EncodeChar_of_hexValue? isHigh
  obtain ⟨third, thirdBytes, isThird⟩ := utf8EncodeChar_of_hexValue? isLow
  have bytes : ['%', high, low].flatMap String.utf8EncodeChar = ['%'.toUInt8, second, third] := by
    simp only [List.flatMap_cons, List.flatMap_nil, secondBytes, thirdBytes]
    rfl
  have isEscape : escape? '%'.toUInt8 second third = some (Text.ofNibbles upper lower) := by
    rw [escape?, if_pos rfl, isSecond, isThird]
    rfl
  simp only [bytes, List.cons_append, List.nil_append, decodeBytes, isEscape]

/-- Bytes without a percent sign are read as they stand. -/
theorem decodeBytes_append_of_not_mem
    {bytes : Bytes}
    (absent : '%'.toUInt8 ∉ bytes)
    (rest : Bytes) :
    decodeBytes (bytes ++ rest) = bytes ++ decodeBytes rest := by
  induction bytes with
  | nil => rfl
  | cons byte bytes inductionHypothesis =>
      simp only [List.mem_cons, not_or] at absent
      rw [List.cons_append, decodeBytes_cons (Ne.symm absent.1), inductionHypothesis absent.2,
        List.cons_append]

/-- The percent sign is a byte of no other character. -/
theorem not_mem_utf8EncodeChar
    {char : Char}
    (isOther : char ≠ '%') :
    '%'.toUInt8 ∉ String.utf8EncodeChar char := by
  intro present
  by_cases isAscii : char.toNat ≤ 127
  · rw [Text.utf8EncodeChar_of_le_127 isAscii, List.mem_singleton] at present
    have code := congrArg UInt8.toNat present
    rw [Text.toNat_byte (by omega)] at code
    exact isOther (Char.toNat_inj.1 code.symm)
  · have isLong := Text.le_of_mem_utf8EncodeChar (Nat.lt_of_not_le isAscii) present
    exact absurd isLong (by decide)

/-- A character that no escape begins with is read as it stands. -/
theorem decodeBytes_encodeChar_append
    {char : Char}
    {rest : List Char}
    (noEscape : ¬StartsWithEscape (char :: rest)) :
    decodeBytes (String.utf8EncodeChar char ++ rest.flatMap String.utf8EncodeChar) =
      String.utf8EncodeChar char ++ decodeBytes (rest.flatMap String.utf8EncodeChar) := by
  by_cases isPercent : char = '%'
  · subst isPercent
    refine decodeBytes_cons_of_forall fun second third behind isRest => ?_
    -- Two digits behind the percent sign would be those of an escape.
    cases isHigh : hexByte? second with
    | none => exact escape?_eq_none (.inl isHigh)
    | some upper =>
        cases isLow : hexByte? third with
        | none => exact escape?_eq_none (.inr isLow)
        | some lower =>
            obtain ⟨high, rest', rfl, highDigit, isRest'⟩ := eq_cons_of_hexByte? isHigh isRest
            obtain ⟨low, rest'', rfl, lowDigit, _⟩ := eq_cons_of_hexByte? isLow isRest'
            exact absurd (startsWithEscape_iff.2
              ⟨high, low, rest'', upper, lower, rfl, highDigit, lowDigit⟩) noEscape
  · exact decodeBytes_append_of_not_mem (not_mem_utf8EncodeChar isPercent) _

/-! ## What characters stand for -/

/-- The bytes that characters stand for: an escape stands for the byte that its digits write, and a
character that no escape begins with stands for itself. -/
inductive StandsFor : List Char → Bytes → Prop
  | nil : StandsFor [] []
  | escape
      {high low : Char}
      {upper lower : Fin 16}
      {rest : List Char}
      {bytes : Bytes}
      (isHigh : Text.hexValue? high = some upper)
      (isLow : Text.hexValue? low = some lower)
      (standsFor : StandsFor rest bytes) :
      StandsFor ('%' :: high :: low :: rest) (Text.ofNibbles upper lower :: bytes)
  | plain
      {char : Char}
      {rest : List Char}
      {bytes : Bytes}
      (noEscape : ¬StartsWithEscape (char :: rest))
      (standsFor : StandsFor rest bytes) :
      StandsFor (char :: rest) (String.utf8EncodeChar char ++ bytes)

/-- Decoding reads the bytes that characters stand for. -/
theorem standsFor_decodeBytes (chars : List Char) :
    StandsFor chars (decodeBytes (chars.flatMap String.utf8EncodeChar)) := by
  -- The induction is on the number of characters, since an escape takes three of them at once.
  induction size : chars.length using Nat.strongRecOn generalizing chars with
  | ind size inductionHypothesis =>
      cases chars with
      | nil => exact .nil
      | cons char rest =>
          subst size
          by_cases escapes : StartsWithEscape (char :: rest)
          · obtain ⟨high, low, rest', upper, lower, isCons, isHigh, isLow⟩ :=
              startsWithEscape_iff.1 escapes
            obtain ⟨rfl, rfl⟩ := List.cons.inj isCons
            have decoded := decodeBytes_escape_append isHigh isLow
              (rest'.flatMap String.utf8EncodeChar)
            rw [← List.flatMap_append] at decoded
            exact decoded ▸ .escape isHigh isLow
              (inductionHypothesis _ (by simp only [List.length_cons]; omega) rest' rfl)
          · rw [List.flatMap_cons, decodeBytes_encodeChar_append escapes]
            exact .plain escapes (inductionHypothesis _ (Nat.lt_succ_self _) rest rfl)

namespace StandsFor

variable {chars : List Char} {bytes : Bytes}

/-- Characters without an escape stand for themselves. -/
theorem eq_of_not_holdsEscape
    (standsFor : StandsFor chars bytes)
    (noEscape : ¬HoldsEscape chars) :
    bytes = chars.flatMap String.utf8EncodeChar := by
  induction standsFor with
  | nil => rfl
  | escape isHigh isLow _ _ =>
      exact absurd (holdsEscape_cons_iff.2 (.inl (startsWithEscape_iff.2
        ⟨_, _, _, _, _, rfl, isHigh, isLow⟩))) noEscape
  | plain _ _ inductionHypothesis =>
      rw [List.flatMap_cons,
        inductionHypothesis fun inRest => noEscape (holdsEscape_cons_iff.2 (.inr inRest))]

/-- There are no more characters to be read in the bytes than there are characters that stand for
them, whether or not the bytes are valid. -/
theorem length_scan_le (standsFor : StandsFor chars bytes) :
    (Text.scan bytes).length ≤ chars.length := by
  induction standsFor with
  | nil => simp [Text.scan]
  | escape _ _ _ inductionHypothesis =>
      refine Nat.le_trans (Text.length_scan_cons_le _ _) ?_
      simp only [List.length_cons]
      omega
  | plain _ _ inductionHypothesis =>
      rw [Text.scan_encodeChar_append, List.length_cons, List.length_cons]
      exact Nat.succ_le_succ inductionHypothesis

/-- With an escape among the characters there are fewer to be read. -/
theorem length_scan_lt
    (standsFor : StandsFor chars bytes)
    (holds : HoldsEscape chars) :
    (Text.scan bytes).length < chars.length := by
  induction standsFor with
  | nil => exact absurd holds not_holdsEscape_nil
  | escape _ _ standsFor _ =>
      refine Nat.lt_of_le_of_lt (Text.length_scan_cons_le _ _) ?_
      have fewer := standsFor.length_scan_le
      simp only [List.length_cons]
      omega
  | plain noEscape _ inductionHypothesis =>
      have inRest := (holdsEscape_cons_iff.1 holds).resolve_left noEscape
      rw [Text.scan_encodeChar_append, List.length_cons, List.length_cons]
      exact Nat.succ_lt_succ (inductionHypothesis inRest)

end StandsFor

/-! ## Texts -/

/-- A text with an escape is shorter when decoded, also where its bytes become replacement
characters. -/
theorem length_percentDecode_lt
    {text : String}
    (holds : HoldsEscape text.toList) :
    (percentDecode text).length < text.length := by
  have fewer := (standsFor_decodeBytes text.toList).length_scan_lt holds
  rw [← Text.encode] at fewer
  rwa [percentDecode, Text.decodeLossy, String.length_ofList, List.length_map,
    ← String.length_toList]

/-- A text is left as it is exactly if no escape is in it. -/
theorem percentDecode_eq_self_iff (text : String) :
    percentDecode text = text ↔ ¬HoldsEscape text.toList := by
  constructor
  · intro unchanged holds
    exact Nat.ne_of_lt (length_percentDecode_lt holds) (congrArg String.length unchanged)
  · intro noEscape
    rw [percentDecode, Text.encode,
      (standsFor_decodeBytes text.toList).eq_of_not_holdsEscape noEscape]
    exact Text.decodeLossy_encode text

/-- Characters that are written in escapes alone, with the bytes of these. -/
inductive Spells : List Char → Bytes → Prop
  | nil : Spells [] []
  | cons
      {high low : Char}
      {upper lower : Fin 16}
      {rest : List Char}
      {bytes : Bytes}
      (isHigh : Text.hexValue? high = some upper)
      (isLow : Text.hexValue? low = some lower)
      (spells : Spells rest bytes) :
      Spells ('%' :: high :: low :: rest) (Text.ofNibbles upper lower :: bytes)

/-- Escapes are read as their bytes. -/
theorem Spells.decodeBytes_append
    {chars : List Char}
    {bytes : Bytes}
    (spells : Spells chars bytes)
    (rest : Bytes) :
    decodeBytes (chars.flatMap String.utf8EncodeChar ++ rest) = bytes ++ decodeBytes rest := by
  induction spells with
  | nil => rfl
  | @cons high low upper lower chars bytes isHigh isLow spells inductionHypothesis =>
      have parts : '%' :: high :: low :: chars = ['%', high, low] ++ chars := rfl
      rw [parts, List.flatMap_append, List.append_assoc, decodeBytes_escape_append isHigh isLow,
        inductionHypothesis, List.cons_append]

/-- Escapes begin with a percent sign, if there are any. -/
theorem Spells.exists_eq_cons
    {chars : List Char}
    {bytes : Bytes}
    (spells : Spells chars bytes)
    (filled : bytes ≠ []) :
    ∃ others, chars.flatMap String.utf8EncodeChar = '%'.toUInt8 :: others := by
  cases spells with
  | nil => exact absurd rfl filled
  | cons _ _ _ => exact ⟨_, rfl⟩

/-- What is decoded to one character, and begins with no digit, has what stands around it decoded on
its own. -/
theorem percentDecode_append_append
    {middle after : String}
    {char : Char}
    {first : UInt8}
    {others : Bytes}
    (isCons : Text.encode middle = first :: others)
    (noDigit : hexByte? first = none)
    (decoded : decodeBytes (Text.encode middle ++ Text.encode after) =
      String.utf8EncodeChar char ++ decodeBytes (Text.encode after))
    (before : String) :
    percentDecode (before ++ middle ++ after) =
      percentDecode before ++ String.singleton char ++ percentDecode after := by
  rw [isCons, List.cons_append] at decoded
  rw [percentDecode, Text.encode_append, Text.encode_append, List.append_assoc, isCons,
    List.cons_append, decodeBytes_append_cons noDigit, decoded,
    Text.decodeLossy_append_encodeChar_append, percentDecode, percentDecode]

/-- A character that is no digit has no digit as its first byte. -/
theorem exists_utf8EncodeChar_eq_cons_of_not_isHexDigit
    {char : Char}
    (noDigit : isHexDigit char = false) :
    ∃ first others, String.utf8EncodeChar char = first :: others ∧ hexByte? first = none := by
  obtain ⟨first, others, isCons, _⟩ := Text.exists_utf8EncodeChar_eq_cons char
  refine ⟨first, others, isCons, ?_⟩
  cases isDigit : hexByte? first with
  | none => rfl
  | some value =>
      have bytes : [char].flatMap String.utf8EncodeChar = first :: others := by
        rw [List.flatMap_singleton, isCons]
      obtain ⟨_, _, sameChars, hasValue, _⟩ := eq_cons_of_hexByte? isDigit bytes
      obtain ⟨rfl, _⟩ := List.cons.inj sameChars
      rw [← isSome_hexValue?, hasValue] at noDigit
      cases noDigit

/-- A character that is no digit and begins no escape is kept, and what stands around it is decoded
on its own. -/
theorem percentDecode_append_singleton_append
    {char : Char}
    {after : String}
    (noDigit : isHexDigit char = false)
    (noEscape : ¬StartsWithEscape (char :: after.toList))
    (before : String) :
    percentDecode (before ++ String.singleton char ++ after) =
      percentDecode before ++ String.singleton char ++ percentDecode after := by
  obtain ⟨first, others, isCons, firstPlain⟩ :=
    exists_utf8EncodeChar_eq_cons_of_not_isHexDigit noDigit
  have bytes : Text.encode (String.singleton char) = String.utf8EncodeChar char := by
    simp [Text.encode]
  refine percentDecode_append_append (bytes.trans isCons) firstPlain ?_ before
  rw [bytes]
  exact decodeBytes_encodeChar_append noEscape

/-- The escapes of a character's bytes are decoded to this character, and what stands around them is
decoded on its own. -/
theorem percentDecode_append_spelling_append
    {char : Char}
    {spelling : String}
    (spells : Spells spelling.toList (String.utf8EncodeChar char))
    (before after : String) :
    percentDecode (before ++ spelling ++ after) =
      percentDecode before ++ String.singleton char ++ percentDecode after := by
  obtain ⟨others, isCons⟩ := spells.exists_eq_cons String.utf8EncodeChar_ne_nil
  exact percentDecode_append_append isCons (by decide) (spells.decodeBytes_append _) before

/-- Percent-encoding and decoding. An encoded text is written in unreserved characters and escapes
with digits in upper case, and is decoded to the text. Decoding leaves a text as it is exactly if no
escape is in it. Wherever it stands, a character that is no digit and begins no escape is kept, such
as a percent sign without two digits behind it; and the escapes of a character are decoded to this
character, which is not decoded again together with what stands around it. -/
theorem percentEncode_isEncoded_and_percentDecode_eq (text : String) :
    IsEncoded (percentEncode text).toList ∧
      percentDecode (percentEncode text) = text ∧
      (percentDecode text = text ↔ ¬HoldsEscape text.toList) ∧
      (∀ before char,
        isHexDigit char = false → ¬StartsWithEscape (char :: text.toList) →
          percentDecode (before ++ String.singleton char ++ text) =
            percentDecode before ++ String.singleton char ++ percentDecode text) ∧
      ∀ before char spelling,
        Spells spelling.toList (String.utf8EncodeChar char) →
          percentDecode (before ++ spelling ++ text) =
            percentDecode before ++ String.singleton char ++ percentDecode text :=
  ⟨isEncoded_percentEncode text, percentDecode_percentEncode text, percentDecode_eq_self_iff text,
    fun before _ noDigit noEscape => percentDecode_append_singleton_append noDigit noEscape before,
    fun before _ _ spells => percentDecode_append_spelling_append spells before text⟩

/-- Behind a character that is cut short, a percent sign with one digit is kept. An escaped digit
behind a percent sign makes no escape with the digit that follows it. -/
theorem percentEncode_isEncoded_and_percentDecode_eq_of_malformed :
    ¬HoldsEscape "1%zz".toList ∧ percentDecode "1%zz" = "1%zz" ∧
      ¬StartsWithEscape "%1%zz".toList ∧ percentDecode "%C3%1%zz" = "\uFFFD%1%zz" ∧
      Spells "%34".toList (String.utf8EncodeChar '4') ∧ percentDecode "%%341%zz" = "%41%zz" := by
  obtain ⟨_, _, unchanged, kept, once⟩ := percentEncode_isEncoded_and_percentDecode_eq "1%zz"
  have noEscape : ¬HoldsEscape "1%zz".toList := by decide
  have isPlain : percentDecode "1%zz" = "1%zz" := unchanged.2 noEscape
  have noStart : ¬StartsWithEscape "%1%zz".toList := by decide
  have cutShort : percentDecode "%C3" = "\uFFFD" := by
    have bytes : decodeBytes (Text.encode "%C3") = [0xC3] := by decide
    rw [percentDecode, bytes, Text.decodeLossy, Text.scan]
    simp [Text.decodeFirst, Text.scan]
  have alone : percentDecode "%" = "%" := (percentDecode_eq_self_iff "%").2 (by decide)
  have spells : Spells ['%', '3', '4'] [Text.ofNibbles 3 4] :=
    .cons (by decide) (by decide) .nil
  refine ⟨noEscape, isPlain, noStart, ?_, spells, ?_⟩
  · have parts := kept "%C3" '%' (by decide) noStart
    rw [isPlain, cutShort] at parts
    exact parts
  · have parts := once "%" '4' "%34" spells
    rw [isPlain, alone] at parts
    exact parts

end Url

end Screencast
