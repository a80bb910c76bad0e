import Screencast.Json.Printer
import Screencast.Json.Reader
import Screencast.Proofs.Text.Utf8

/-!
# Integers and texts in JSON

An integer is written as its decimal digits. It is read again if it fits 64 bits and nothing follows
that could go on with a number. Every text survives between quotes: what would end the string, what
would begin an escape and what must not stand in a string is escaped, all other characters stand for
themselves.
-/

namespace Screencast

/-! ## Digits -/

/-- The decimal digits of a number, the first one first. -/
def decimalDigits (number : Nat) : List Nat :=
  (Nat.toDigits 10 number).map fun char => char.toNat - 48

theorem decimalDigits_of_lt
    {number : Nat}
    (below : number < 10) :
    decimalDigits number = [number] := by
  rw [decimalDigits, Nat.toDigits_of_lt_base below, List.map_singleton,
    Nat.toNat_digitChar_sub_48_of_lt_ten below]

/-- A number that is not below ten has the digits of its tenth and one more. -/
theorem decimalDigits_of_le
    {number : Nat}
    (atLeast : 10 ≤ number) :
    decimalDigits number = decimalDigits (number / 10) ++ [number % 10] := by
  have isDigit := Nat.toNat_digitChar_sub_48_of_lt_ten (Nat.mod_lt number (by decide : 0 < 10))
  rw [decimalDigits, Nat.toDigits_of_base_le (by decide) atLeast, List.map_append,
    List.map_singleton, isDigit, decimalDigits]

/-- A number has digits, and the first of them is zero only if the number is. -/
theorem exists_decimalDigits_eq_cons (number : Nat) :
    ∃ first rest, decimalDigits number = first :: rest ∧ (first = 0 → number = 0) := by
  induction number using Nat.strongRecOn with
  | ind number inductionHypothesis =>
      rcases Nat.lt_or_ge number 10 with below | atLeast
      · exact ⟨number, [], decimalDigits_of_lt below, fun isZero => isZero⟩
      · obtain ⟨first, rest, isTenth, isZero⟩ := inductionHypothesis (number / 10) (by omega)
        refine ⟨first, rest ++ [number % 10], ?_, fun firstIsZero => ?_⟩
        · rw [decimalDigits_of_le atLeast, isTenth, List.cons_append]
        · have tenthIsZero := isZero firstIsZero
          omega

namespace NumberSource

/-- The value of the digits of a number is the number. -/
theorem valueOfDigits_decimalDigits (number : Nat) :
    valueOfDigits (decimalDigits number) = number := by
  induction number using Nat.strongRecOn with
  | ind number inductionHypothesis =>
      rcases Nat.lt_or_ge number 10 with below | atLeast
      · simp [decimalDigits_of_lt below, valueOfDigits]
      · have isTenth := inductionHypothesis (number / 10) (by omega)
        rw [valueOfDigits] at isTenth
        rw [decimalDigits_of_le atLeast, valueOfDigits, List.foldl_append, isTenth, List.foldl_cons,
          List.foldl_nil]
        omega

theorem le_foldl_digits (digits : List Nat) (start : Nat) :
    start ≤ digits.foldl (fun value digit => value * 10 + digit) start := by
  induction digits generalizing start with
  | nil => exact Nat.le_refl start
  | cons digit rest inductionHypothesis =>
      exact Nat.le_trans (by omega) (inductionHypothesis (start * 10 + digit))

/-- Digits are collected as long as their value fits. -/
theorem collect_of_le
    {digits : List Nat}
    {start : Nat}
    (fits : digits.foldl (fun value digit => value * 10 + digit) start ≤ Bounds.greatestLong) :
    collect start digits = (digits.foldl (fun value digit => value * 10 + digit) start, []) := by
  induction digits generalizing start with
  | nil => rfl
  | cons digit rest inductionHypothesis =>
      rw [List.foldl_cons] at fits ⊢
      have fitsHere := Nat.le_trans (le_foldl_digits rest (start * 10 + digit)) fits
      rw [collect, if_neg (Nat.not_lt.2 fitsHere)]
      exact inductionHypothesis fits

/-- An integer as it is written. -/
def ofInt (value : Int) : NumberSource :=
  { negative := decide (value < 0), whole := decimalDigits value.natAbs, fraction := [],
    exponent := none }

/-- An integer that fits 64 bits is read from its digits. -/
theorem toNumber?_ofInt
    {value : Int}
    (least : Bounds.leastSigned ≤ value)
    (greatest : value ≤ Bounds.greatestLong) :
    (ofInt value).toNumber? = some (Number.integer value) := by
  simp only [Bounds.leastSigned, Bounds.greatestLong] at least greatest
  have fits : valueOfDigits (decimalDigits value.natAbs) ≤ Bounds.greatestLong := by
    rw [valueOfDigits_decimalDigits, Bounds.greatestLong]
    omega
  have collected : collect 0 (decimalDigits value.natAbs) = (value.natAbs, []) := by
    rw [collect_of_le fits]
    exact congrArg (·, []) (valueOfDigits_decimalDigits value.natAbs)
  rcases Int.lt_or_le value 0 with isNegative | isNatural
  · have isInRange : ¬(value.natAbs = 0 ∨ Bounds.leastSigned.natAbs < value.natAbs) := by
      simp only [Bounds.leastSigned]
      omega
    have isValue : -(value.natAbs : Int) = value := by omega
    simp only [toNumber?, ofInt, collected, List.isEmpty_nil, Option.isNone_none, and_self,
      decide_eq_true isNegative, if_true, if_neg isInRange, isValue]
  · have isValue : (value.natAbs : Int) = value := by omega
    simp only [toNumber?, ofInt, collected, List.isEmpty_nil, Option.isNone_none, and_self,
      decide_eq_false (Int.not_lt.2 isNatural), Bool.false_eq_true, if_true, if_false, isValue]

end NumberSource

/-! ## Reading integers -/

namespace JsonSource

/-- Nothing follows that could go on with a number. -/
def EndsNumber (bytes : Bytes) : Prop :=
  ∀ byte ∈ bytes.head?, digit? byte = none ∧ byte ≠ 0x2E ∧ byte ≠ 0x65 ∧ byte ≠ 0x45

variable {rest : Bytes}

/-- A decimal digit is read as its value. -/
theorem digit?_of_isDigit
    {char : Char}
    (isDigit : char.isDigit = true) :
    digit? (UInt8.ofNat char.toNat) = some (char.toNat - 48) := by
  obtain ⟨atLeast, atMost⟩ := Char.isDigit_iff_toNat.1 isDigit
  have least : 48 ≤ char.toNat := atLeast
  have most : char.toNat ≤ 57 := atMost
  have byteValue := Text.toNat_byte (show char.toNat < 256 by omega)
  have inRange : (0x30 ≤ UInt8.ofNat char.toNat && UInt8.ofNat char.toNat ≤ 0x39) = true := by
    simp only [UInt8.le_iff_toNat_le, byteValue, UInt8.reduceToNat, Bool.and_eq_true,
      decide_eq_true_eq]
    omega
  rw [digit?, if_pos inRange, byteValue]

theorem utf8EncodeChar_of_isDigit
    {char : Char}
    (isDigit : char.isDigit = true) :
    String.utf8EncodeChar char = [UInt8.ofNat char.toNat] := by
  have atMost : char.toNat ≤ 57 := (Char.isDigit_iff_toNat.1 isDigit).2
  exact Text.utf8EncodeChar_of_le_127 (by omega)

/-- All digits are taken up to what ends the number. -/
theorem takeDigits_append
    {chars : List Char}
    (areDigits : ∀ char ∈ chars, char.isDigit = true)
    (ends : EndsNumber rest) :
    takeDigits (chars.flatMap String.utf8EncodeChar ++ rest) =
      (chars.map fun char => char.toNat - 48, rest) := by
  induction chars with
  | nil =>
      cases rest with
      | nil => rfl
      | cons byte rest => simp [takeDigits, (ends byte rfl).1]
  | cons char others inductionHypothesis =>
      obtain ⟨isDigit, areDigitsToo⟩ := List.forall_mem_cons.1 areDigits
      rw [List.flatMap_cons, utf8EncodeChar_of_isDigit isDigit, List.append_assoc,
        List.singleton_append, takeDigits, digit?_of_isDigit isDigit]
      simp only [inductionHypothesis areDigitsToo, List.map_cons]

theorem readFraction_of_endsNumber (ends : EndsNumber rest) :
    readFraction rest = some ([], rest) := by
  unfold readFraction
  split
  next => exact absurd rfl (ends _ rfl).2.1
  next => rfl

/-- A number without an exponent sign has no exponent. -/
theorem readExponent_of_endsNumber (ends : EndsNumber rest) :
    readExponent rest = some (none, rest) := by
  cases rest with
  | nil => rfl
  | cons byte rest =>
      obtain ⟨_, _, notLower, notUpper⟩ := ends byte rfl
      simp [readExponent, notLower, notUpper]

theorem isDigit_of_mem_toDigits (number : Nat) :
    ∀ char ∈ Nat.toDigits 10 number, char.isDigit = true :=
  fun _ present => Nat.isDigit_of_mem_toDigits (by decide) (by decide) present

theorem encode_toString (number : Nat) :
    Text.encode (toString number) = (Nat.toDigits 10 number).flatMap String.utf8EncodeChar := by
  rw [Text.encode, Nat.toString_eq_repr, Nat.toList_repr]

/-- The first byte of a number is a digit. -/
theorem exists_encode_toString_eq_cons (number : Nat) :
    ∃ byte digit bytes, Text.encode (toString number) = byte :: bytes ∧
      digit? byte = some digit := by
  have areDigits := isDigit_of_mem_toDigits number
  rw [encode_toString]
  cases isText : Nat.toDigits 10 number with
  | nil => exact absurd isText Nat.toDigits_ne_nil
  | cons char others =>
      have isDigit := areDigits char (isText ▸ List.mem_cons_self)
      rw [List.flatMap_cons, utf8EncodeChar_of_isDigit isDigit]
      exact ⟨_, _, _, rfl, digit?_of_isDigit isDigit⟩

/-- The digits of a number are read behind its sign. -/
theorem readNumber_append
    (negative : Bool)
    (number : Nat)
    (ends : EndsNumber rest) :
    readNumber negative (Text.encode (toString number) ++ rest) =
      some ({ negative, whole := decimalDigits number, fraction := [], exponent := none }, rest) := by
  have taken : takeDigits (Text.encode (toString number) ++ rest) =
      (decimalDigits number, rest) := by
    rw [encode_toString, takeDigits_append (isDigit_of_mem_toDigits number) ends, decimalDigits]
  obtain ⟨first, others, isCons, isZero⟩ := exists_decimalDigits_eq_cons number
  simp only [readNumber, taken, bind, Option.bind, readFraction_of_endsNumber ends,
    readExponent_of_endsNumber ends]
  split
  next isNil => simp [isCons] at isNil
  next startsWithZero =>
    rw [isCons] at startsWithZero
    have isAlone := decimalDigits_of_lt (by decide : 0 < 10)
    rw [isZero (List.cons.inj startsWithZero).1, isAlone] at isCons
    rw [← isCons] at startsWithZero
    cases startsWithZero
  next => rfl

end JsonSource

/-! ## Texts -/

namespace StringPart

/-- What a character is read as: a control character without a short escape by its number, any other
character by its bytes. -/
def ofChar (char : Char) : List StringPart :=
  if char.toNat < 0x20 ∧ char ∉ ['\x08', '\x0c', '\n', '\r', '\t'] then [unit char.toNat]
  else (String.utf8EncodeChar char).map byte

/-- What a text is read as. -/
def ofText (text : String) : List StringPart := text.toList.flatMap ofChar

/-- Bytes that stand for themselves are taken as they are. -/
theorem bytes?_map_byte_append (bytes : Bytes) (parts : List StringPart) :
    bytes? (bytes.map byte ++ parts) = (bytes? parts).map (bytes ++ ·) := by
  induction bytes with
  | nil => exact Option.map_id'.symm
  | cons first rest inductionHypothesis =>
      rw [List.map_cons, List.cons_append, bytes?, inductionHypothesis, Option.map_map]
      rfl

/-- What a character is read as has the bytes of the character. -/
theorem bytes?_ofChar_append (char : Char) (parts : List StringPart) :
    bytes? (ofChar char ++ parts) = (bytes? parts).map (String.utf8EncodeChar char ++ ·) := by
  unfold ofChar
  split
  next isControl =>
    have notHigh : ¬(0xD800 ≤ char.toNat ∧ char.toNat ≤ 0xDBFF) := by omega
    have notLow : ¬(0xDC00 ≤ char.toNat ∧ char.toNat ≤ 0xDFFF) := by omega
    simp only [List.singleton_append, bytes?.eq_def (_ :: _), notHigh, notLow, if_false,
      Char.ofNat_toNat]
  next => exact bytes?_map_byte_append _ parts

/-- What a text is read as is the text. -/
theorem text?_ofText (text : String) : text? (ofText text) = some text := by
  have sameBytes : ∀ chars : List Char,
      bytes? (chars.flatMap ofChar) = some (chars.flatMap String.utf8EncodeChar) := by
    intro chars
    induction chars with
    | nil => rfl
    | cons char rest inductionHypothesis =>
        rw [List.flatMap_cons, bytes?_ofChar_append, inductionHypothesis, List.flatMap_cons]
        rfl
  rw [text?, ofText, sameBytes]
  exact Text.decode?_encode text

end StringPart

namespace JsonSource

/-- A byte that stands for itself in a string. -/
def IsPlain (byte : UInt8) : Prop := byte ≠ 0x22 ∧ byte ≠ 0x5C ∧ 0x20 ≤ byte

/-- Parts before what is read of a string. -/
def withParts (parts : List StringPart) :
    Option (List StringPart × Bytes) → Option (List StringPart × Bytes) :=
  Option.map fun (others, after) => (parts ++ others, after)

/-- Bytes that stand for themselves are read as they are. -/
theorem readString_append_of_isPlain
    {bytes : Bytes}
    (arePlain : ∀ byte ∈ bytes, IsPlain byte)
    (rest : Bytes) :
    readString (bytes ++ rest) = withParts (bytes.map StringPart.byte) (readString rest) := by
  induction bytes with
  | nil => exact Option.map_id'.symm
  | cons byte others inductionHypothesis =>
      obtain ⟨⟨notQuote, notEscape, atLeast⟩, arePlainToo⟩ := List.forall_mem_cons.1 arePlain
      rw [List.cons_append, readString.eq_def]
      simp only [notQuote, notEscape, UInt8.not_lt.2 atLeast, if_false,
        inductionHypothesis arePlainToo]
      cases readString rest <;> rfl

/-- A character that needs no escape stands for itself. -/
theorem isPlain_of_mem_utf8EncodeChar
    {char : Char}
    (notQuote : char ≠ '"')
    (notEscape : char ≠ '\\')
    (atLeast : 0x20 ≤ char.toNat)
    {byte : UInt8}
    (present : byte ∈ String.utf8EncodeChar char) :
    IsPlain byte := by
  have notQuoteValue : char.toNat ≠ 0x22 := fun same => notQuote (Char.toNat_inj.1 same)
  have notEscapeValue : char.toNat ≠ 0x5C := fun same => notEscape (Char.toNat_inj.1 same)
  by_cases isAscii : char.toNat ≤ 127
  · rw [Text.utf8EncodeChar_of_le_127 isAscii, List.mem_singleton] at present
    subst present
    have byteValue := Text.toNat_byte (show char.toNat < 256 by omega)
    simp only [IsPlain, UInt8.le_iff_toNat_le, ne_eq, ← UInt8.toNat_inj, byteValue,
      UInt8.reduceToNat]
    omega
  · have isBeyond := Text.le_of_mem_utf8EncodeChar (Nat.not_le.1 isAscii) present
    simp only [IsPlain, UInt8.le_iff_toNat_le, ne_eq, ← UInt8.toNat_inj, UInt8.reduceToNat]
    omega

theorem backslash_eq_quote : ((0x5C : UInt8) = 0x22) = False := by decide

/-- A short escape is read as its byte. -/
theorem readString_shortEscape
    {escape byte : UInt8}
    (isShort : shortEscape? escape = some byte)
    (rest : Bytes) :
    readString (0x5C :: escape :: rest) = withParts [StringPart.byte byte] (readString rest) := by
  have notUnit : escape ≠ 0x75 := by
    rintro rfl
    cases isShort
  rw [readString.eq_def]
  simp only [backslash_eq_quote, if_false, if_true, notUnit, isShort]
  cases readString rest <;> rfl

/-- An escape by number is read as the number. -/
theorem readString_unit
    {first second third fourth : UInt8}
    {value : Nat}
    (isUnit : hexUnit? first second third fourth = some value)
    (rest : Bytes) :
    readString (0x5C :: 0x75 :: first :: second :: third :: fourth :: rest) =
      withParts [StringPart.unit value] (readString rest) := by
  rw [readString.eq_def]
  simp only [backslash_eq_quote, if_false, if_true, isUnit]
  cases readString rest <;> rfl

/-- The characters with short escapes are read as their bytes. -/
theorem readString_stringChar_of_mem
    {char : Char}
    (isEscaped : char ∈ ['"', '\\', '\x08', '\x0c', '\n', '\r', '\t'])
    (rest : Bytes) :
    readString ((Json.stringChar char).flatMap String.utf8EncodeChar ++ rest) =
      withParts (StringPart.ofChar char) (readString rest) := by
  simp only [List.mem_cons, List.not_mem_nil, or_false] at isEscaped
  rcases isEscaped with rfl | rfl | rfl | rfl | rfl | rfl | rfl
  case inl => exact readString_shortEscape (rfl : shortEscape? 0x22 = some 0x22) rest
  case inr.inl => exact readString_shortEscape (rfl : shortEscape? 0x5C = some 0x5C) rest
  case inr.inr.inl => exact readString_shortEscape (rfl : shortEscape? 0x62 = some 0x08) rest
  case inr.inr.inr.inl => exact readString_shortEscape (rfl : shortEscape? 0x66 = some 0x0C) rest
  case inr.inr.inr.inr.inl =>
    exact readString_shortEscape (rfl : shortEscape? 0x6E = some 0x0A) rest
  case inr.inr.inr.inr.inr.inl =>
    exact readString_shortEscape (rfl : shortEscape? 0x72 = some 0x0D) rest
  case inr.inr.inr.inr.inr.inr =>
    exact readString_shortEscape (rfl : shortEscape? 0x74 = some 0x09) rest

/-- The digits in the escape of a control character are read as its number. -/
theorem hexUnit?_of_control (value : Fin 32) :
    ∃ high low : UInt8,
      String.utf8EncodeChar (Text.hexDigit (Text.lowDigit (value.val / 16))) = [high] ∧
        String.utf8EncodeChar (Text.hexDigit (Text.lowDigit value.val)) = [low] ∧
        hexUnit? 0x30 0x30 high low = some value.val := by
  have areDigits : ∀ value : Fin 32,
      String.utf8EncodeChar (Text.hexDigit (Text.lowDigit (value.val / 16))) =
          [(Text.hexDigit (Text.lowDigit (value.val / 16))).toUInt8] ∧
        String.utf8EncodeChar (Text.hexDigit (Text.lowDigit value.val)) =
          [(Text.hexDigit (Text.lowDigit value.val)).toUInt8] ∧
        hexUnit? 0x30 0x30 (Text.hexDigit (Text.lowDigit (value.val / 16))).toUInt8
          (Text.hexDigit (Text.lowDigit value.val)).toUInt8 = some value.val := by
    decide +kernel
  exact ⟨_, _, areDigits value⟩

/-- The written form of a character is read as the character. -/
theorem readString_stringChar_append (char : Char) (rest : Bytes) :
    readString ((Json.stringChar char).flatMap String.utf8EncodeChar ++ rest) =
      withParts (StringPart.ofChar char) (readString rest) := by
  by_cases isEscaped : char ∈ ['"', '\\', '\x08', '\x0c', '\n', '\r', '\t']
  · exact readString_stringChar_of_mem isEscaped rest
  · simp only [List.mem_cons, List.not_mem_nil, or_false, not_or] at isEscaped
    obtain ⟨notQuote, notEscape, notBackspace, notFeed, notBreak, notReturn, notTab⟩ := isEscaped
    by_cases isControl : char.toNat < 0x20
    · obtain ⟨high, low, isHigh, isLow, isUnit⟩ := hexUnit?_of_control ⟨char.toNat, isControl⟩
      have written : (Json.stringChar char).flatMap String.utf8EncodeChar =
          [0x5C, 0x75, 0x30, 0x30, high, low] := by
        simp only [Json.stringChar, notQuote, notEscape, notBackspace, notFeed, notBreak, notReturn,
          notTab, isControl, if_false, if_true, List.flatMap_cons, List.flatMap_nil, isHigh, isLow]
        rfl
      have isRead : StringPart.ofChar char = [StringPart.unit char.toNat] := by
        simp [StringPart.ofChar, isControl, notBackspace, notFeed, notBreak, notReturn, notTab]
      rw [written, isRead]
      exact readString_unit isUnit rest
    · have written : Json.stringChar char = [char] := by
        simp only [Json.stringChar, notQuote, notEscape, notBackspace, notFeed, notBreak, notReturn,
          notTab, isControl, if_false]
      have isRead : StringPart.ofChar char =
          (String.utf8EncodeChar char).map StringPart.byte := by
        simp [StringPart.ofChar, isControl]
      rw [written, isRead, List.flatMap_singleton]
      exact readString_append_of_isPlain (fun _ => isPlain_of_mem_utf8EncodeChar notQuote notEscape
        (Nat.not_lt.1 isControl)) rest

/-- A text is read up to its closing quote. -/
theorem readString_flatMap_stringChar (chars : List Char) (rest : Bytes) :
    readString ((chars.flatMap Json.stringChar).flatMap String.utf8EncodeChar ++ 0x22 :: rest) =
      some (chars.flatMap StringPart.ofChar, rest) := by
  induction chars with
  | nil =>
      rw [List.flatMap_nil, List.flatMap_nil, List.nil_append, readString.eq_def]
      rfl
  | cons char others inductionHypothesis =>
      rw [List.flatMap_cons, List.flatMap_append, List.append_assoc, readString_stringChar_append,
        inductionHypothesis, List.flatMap_cons]
      rfl

/-- A written text is its bytes between quotes, and it is read from behind the opening one. -/
theorem exists_encode_stringText (text : String) :
    ∃ bytes, Text.encode (Json.stringText text) = 0x22 :: bytes ∧
      ∀ rest, readString (bytes ++ rest) = some (StringPart.ofText text, rest) := by
  refine ⟨(text.toList.flatMap Json.stringChar).flatMap String.utf8EncodeChar ++ [0x22], ?_,
    fun rest => ?_⟩
  · rw [Text.encode, Json.stringText, String.toList_ofList, List.cons_append, List.flatMap_cons,
      List.flatMap_append]
    rfl
  · rw [List.append_assoc]
    exact readString_flatMap_stringChar text.toList rest

end JsonSource

end Screencast
