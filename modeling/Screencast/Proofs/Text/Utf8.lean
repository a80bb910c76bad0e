import Screencast.Text.Utf8

/-!
# Reading back what was encoded

The decoder of bytes is a left inverse of the encoding of texts.  The proof follows the four lengths
that an encoded character can have: in each of them the lead byte alone decides how many bytes
belong to the character, and the payloads put its code point together again.

Bytes that are no UTF-8 are read piece by piece, each invalid piece as one replacement character.
Behind the first byte of a piece there are only bytes that continue a character.  So a piece ends
where a character begins: what stands before a valid character and behind it is read on its own, and
a byte more before other bytes makes at most one character more of them.
-/

namespace Screencast

namespace Text

theorem toNat_byte
    {value : Nat}
    (bound : value < 256) :
    (UInt8.ofNat value).toNat = value :=
  UInt8.toNat_ofNat_of_lt' bound

@[simp] theorem isContinuation_ofNat (value : Nat) :
    isContinuation (UInt8.ofNat (value % 64 + 128)) = true := by
  have byteValue := toNat_byte (show value % 64 + 128 < 256 by omega)
  simp only [isContinuation, UInt8.le_iff_toNat_le, byteValue, UInt8.reduceToNat,
    Bool.and_eq_true, decide_eq_true_eq]
  omega

@[simp] theorem payload_ofNat (value : Nat) :
    payload (UInt8.ofNat (value % 64 + 128)) = value % 64 := by
  rw [payload, toNat_byte (show value % 64 + 128 < 256 by omega)]
  omega

/-! ## The four lengths of a character -/

/-- A character of one byte. -/
theorem decodeFirst_one
    {code : Nat}
    (greatest : code ≤ 127)
    (rest : Bytes) :
    decodeFirst (UInt8.ofNat code) rest = (some (Char.ofNat code), 0) := by
  have leadValue := toNat_byte (show code < 256 by omega)
  have isOne : UInt8.ofNat code < 0x80 := by
    simp only [UInt8.lt_iff_toNat_lt, leadValue, UInt8.reduceToNat]
    omega
  simp only [decodeFirst, isOne, leadValue, if_true]

/-- A character of two bytes. -/
theorem decodeFirst_two
    {code : Nat}
    (least : 127 < code)
    (greatest : code ≤ 2047)
    (rest : Bytes) :
    decodeFirst (UInt8.ofNat (code / 64 % 32 + 192)) (UInt8.ofNat (code % 64 + 128) :: rest) =
      (some (Char.ofNat code), 1) := by
  have leadValue := toNat_byte (show code / 64 % 32 + 192 < 256 by omega)
  generalize UInt8.ofNat (code / 64 % 32 + 192) = lead at leadValue ⊢
  have notOne : ¬lead < 0x80 := by
    simp only [UInt8.lt_iff_toNat_lt, leadValue, UInt8.reduceToNat]
    omega
  have isTwo : (0xC2 ≤ lead && lead ≤ 0xDF) = true := by
    simp only [UInt8.le_iff_toNat_le, leadValue, UInt8.reduceToNat, Bool.and_eq_true,
      decide_eq_true_eq]
    omega
  simp only [decodeFirst, notOne, isTwo, isContinuation_ofNat, payload_ofNat, leadValue, if_true,
    if_false]
  congr 3
  omega

/-- The second byte of a character of three bytes fits its lead byte, since the character needs
three bytes and is no surrogate. -/
theorem followsThree_ofNat
    {code : Nat}
    {lead : UInt8}
    (least : 2047 < code)
    (isScalar : code < 55296 ∨ 57343 < code)
    (greatest : code ≤ 65535)
    (leadValue : lead.toNat = code / 4096 % 16 + 224) :
    followsThree lead (UInt8.ofNat (code / 64 % 64 + 128)) = true := by
  have secondValue := toNat_byte (show code / 64 % 64 + 128 < 256 by omega)
  unfold followsThree
  split
  · next isLowest =>
      simp only [isLowest, UInt8.reduceToNat] at leadValue
      simp only [UInt8.le_iff_toNat_le, secondValue, UInt8.reduceToNat, Bool.and_eq_true,
        decide_eq_true_eq]
      omega
  · split
    · next precedesSurrogates =>
        simp only [precedesSurrogates, UInt8.reduceToNat] at leadValue
        simp only [UInt8.le_iff_toNat_le, secondValue, UInt8.reduceToNat, Bool.and_eq_true,
          decide_eq_true_eq]
        omega
    · exact isContinuation_ofNat (code / 64)

/-- A character of three bytes. -/
theorem decodeFirst_three
    {code : Nat}
    (least : 2047 < code)
    (isScalar : code < 55296 ∨ 57343 < code)
    (greatest : code ≤ 65535)
    (rest : Bytes) :
    decodeFirst (UInt8.ofNat (code / 4096 % 16 + 224))
        (UInt8.ofNat (code / 64 % 64 + 128) :: UInt8.ofNat (code % 64 + 128) :: rest) =
      (some (Char.ofNat code), 2) := by
  have leadValue := toNat_byte (show code / 4096 % 16 + 224 < 256 by omega)
  generalize UInt8.ofNat (code / 4096 % 16 + 224) = lead at leadValue ⊢
  have notOne : ¬lead < 0x80 := by
    simp only [UInt8.lt_iff_toNat_lt, leadValue, UInt8.reduceToNat]
    omega
  have notTwo : (0xC2 ≤ lead && lead ≤ 0xDF) = false := by
    simp only [UInt8.le_iff_toNat_le, leadValue, UInt8.reduceToNat, Bool.and_eq_false_iff,
      decide_eq_false_iff_not]
    omega
  have isThree : (0xE0 ≤ lead && lead ≤ 0xEF) = true := by
    simp only [UInt8.le_iff_toNat_le, leadValue, UInt8.reduceToNat, Bool.and_eq_true,
      decide_eq_true_eq]
    omega
  simp only [decodeFirst, notOne, notTwo, isThree,
    followsThree_ofNat least isScalar greatest leadValue, isContinuation_ofNat, payload_ofNat,
    leadValue, if_true, if_false, Bool.false_eq_true]
  congr 3
  omega

/-- The second byte of a character of four bytes fits its lead byte, since the character needs four
bytes and is not beyond the last one. -/
theorem followsFour_ofNat
    {code : Nat}
    {lead : UInt8}
    (least : 65535 < code)
    (greatest : code < 1114112)
    (leadValue : lead.toNat = code / 262144 % 8 + 240) :
    followsFour lead (UInt8.ofNat (code / 4096 % 64 + 128)) = true := by
  have secondValue := toNat_byte (show code / 4096 % 64 + 128 < 256 by omega)
  unfold followsFour
  split
  · next isLowest =>
      simp only [isLowest, UInt8.reduceToNat] at leadValue
      simp only [UInt8.le_iff_toNat_le, secondValue, UInt8.reduceToNat, Bool.and_eq_true,
        decide_eq_true_eq]
      omega
  · split
    · next isGreatest =>
        simp only [isGreatest, UInt8.reduceToNat] at leadValue
        simp only [UInt8.le_iff_toNat_le, secondValue, UInt8.reduceToNat, Bool.and_eq_true,
          decide_eq_true_eq]
        omega
    · exact isContinuation_ofNat (code / 4096)

/-- A character of four bytes. -/
theorem decodeFirst_four
    {code : Nat}
    (least : 65535 < code)
    (greatest : code < 1114112)
    (rest : Bytes) :
    decodeFirst (UInt8.ofNat (code / 262144 % 8 + 240))
        (UInt8.ofNat (code / 4096 % 64 + 128) :: UInt8.ofNat (code / 64 % 64 + 128) ::
          UInt8.ofNat (code % 64 + 128) :: rest) =
      (some (Char.ofNat code), 3) := by
  have leadValue := toNat_byte (show code / 262144 % 8 + 240 < 256 by omega)
  generalize UInt8.ofNat (code / 262144 % 8 + 240) = lead at leadValue ⊢
  have notOne : ¬lead < 0x80 := by
    simp only [UInt8.lt_iff_toNat_lt, leadValue, UInt8.reduceToNat]
    omega
  have notTwo : (0xC2 ≤ lead && lead ≤ 0xDF) = false := by
    simp only [UInt8.le_iff_toNat_le, leadValue, UInt8.reduceToNat, Bool.and_eq_false_iff,
      decide_eq_false_iff_not]
    omega
  have notThree : (0xE0 ≤ lead && lead ≤ 0xEF) = false := by
    simp only [UInt8.le_iff_toNat_le, leadValue, UInt8.reduceToNat, Bool.and_eq_false_iff,
      decide_eq_false_iff_not]
    omega
  have isFour : (0xF0 ≤ lead && lead ≤ 0xF4) = true := by
    simp only [UInt8.le_iff_toNat_le, leadValue, UInt8.reduceToNat, Bool.and_eq_true,
      decide_eq_true_eq]
    omega
  simp only [decodeFirst, notOne, notTwo, notThree, isFour,
    followsFour_ofNat least greatest leadValue, isContinuation_ofNat, payload_ofNat, leadValue,
    if_true, if_false, Bool.false_eq_true]
  congr 3
  omega

/-! ## Texts -/

/-- The bytes of a character are read as this character, whatever follows them. -/
theorem scan_encodeChar_append
    (char : Char)
    (rest : Bytes) :
    scan (String.utf8EncodeChar char ++ rest) = some char :: scan rest := by
  have isChar : Char.ofNat char.val.toNat = char := Char.ofNat_toNat char
  have isScalar : char.val.toNat < 55296 ∨ 57343 < char.val.toNat ∧ char.val.toNat < 1114112 :=
    char.valid
  unfold String.utf8EncodeChar
  generalize char.val.toNat = code at isChar isScalar
  dsimp only
  split
  · next isOne =>
      rw [List.cons_append, scan, decodeFirst_one isOne, isChar]
      rfl
  · split
    · next isTwo =>
        rw [List.cons_append, List.cons_append, scan, decodeFirst_two (by omega) isTwo, isChar]
        rfl
    · split
      · next isThree =>
          rw [List.cons_append, List.cons_append, List.cons_append, scan,
            decodeFirst_three (by omega) (by omega) isThree, isChar]
          rfl
      · rw [List.cons_append, List.cons_append, List.cons_append, List.cons_append, scan,
          decodeFirst_four (by omega) (by omega), isChar]
        rfl

/-- The bytes of characters are read as these characters, whatever follows them. -/
theorem scan_flatMap_encodeChar_append
    (chars : List Char)
    (rest : Bytes) :
    scan (chars.flatMap String.utf8EncodeChar ++ rest) = chars.map some ++ scan rest := by
  induction chars with
  | nil => rfl
  | cons char chars inductionHypothesis =>
      rw [List.flatMap_cons, List.append_assoc, scan_encodeChar_append, inductionHypothesis]
      rfl

theorem scan_encode (text : String) : scan (encode text) = text.toList.map some := by
  have scanned := scan_flatMap_encodeChar_append text.toList []
  rwa [scan, List.append_nil, List.append_nil] at scanned

@[simp] theorem decodeLossy_encode (text : String) : decodeLossy (encode text) = text := by
  simp only [decodeLossy, scan_encode, List.map_map]
  exact (congrArg String.ofList (List.map_id text.toList)).trans String.ofList_toList

/-- The bytes of a text are valid, and reading them gives the text. -/
theorem decode?_encode (text : String) : decode? (encode text) = some text := by
  have areValid : (text.toList.map some).all Option.isSome = true := by simp
  have sameChars : (text.toList.map some).filterMap id = text.toList := by
    rw [List.filterMap_map]
    exact List.filterMap_some
  simp only [decode?, scan_encode, areValid, if_true, sameChars, String.ofList_toList]

/-- Bytes are read as at least one character, replacements included. -/
theorem scan_ne_nil
    {bytes : Bytes}
    (nonempty : bytes ≠ []) :
    scan bytes ≠ [] := by
  cases bytes with
  | nil => exact absurd rfl nonempty
  | cons lead rest => simp [scan]

/-- No bytes but the empty ones are read as the empty text. -/
theorem decodeLossy_ne_empty
    {bytes : Bytes}
    (nonempty : bytes ≠ []) :
    decodeLossy bytes ≠ "" := by
  intro isEmpty
  have chars := congrArg String.toList isEmpty
  simp only [decodeLossy, String.toList_ofList, String.toList_empty, List.map_eq_nil_iff] at chars
  exact scan_ne_nil nonempty chars

theorem encode_append (first second : String) :
    encode (first ++ second) = encode first ++ encode second := by
  rw [encode, String.toList_append, List.flatMap_append, encode, encode]

/-- A text that is not empty has bytes. -/
theorem encode_ne_nil
    {text : String}
    (nonempty : text ≠ "") :
    encode text ≠ [] := by
  intro isEmpty
  simp only [encode, List.flatMap_eq_nil_iff, String.utf8EncodeChar_ne_nil, imp_false] at isEmpty
  exact nonempty (String.toList_eq_nil_iff.1 (List.eq_nil_iff_forall_not_mem.2 isEmpty))

theorem encode_inj {left right : String} : encode left = encode right ↔ left = right := by
  refine ⟨fun same => ?_, congrArg encode⟩
  rw [← decodeLossy_encode left, same, decodeLossy_encode]

/-- The bytes of an ASCII character. -/
theorem utf8EncodeChar_of_le_127
    {char : Char}
    (isAscii : char.toNat ≤ 127) :
    String.utf8EncodeChar char = [UInt8.ofNat char.toNat] := by
  have bound : char.val.toNat ≤ 127 := isAscii
  simp only [String.utf8EncodeChar, bound, if_true]
  rfl

/-- All bytes of a character beyond ASCII are beyond ASCII. -/
theorem le_of_mem_utf8EncodeChar
    {char : Char}
    (isLong : 127 < char.toNat)
    {byte : UInt8}
    (present : byte ∈ String.utf8EncodeChar char) :
    128 ≤ byte.toNat := by
  have notShort : ¬char.val.toNat ≤ 127 := Nat.not_le.2 isLong
  have isBeyond : ∀ value, 128 ≤ value → value < 256 → 128 ≤ (UInt8.ofNat value).toNat :=
    fun value least bound => (toNat_byte bound).symm ▸ least
  simp only [String.utf8EncodeChar, notShort, if_false] at present
  -- One case for each length; each of the bytes has its highest bit set.
  split at present
  · simp only [List.mem_cons, List.not_mem_nil, or_false] at present
    rcases present with rfl | rfl <;> exact isBeyond _ (by omega) (by omega)
  · split at present
    · simp only [List.mem_cons, List.not_mem_nil, or_false] at present
      rcases present with rfl | rfl | rfl <;> exact isBeyond _ (by omega) (by omega)
    · simp only [List.mem_cons, List.not_mem_nil, or_false] at present
      rcases present with rfl | rfl | rfl | rfl <;> exact isBeyond _ (by omega) (by omega)

/-! ## Where invalid bytes end -/

/-- A byte between two that continue a character does so as well. -/
theorem isContinuation_of_between
    {low high byte : UInt8}
    (least : 0x80 ≤ low)
    (greatest : high ≤ 0xBF)
    (between : (low ≤ byte && byte ≤ high) = true) :
    isContinuation byte = true := by
  simp only [isContinuation, Bool.and_eq_true, decide_eq_true_eq] at between ⊢
  exact ⟨UInt8.le_trans least between.1, UInt8.le_trans between.2 greatest⟩

/-- What may follow the lead byte of a character of three bytes continues a character. -/
theorem isContinuation_of_followsThree
    {lead second : UInt8}
    (follows : followsThree lead second = true) :
    isContinuation second = true := by
  unfold followsThree at follows
  split at follows
  · exact isContinuation_of_between (by decide) (by decide) follows
  · split at follows
    · exact isContinuation_of_between (by decide) (by decide) follows
    · exact follows

/-- What may follow the lead byte of a character of four bytes continues a character. -/
theorem isContinuation_of_followsFour
    {lead second : UInt8}
    (follows : followsFour lead second = true) :
    isContinuation second = true := by
  unfold followsFour at follows
  split at follows
  · exact isContinuation_of_between (by decide) (by decide) follows
  · split at follows
    · exact isContinuation_of_between (by decide) (by decide) follows
    · exact follows

theorem decodeFirst_snd_le_length
    (lead : UInt8)
    (rest : Bytes) :
    (decodeFirst lead rest).2 ≤ rest.length := by
  fun_cases decodeFirst lead rest <;> grind

/-- What is read at the beginning of bytes does not depend on a byte that continues no character,
and not on what stands behind it. -/
theorem decodeFirst_append_cons
    {byte : UInt8}
    (opens : isContinuation byte = false)
    (lead : UInt8)
    (before after : Bytes) :
    decodeFirst lead (before ++ byte :: after) = decodeFirst lead before := by
  have notThree : followsThree lead byte = false :=
    Bool.eq_false_iff.2 fun follows => by simp [isContinuation_of_followsThree follows] at opens
  have notFour : followsFour lead byte = false :=
    Bool.eq_false_iff.2 fun follows => by simp [isContinuation_of_followsFour follows] at opens
  -- A lead byte looks at three bytes at most, so that there are as many cases.
  match before with
  | [] =>
      rcases after with _ | ⟨third, _ | ⟨fourth, after⟩⟩ <;>
        simp [decodeFirst, opens, notThree, notFour]
  | [second] => cases after <;> grind [decodeFirst]
  | [second, third] => grind [decodeFirst]
  | second :: third :: fourth :: before => rfl

/-- The bytes that are read together with a first one all continue a character, since another byte
would end the piece before it. -/
theorem isContinuation_of_mem_take_decodeFirst
    {lead byte : UInt8}
    {rest : Bytes}
    (present : byte ∈ rest.take (decodeFirst lead rest).2) :
    isContinuation byte = true := by
  cases opens : isContinuation byte with
  | true => rfl
  | false =>
      obtain ⟨before, after, parts⟩ := List.append_of_mem present
      have split : rest = before ++ byte :: (after ++ rest.drop (decodeFirst lead rest).2) := by
        rw [← List.cons_append, ← List.append_assoc, ← parts, List.take_append_drop]
      have within := decodeFirst_snd_le_length lead before
      rw [← decodeFirst_append_cons opens, ← split] at within
      have longer := congrArg List.length parts
      simp only [List.length_take, List.length_append, List.length_cons] at longer
      omega

/-! ## Bytes read piece by piece -/

/-- Reading starts anew at every byte that continues no character. -/
theorem scan_append_cons
    {byte : UInt8}
    (opens : isContinuation byte = false)
    (before after : Bytes) :
    scan (before ++ byte :: after) = scan before ++ scan (byte :: after) := by
  induction before using scan.induct with
  | case1 => simp [scan]
  | case2 lead rest char used read inductionHypothesis =>
      have within := decodeFirst_snd_le_length lead rest
      rw [read] at within
      rw [List.cons_append, scan, decodeFirst_append_cons opens, scan, read]
      dsimp only
      rw [List.drop_append_of_le_length within, inductionHypothesis, List.cons_append]

/-- A byte that is not from the middle of the range continues no character. -/
theorem isContinuation_ofNat_eq_false
    {value : Nat}
    (bound : value < 256)
    (outside : value < 128 ∨ 192 ≤ value) :
    isContinuation (UInt8.ofNat value) = false := by
  simp only [isContinuation, UInt8.le_iff_toNat_le, toNat_byte bound, UInt8.reduceToNat,
    Bool.and_eq_false_iff, decide_eq_false_iff_not]
  omega

/-- The first byte of a character continues none. -/
theorem exists_utf8EncodeChar_eq_cons (char : Char) :
    ∃ lead rest, String.utf8EncodeChar char = lead :: rest ∧ isContinuation lead = false := by
  unfold String.utf8EncodeChar
  dsimp only
  split
  · exact ⟨_, _, rfl, isContinuation_ofNat_eq_false (by omega) (by omega)⟩
  · split
    · exact ⟨_, _, rfl, isContinuation_ofNat_eq_false (by omega) (by omega)⟩
    · split
      · exact ⟨_, _, rfl, isContinuation_ofNat_eq_false (by omega) (by omega)⟩
      · exact ⟨_, _, rfl, isContinuation_ofNat_eq_false (by omega) (by omega)⟩

/-- A valid character is read on its own, and so is what stands before it and behind it. -/
theorem scan_append_encodeChar_append
    (before : Bytes)
    (char : Char)
    (after : Bytes) :
    scan (before ++ (String.utf8EncodeChar char ++ after)) =
      scan before ++ some char :: scan after := by
  obtain ⟨lead, rest, isCons, opens⟩ := exists_utf8EncodeChar_eq_cons char
  rw [isCons, List.cons_append, scan_append_cons opens, ← List.cons_append, ← isCons,
    scan_encodeChar_append]

/-- In the decoded text, the character stands between what is read before it and behind it. -/
theorem decodeLossy_append_encodeChar_append
    (before : Bytes)
    (char : Char)
    (after : Bytes) :
    decodeLossy (before ++ (String.utf8EncodeChar char ++ after)) =
      decodeLossy before ++ String.singleton char ++ decodeLossy after := by
  apply String.toList_inj.1
  simp [decodeLossy, scan_append_encodeChar_append]

/-- A byte that continues a character is invalid where none has begun. -/
theorem scan_cons_of_isContinuation
    {byte : UInt8}
    (continues : isContinuation byte = true)
    (rest : Bytes) :
    scan (byte :: rest) = none :: scan rest := by
  simp only [isContinuation, UInt8.le_iff_toNat_le, UInt8.reduceToNat, Bool.and_eq_true,
    decide_eq_true_eq] at continues
  have isInvalid : decodeFirst byte rest = (none, 0) := by
    simp only [decodeFirst, UInt8.le_iff_toNat_le, UInt8.lt_iff_toNat_lt, UInt8.reduceToNat,
      Bool.and_eq_true, decide_eq_true_eq]
    rw [if_neg (by omega), if_neg (by omega), if_neg (by omega), if_neg (by omega)]
  rw [scan, isInvalid]
  rfl

/-- Bytes that continue a character make no fewer pieces when they are put before others. -/
theorem length_scan_append_le
    {before : Bytes}
    (allContinue : ∀ byte ∈ before, isContinuation byte = true)
    (after : Bytes) :
    (scan after).length ≤ (scan (before ++ after)).length := by
  induction before with
  | nil => exact Nat.le_refl _
  | cons byte before inductionHypothesis =>
      obtain ⟨isFirst, inRest⟩ := List.forall_mem_cons.1 allContinue
      rw [List.cons_append, scan_cons_of_isContinuation isFirst, List.length_cons]
      exact Nat.le_succ_of_le (inductionHypothesis inRest)

/-- One byte more makes at most one piece more. -/
theorem length_scan_cons_le
    (lead : UInt8)
    (rest : Bytes) :
    (scan (lead :: rest)).length ≤ (scan rest).length + 1 := by
  have allContinue : ∀ byte ∈ rest.take (decodeFirst lead rest).2, isContinuation byte = true :=
    fun _ => isContinuation_of_mem_take_decodeFirst
  have shorter := length_scan_append_le allContinue (rest.drop (decodeFirst lead rest).2)
  rw [List.take_append_drop] at shorter
  rw [scan]
  exact Nat.succ_le_succ shorter

end Text

end Screencast
