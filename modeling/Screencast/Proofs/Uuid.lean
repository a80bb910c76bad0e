import Screencast.Uuid

/-!
# Reading identifiers back

The written form of an identifier is read as this identifier.  The hyphens stand in fixed places, so
that the digits around them are found by their positions.  In whatever form an identifier is read,
no white space and no quote is a part of it.
-/

namespace Screencast

/-- A hexadecimal digit stands between the digit zero and the letter f. -/
theorem Text.bounds_of_hexValue?
    {char : Char}
    (isDigit : (hexValue? char).isSome = true) :
    48 ≤ char.toNat ∧ char.toNat ≤ 102 := by
  have codes (low high : Char) (within : low ≤ char ∧ char ≤ high) :
      low.toNat ≤ char.toNat ∧ char.toNat ≤ high.toNat := within
  unfold hexValue? at isDigit
  split at isDigit
  case isTrue isDecimal =>
    have bounds := codes '0' '9' isDecimal
    simp only [Char.reduceToNat] at bounds
    omega
  split at isDigit
  case isTrue isLower =>
    have bounds := codes 'a' 'f' isLower
    simp only [Char.reduceToNat] at bounds
    omega
  split at isDigit
  case isTrue isUpper =>
    have bounds := codes 'A' 'F' isUpper
    simp only [Char.reduceToNat] at bounds
    omega
  cases isDigit

namespace Uuid

/-- The four hyphens come on top of the digits. -/
theorem length_hyphenate
    {chars : List Char}
    (isWhole : chars.length = 32) :
    (hyphenate chars).length = 36 := by
  simp only [hyphenate, List.length_append, List.length_cons, List.length_take, List.length_drop,
    isWhole]
  omega

theorem take_drop_append_drop
    (chars : List Char)
    (start count : Nat) :
    (chars.drop start).take count ++ chars.drop (start + count) = chars.drop start := by
  rw [← List.drop_drop, List.take_append_drop]

/-- The digits between the hyphens are those that were hyphenated. -/
theorem digits_hyphenate
    {chars : List Char}
    (isWhole : chars.length = 32) :
    (hyphenate chars).take 8 ++ ((hyphenate chars).drop 9).take 4 ++
        ((hyphenate chars).drop 14).take 4 ++ ((hyphenate chars).drop 19).take 4 ++
      (hyphenate chars).drop 24 = chars := by
  calc
    _ = chars.take 8 ++ ((chars.drop 8).take 4 ++ ((chars.drop 12).take 4 ++
          ((chars.drop 16).take 4 ++ chars.drop 20))) := by
      simp [hyphenate, List.drop_append, List.drop_take, isWhole]
    _ = chars := by
      rw [take_drop_append_drop chars 16 4, take_drop_append_drop chars 12 4,
        take_drop_append_drop chars 8 4, List.take_append_drop]

theorem ofHyphenated?_hyphenate
    {chars : List Char}
    (isWhole : chars.length = 32) :
    ofHyphenated? (hyphenate chars) = ofPlain? chars := by
  simp only [ofHyphenated?, digits_hyphenate isWhole, if_true]

theorem mapM_hexValue?_map_hexDigit (digits : List (Fin 16)) :
    (digits.map Text.hexDigit).mapM Text.hexValue? = some digits := by
  induction digits with
  | nil => rfl
  | cons digit digits inductionHypothesis =>
      simp [List.mapM_cons, inductionHypothesis]

/-- Among characters of the length of a hyphenated identifier only such an identifier is looked
for. -/
theorem ofChars?_of_length
    {chars : List Char}
    (isHyphenated : chars.length = 36) :
    ofChars? chars = ofHyphenated? chars := by
  simp [ofChars?, isHyphenated]

@[simp] theorem parse?_text (id : Uuid) : parse? id.text = some id := by
  have isWhole : (id.digits.map Text.hexDigit).length = 32 := by
    rw [List.length_map, id.length_digits]
  rw [parse?, text, String.toList_ofList, ofChars?_of_length (length_hyphenate isWhole),
    ofHyphenated?_hyphenate isWhole, ofPlain?, mapM_hexValue?_map_hexDigit]
  simp [id.length_digits]

/-- Different identifiers are written differently. -/
theorem text_injective
    {first second : Uuid}
    (same : first.text = second.text) :
    first = second := by
  have read := congrArg parse? same
  rwa [parse?_text, parse?_text, Option.some.injEq] at read

theorem text_ne_empty (id : Uuid) : id.text ≠ "" := by
  intro isEmpty
  have read := parse?_text id
  rw [isEmpty] at read
  exact Option.some_ne_none id (read.symm.trans (by decide))

/-- Hyphenation adds nothing but hyphens. -/
theorem mem_hyphenate
    {chars : List Char}
    {char : Char}
    (present : char ∈ hyphenate chars) :
    char ∈ chars ∨ char = '-' := by
  simp only [hyphenate, List.mem_append, List.mem_cons] at present
  rcases present with (((inPiece | rfl | inPiece) | rfl | inPiece) | rfl | inPiece) | rfl | inPiece
  · exact Or.inl (List.mem_of_mem_take inPiece)
  · exact Or.inr rfl
  · exact Or.inl (List.mem_of_mem_drop (List.mem_of_mem_take inPiece))
  · exact Or.inr rfl
  · exact Or.inl (List.mem_of_mem_drop (List.mem_of_mem_take inPiece))
  · exact Or.inr rfl
  · exact Or.inl (List.mem_of_mem_drop (List.mem_of_mem_take inPiece))
  · exact Or.inr rfl
  · exact Or.inl (List.mem_of_mem_drop inPiece)

/-- The written form of an identifier holds nothing but lower-case digits and hyphens. -/
theorem mem_text
    {id : Uuid}
    {char : Char}
    (present : char ∈ id.text.toList) :
    (∃ digit, char = Text.hexDigit digit) ∨ char = '-' := by
  rw [text, String.toList_ofList] at present
  rcases mem_hyphenate present with inDigits | isHyphen
  · obtain ⟨digit, _, rfl⟩ := List.mem_map.1 inDigits
    exact Or.inl ⟨digit, rfl⟩
  · exact Or.inr isHyphen

/-! ## The characters of identifiers in all forms -/

/-- A character stands between the hyphen and the closing brace. -/
def IsWithin (char : Char) : Prop := '-'.toNat ≤ char.toNat ∧ char.toNat ≤ '\x7d'.toNat

/-- Whatever is read as 32 digits stands between the hyphen and the closing brace. -/
theorem isWithin_of_ofPlain?
    {chars : List Char}
    {id : Uuid}
    (read : ofPlain? chars = some id) :
    ∀ char ∈ chars, IsWithin char := by
  obtain ⟨digits, areDigits, -⟩ := Option.bind_eq_some_iff.1 read
  clear read
  induction chars generalizing digits with
  | nil => exact List.forall_mem_nil _
  | cons char chars inductionHypothesis =>
      simp only [List.mapM_cons, Option.bind_eq_bind, Option.bind_eq_some_iff] at areDigits
      obtain ⟨digit, isDigit, rest, restAreDigits, -⟩ := areDigits
      have bounds := Text.bounds_of_hexValue? (Option.isSome_of_eq_some isDigit)
      exact List.forall_mem_cons.2
        ⟨⟨Nat.le_trans (by decide) bounds.1, Nat.le_trans bounds.2 (by decide)⟩,
          inductionHypothesis rest restAreDigits⟩

/-- Whatever is read as digits with hyphens stands between the hyphen and the closing brace. -/
theorem isWithin_of_ofHyphenated?
    {chars : List Char}
    {id : Uuid}
    (read : ofHyphenated? chars = some id) :
    ∀ char ∈ chars, IsWithin char := by
  unfold ofHyphenated? at read
  dsimp only at read
  split at read
  case isTrue isHyphenated =>
    intro char present
    rw [isHyphenated] at present
    rcases mem_hyphenate present with inDigits | rfl
    · exact isWithin_of_ofPlain? read char inDigits
    · exact ⟨by decide, by decide⟩
  case isFalse => cases read

/-- What is dropped at the beginning is what was to be dropped, in either case. -/
theorem mem_of_dropIgnoringCase?
    {wanteds chars rest : List Char}
    {char : Char}
    (dropped : dropIgnoringCase? wanteds chars = some rest)
    (present : char ∈ chars) :
    char.toLower ∈ wanteds ∨ char ∈ rest := by
  induction wanteds generalizing chars with
  | nil =>
      obtain rfl := Option.some.inj dropped
      exact Or.inr present
  | cons wanted wanteds inductionHypothesis =>
      cases chars with
      | nil => cases present
      | cons first others =>
          unfold dropIgnoringCase? at dropped
          split at dropped
          case isTrue isWanted =>
            rcases List.mem_cons.1 present with rfl | inOthers
            · exact Or.inl (isWanted ▸ List.mem_cons_self)
            · exact (inductionHypothesis dropped inOthers).imp_left (List.mem_cons_of_mem wanted)
          case isFalse => cases dropped

/-- The capital of a character from the colon on stands there too. -/
theorem isWithin_of_toLower
    {char : Char}
    (isLetter : char.toLower ∈ ['u', 'r', 'n', ':', 'u', 'u', 'i', 'd', ':']) :
    IsWithin char := by
  have letters : ['u', 'r', 'n', ':', 'u', 'u', 'i', 'd', ':'].all
      (fun letter => decide (58 ≤ letter.toNat ∧ letter.toNat ≤ 117)) = true := by
    decide
  have bounds := of_decide_eq_true (List.all_eq_true.1 letters char.toLower isLetter)
  simp only [IsWithin, Char.reduceToNat]
  unfold Char.toLower at bounds
  split at bounds
  case isTrue isCapital =>
    have codes : 'A'.toNat ≤ char.toNat ∧ char.toNat ≤ 'Z'.toNat := isCapital
    simp only [Char.reduceToNat] at codes
    omega
  case isFalse => omega

/-- Whatever is read as an identifier, in any of its forms, stands between the hyphen and the
closing brace. -/
theorem isWithin_of_parse?
    {text : String}
    {id : Uuid}
    (read : parse? text = some id) :
    ∀ char ∈ text.toList, IsWithin char := by
  unfold parse? ofChars? at read
  split at read
  · exact isWithin_of_ofPlain? read
  split at read
  · exact isWithin_of_ofHyphenated? read
  split at read
  · split at read
    case h_1 rest isOpened =>
      split at read
      case isTrue isClosed =>
        obtain ⟨inner, rfl⟩ := List.getLast?_eq_some_iff.1 isClosed
        rw [List.dropLast_concat] at read
        rw [isOpened]
        refine List.forall_mem_cons.2 ⟨⟨by decide, by decide⟩, List.forall_mem_append.2 ⟨?_, ?_⟩⟩
        · exact isWithin_of_ofHyphenated? read
        · exact List.forall_mem_singleton.2 ⟨by decide, by decide⟩
      case isFalse => cases read
    case h_2 => cases read
  split at read
  · obtain ⟨rest, isDropped, readRest⟩ := Option.bind_eq_some_iff.1 read
    intro char present
    rcases mem_of_dropIgnoringCase? isDropped present with inBeginning | inRest
    · exact isWithin_of_toLower inBeginning
    · exact isWithin_of_ofHyphenated? readRest char inRest
  · cases read

end Uuid

end Screencast
