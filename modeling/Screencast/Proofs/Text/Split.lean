import Screencast.Text.Split

/-!
# Pieces of texts that were put together

A text that was put together from pieces without the separator is cut into these pieces again.
-/

namespace Screencast

namespace Text

/-- Without a separator there is one piece. -/
theorem splitChars_of_not_mem
    {separator : Char}
    {chars : List Char}
    (absent : separator ∉ chars) :
    splitChars separator chars = [chars] := by
  induction chars with
  | nil => rfl
  | cons char rest inductionHypothesis =>
      simp only [List.mem_cons, not_or] at absent
      simp [splitChars, Ne.symm absent.1, inductionHypothesis absent.2]

/-- The first piece ends at the first separator. -/
theorem splitChars_append_cons
    {separator : Char}
    {before : List Char}
    (absent : separator ∉ before)
    (rest : List Char) :
    splitChars separator (before ++ separator :: rest) =
      before :: splitChars separator rest := by
  induction before with
  | nil => simp [splitChars]
  | cons char before inductionHypothesis =>
      simp only [List.mem_cons, not_or] at absent
      simp [splitChars, Ne.symm absent.1, inductionHypothesis absent.2]

/-- What holds no separator belongs to the first piece of what follows. -/
theorem splitChars_append
    {separator : Char}
    {before rest first : List Char}
    {others : List (List Char)}
    (absent : separator ∉ before)
    (pieces : splitChars separator rest = first :: others) :
    splitChars separator (before ++ rest) = (before ++ first) :: others := by
  induction before with
  | nil => exact pieces
  | cons char before inductionHypothesis =>
      simp only [List.mem_cons, not_or] at absent
      simp [splitChars, Ne.symm absent.1, inductionHypothesis absent.2]

/-- Behind a separator, what holds none belongs to the first piece of what follows. -/
theorem splitChars_cons_append
    {separator : Char}
    {before rest first : List Char}
    {others : List (List Char)}
    (absent : separator ∉ before)
    (pieces : splitChars separator rest = first :: others) :
    splitChars separator (separator :: (before ++ rest)) = [] :: (before ++ first) :: others := by
  rw [← List.nil_append (separator :: _), splitChars_append_cons List.not_mem_nil,
    splitChars_append absent pieces]

/-- Pieces that were put together with separators between them are found again. -/
theorem splitChars_append_flatMap
    {separator : Char}
    {first : List Char}
    {others : List (List Char)}
    (firstPlain : separator ∉ first)
    (othersPlain : ∀ piece ∈ others, separator ∉ piece) :
    splitChars separator (first ++ others.flatMap (separator :: ·)) = first :: others := by
  induction others generalizing first with
  | nil => simpa using splitChars_of_not_mem firstPlain
  | cons piece others inductionHypothesis =>
      have piecePlain := othersPlain piece List.mem_cons_self
      have restPlain : ∀ other ∈ others, separator ∉ other :=
        fun other present => othersPlain other (List.mem_cons_of_mem piece present)
      rw [List.flatMap_cons, List.cons_append, splitChars_append_cons firstPlain,
        inductionHypothesis piecePlain restPlain]

/-- Without a separator nothing is cut. -/
theorem cutChars_of_not_mem
    {separator : Char}
    {chars : List Char}
    (absent : separator ∉ chars) :
    cutChars separator chars = none := by
  induction chars with
  | nil => rfl
  | cons char rest inductionHypothesis =>
      simp only [List.mem_cons, not_or] at absent
      simp [cutChars, Ne.symm absent.1, inductionHypothesis absent.2]

/-- A text is cut at its first separator. -/
theorem cutChars_append_cons
    {separator : Char}
    {before : List Char}
    (absent : separator ∉ before)
    (rest : List Char) :
    cutChars separator (before ++ separator :: rest) = some (before, rest) := by
  induction before with
  | nil => simp [cutChars]
  | cons char before inductionHypothesis =>
      simp only [List.mem_cons, not_or] at absent
      simp [cutChars, Ne.symm absent.1, inductionHypothesis absent.2]

/-- A text without a separator is not cut. -/
theorem cut_of_not_mem
    {separator : Char}
    {text : String}
    (absent : separator ∉ text.toList) :
    cut separator text = none := by
  rw [cut, cutChars_of_not_mem absent]
  rfl

/-- A text is cut at its first separator, and the parts are those around it. -/
theorem cut_append
    {separator : Char}
    {before : String}
    (absent : separator ∉ before.toList)
    (rest : String) :
    cut separator (before ++ String.singleton separator ++ rest) = some (before, rest) := by
  have chars : (before ++ String.singleton separator ++ rest).toList =
      before.toList ++ separator :: rest.toList := by
    simp
  rw [cut, chars, cutChars_append_cons absent]
  simp

/-- A text between others can as well be put before each of the later ones. -/
theorem intercalate_eq_append_join
    (separator first : String)
    (others : List String) :
    separator.intercalate (first :: others) =
      first ++ String.join (others.map (separator ++ ·)) := by
  induction others generalizing first with
  | nil => simp
  | cons second others inductionHypothesis =>
      rw [String.intercalate_cons_cons, inductionHypothesis, List.map_cons, String.join_cons,
        String.append_assoc, String.append_assoc]

theorem toList_join_separated
    (separator : Char)
    (pieces : List String) :
    (String.join (pieces.map (String.singleton separator ++ ·))).toList =
      (pieces.map String.toList).flatMap (separator :: ·) := by
  simp [String.toList_join, List.flatMap_map]

/-- A character of texts with separators between them is one of theirs or a separator. -/
theorem mem_of_mem_intercalate
    {separator char : Char}
    {pieces : List String}
    (present : char ∈ ((String.singleton separator).intercalate pieces).toList) :
    char = separator ∨ ∃ piece ∈ pieces, char ∈ piece.toList := by
  cases pieces with
  | nil => simp at present
  | cons first others =>
      rw [intercalate_eq_append_join, String.toList_append, toList_join_separated,
        List.mem_append, List.mem_flatMap] at present
      rcases present with inFirst | ⟨chars, inOthers, behind⟩
      · exact Or.inr ⟨first, List.mem_cons_self, inFirst⟩
      rcases List.mem_cons.1 behind with rfl | inPiece
      · exact Or.inl rfl
      · obtain ⟨piece, isPiece, rfl⟩ := List.mem_map.1 inOthers
        exact Or.inr ⟨piece, List.mem_cons_of_mem first isPiece, inPiece⟩

/-- Texts that were put together with separators between them are found again. -/
theorem split_intercalate
    {separator : Char}
    {first : String}
    {others : List String}
    (plain : ∀ piece ∈ first :: others, separator ∉ piece.toList) :
    split separator ((String.singleton separator).intercalate (first :: others)) =
      first :: others := by
  have othersPlain : ∀ piece ∈ others.map String.toList, separator ∉ piece := by
    intro chars present
    obtain ⟨piece, inOthers, rfl⟩ := List.mem_map.1 present
    exact plain piece (List.mem_cons_of_mem first inOthers)
  rw [split, intercalate_eq_append_join, String.toList_append, toList_join_separated,
    splitChars_append_flatMap (plain first List.mem_cons_self) othersPlain]
  simp

/-- Texts that were put together with a separator before each of them are found again, behind an
empty one. -/
theorem split_join
    {separator : Char}
    {pieces : List String}
    (plain : ∀ piece ∈ pieces, separator ∉ piece.toList) :
    split separator (String.join (pieces.map (String.singleton separator ++ ·))) =
      "" :: pieces := by
  have piecesPlain : ∀ piece ∈ pieces.map String.toList, separator ∉ piece := by
    intro chars present
    obtain ⟨piece, inPieces, rfl⟩ := List.mem_map.1 present
    exact plain piece inPieces
  rw [split, toList_join_separated, ← List.nil_append (List.flatMap _ _),
    splitChars_append_flatMap List.not_mem_nil piecesPlain]
  simp

/-- Texts with a separator behind each of them are found again, in front of an empty one. -/
theorem split_join_terminated
    {separator : Char}
    {pieces : List String}
    (plain : ∀ piece ∈ pieces, separator ∉ piece.toList) :
    split separator (String.join (pieces.map (· ++ String.singleton separator))) =
      pieces ++ [""] := by
  induction pieces with
  | nil => rfl
  | cons piece rest inductionHypothesis =>
      obtain ⟨piecePlain, restPlain⟩ := List.forall_mem_cons.1 plain
      have found := inductionHypothesis restPlain
      have chars : (String.join ((piece :: rest).map (· ++ String.singleton separator))).toList =
          piece.toList ++ separator ::
            (String.join (rest.map (· ++ String.singleton separator))).toList := by
        simp
      rw [split] at found ⊢
      rw [chars, splitChars_append_cons piecePlain, List.map_cons, found, String.ofList_toList]
      rfl

/-- Replacing a character that is not there changes nothing. -/
theorem replaceChar_of_not_mem
    {old new : Char}
    {text : String}
    (absent : old ∉ text.toList) :
    replaceChar old new text = text := by
  have unchanged : ∀ char ∈ text.toList, (if char = old then new else char) = char := by
    intro char present
    have different : char ≠ old := fun same => absent (same ▸ present)
    exact if_neg different
  rw [replaceChar, List.map_congr_left unchanged, List.map_id', String.ofList_toList]

end Text

end Screencast
