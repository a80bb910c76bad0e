import Mathlib.Algebra.Group.Nat.Defs
import Screencast.Timestamp

/-!
# Internet timestamps are read back

Every timestamp that can be read has a text, and the text is read as the same timestamp: a number is
read back from its digits, a fraction from its digits without the trailing zeros, and an offset from
its sign, hours and minutes.
-/

namespace Screencast

namespace Text

/-- Padded numbers consist of digits. -/
theorem isDigit_of_mem_padded
    {width number : Nat}
    {char : Char}
    (present : char ∈ (padded width number).toList) :
    char.isDigit = true := by
  simp only [padded, String.toList_ofList, List.mem_append, List.mem_replicate] at present
  rcases present with ⟨_, rfl⟩ | present
  · rfl
  · exact Nat.isDigit_of_mem_toDigits (by decide) (by decide) present

/-- A number that fits is padded to exactly the given width. -/
theorem length_padded
    {width number : Nat}
    (positive : 0 < width)
    (fits : number < 10 ^ width) :
    (padded width number).toList.length = width := by
  have short := (Nat.length_toDigits_le_iff (by decide) positive).2 fits
  simp only [padded, String.toList_ofList, List.length_append, List.length_replicate]
  omega

theorem ofDigitChars_padded (width number : Nat) :
    Nat.ofDigitChars 10 (padded width number).toList 0 = number := by
  simp [padded, Nat.ofDigitChars_append]

/-- Dropping the trailing occurrences of a character drops nothing else. -/
theorem exists_toList_eq_trimTrailing_append (unwanted : Char) (text : String) :
    ∃ count,
      text.toList = (trimTrailing unwanted text).toList ++ List.replicate count unwanted := by
  let reversed := text.toList.reverse
  let dropped := reversed.takeWhile (· = unwanted)
  have allUnwanted : dropped.all (· = unwanted) = true := List.all_takeWhile
  have areUnwanted : dropped = List.replicate dropped.length unwanted :=
    List.eq_replicate_of_mem fun char present =>
      of_decide_eq_true (List.all_eq_true.1 allUnwanted char present)
  refine ⟨dropped.length, ?_⟩
  calc
    text.toList = reversed.reverse := (List.reverse_reverse text.toList).symm
    _ = (dropped ++ reversed.dropWhile (· = unwanted)).reverse :=
      congrArg List.reverse List.takeWhile_append_dropWhile.symm
    _ = (trimTrailing unwanted text).toList ++ dropped.reverse := by
      rw [List.reverse_append, trimTrailing, String.toList_ofList]
    _ = (trimTrailing unwanted text).toList ++ List.replicate dropped.length unwanted := by
      rw [areUnwanted, List.reverse_replicate, List.length_replicate]

end Text

namespace Timestamp

/-! ## Numbers -/

/-- As many digits as are asked for are read as the number that they write. -/
theorem takeNumber?_append
    {digits : List Char}
    (areDigits : ∀ char ∈ digits, char.isDigit = true)
    (value : Nat)
    (rest : List Char) :
    takeNumber? digits.length value (digits ++ rest) =
      some (Nat.ofDigitChars 10 digits value, rest) := by
  induction digits generalizing value with
  | nil => simp [takeNumber?]
  | cons digit digits inductionHypothesis =>
      obtain ⟨isDigit, areDigits⟩ := List.forall_mem_cons.1 areDigits
      simp only [List.length_cons, List.cons_append, takeNumber?, isDigit, if_true]
      rw [inductionHypothesis areDigits, Nat.ofDigitChars_cons, Nat.mul_comm]

/-- A padded number is read back. -/
theorem takeNumber?_padded
    {width number : Nat}
    (positive : 0 < width)
    (fits : number < 10 ^ width)
    (rest : List Char) :
    takeNumber? width 0 ((Text.padded width number).toList ++ rest) = some (number, rest) := by
  have areDigits : ∀ char ∈ (Text.padded width number).toList, char.isDigit = true :=
    fun _ => Text.isDigit_of_mem_padded
  have reads := takeNumber?_append areDigits 0 rest
  rwa [Text.length_padded positive fits, Text.ofDigitChars_padded] at reads

/-- A number that is read from so many digits is less than the power of ten. -/
theorem lt_of_takeNumber?
    {count value number : Nat}
    {chars rest : List Char}
    (read : takeNumber? count value chars = some (number, rest)) :
    number < (value + 1) * 10 ^ count := by
  induction count generalizing value chars with
  | zero =>
      obtain ⟨rfl, rfl⟩ := Prod.mk.inj (Option.some.inj read)
      simp
  | succ count inductionHypothesis =>
      cases chars with
      | nil => cases read
      | cons char chars =>
          rw [takeNumber?] at read
          split at read
          next isDigit =>
            have bounds : 48 ≤ char.toNat ∧ char.toNat ≤ 57 := by
              simpa [Char.isDigit, UInt32.le_iff_toNat_le] using isDigit
            have fits := inductionHypothesis read
            have digit : char.toNat - '0'.toNat ≤ 9 := by
              change char.toNat - 48 ≤ 9
              omega
            calc
              number < (value * 10 + (char.toNat - '0'.toNat) + 1) * 10 ^ count := fits
              _ ≤ ((value + 1) * 10) * 10 ^ count := Nat.mul_le_mul_right _ (by omega)
              _ = (value + 1) * 10 ^ (count + 1) := by rw [Nat.pow_succ', Nat.mul_assoc]
          next => cases read

/-! ## Fractions -/

/-- Digits whose trailing zeros were dropped are filled up again. -/
theorem take_append_replicate
    {digits filled : List Char}
    {count : Nat}
    (isFilled : filled = digits ++ List.replicate count '0') :
    (digits ++ List.replicate filled.length '0').take filled.length = filled := by
  have lengths : filled.length = digits.length + count := by simp [isFilled]
  rw [List.take_append, List.take_of_length_le (by omega), List.take_replicate,
    show min (filled.length - digits.length) filled.length = count by omega]
  exact isFilled.symm

/-- The fraction of a second is read back from its text, and what follows it is left. -/
theorem takeFraction?_fractionText
    {nanosecond : Nat}
    {first : Char}
    (fits : nanosecond < 10 ^ 9)
    (ends : first.isDigit = false)
    (isNoPoint : first ≠ '.')
    (rest : List Char) :
    takeFraction? ((fractionText nanosecond).toList ++ first :: rest) =
      some (nanosecond, first :: rest) := by
  unfold fractionText
  split
  next isZero =>
    subst isZero
    simp [takeFraction?, isNoPoint]
  next isPositive =>
    have nine : (Text.padded 9 nanosecond).toList.length = 9 :=
      Text.length_padded (by decide) fits
    have value := Text.ofDigitChars_padded 9 nanosecond
    have areDigits : ∀ char ∈ (Text.padded 9 nanosecond).toList, char.isDigit = true :=
      fun _ => Text.isDigit_of_mem_padded
    have read : takeNumber? 9 0 (Text.padded 9 nanosecond).toList = some (nanosecond, []) := by
      have reads := takeNumber?_padded (by decide) fits []
      rwa [List.append_nil] at reads
    generalize Text.padded 9 nanosecond = padded at nine value areDigits read ⊢
    obtain ⟨count, isFilled⟩ := Text.exists_toList_eq_trimTrailing_append '0' padded
    have chars : ("." ++ Text.trimTrailing '0' padded).toList =
        '.' :: (Text.trimTrailing '0' padded).toList := by simp
    rw [chars]
    generalize (Text.trimTrailing '0' padded).toList = digits at isFilled ⊢
    have notEmpty : digits.isEmpty = false := by
      rw [List.isEmpty_eq_false_iff]
      rintro rfl
      rw [isFilled, List.nil_append, Nat.ofDigitChars_replicate_zero] at value
      omega
    have taken : (digits ++ first :: rest).takeWhile Char.isDigit = digits := by
      have inFilled : ∀ char ∈ digits, char.isDigit = true := fun char present =>
        areDigits char (isFilled ▸ List.mem_append_left _ present)
      rw [List.takeWhile_append_of_pos inFilled, List.takeWhile_cons_of_neg (by simp [ends]),
        List.append_nil]
    have counted : (digits ++ List.replicate 9 '0').take 9 = padded.toList := by
      have refilled := take_append_replicate isFilled
      rwa [nine] at refilled
    rw [List.cons_append, takeFraction?]
    simp only [taken, notEmpty, counted, read]
    simp

/-- A fraction is less than a second. -/
theorem lt_of_takeFraction?
    {nanosecond : Nat}
    {chars rest : List Char}
    (read : takeFraction? chars = some (nanosecond, rest)) :
    nanosecond < 10 ^ 9 := by
  unfold takeFraction? at read
  split at read
  · dsimp only at read
    split at read
    · cases read
    · obtain ⟨⟨value, _⟩, counted, same⟩ := Option.map_eq_some_iff.1 read
      obtain ⟨rfl, _⟩ := Prod.mk.inj same
      simpa using lt_of_takeNumber? counted
  · obtain ⟨rfl, _⟩ := Prod.mk.inj (Option.some.inj read)
    decide

/-! ## Offsets -/

/-- The text of an offset: a letter for universal time, and otherwise its sign, hours and
minutes. -/
def zoneText (offsetMinutes : Int) : String :=
  if offsetMinutes = 0 then "Z" else offsetText ":" offsetMinutes

/-- The size of an offset is read back after its sign. -/
theorem readOffset?_cons
    {sign : Char}
    {size : Nat}
    (isSign : sign = '+' ∨ sign = '-')
    (fits : size < 1440) :
    readOffset? (sign :: ((Text.padded 2 (size / 60)).toList ++
        ':' :: (Text.padded 2 (size % 60)).toList)) =
      some (if sign = '-' then -(size : Int) else size) := by
  have hours := takeNumber?_padded (by decide : 0 < 2) (by omega : size / 60 < 10 ^ 2)
    (':' :: (Text.padded 2 (size % 60)).toList)
  have minutes := takeNumber?_padded (by decide : 0 < 2) (by omega : size % 60 < 10 ^ 2) []
  rw [List.append_nil] at minutes
  have bounded : size / 60 ≤ 23 ∧ size % 60 ≤ 59 := by omega
  rcases isSign with rfl | rfl
  · simp [readOffset?, hours, minutes, dropOneOf?, bounded]
    omega
  · simp [readOffset?, hours, minutes, dropOneOf?, bounded]
    omega

/-- The characters of an offset. -/
theorem toList_offsetText (offsetMinutes : Int) :
    (offsetText ":" offsetMinutes).toList =
      (if offsetMinutes < 0 then '-' else '+') ::
        ((Text.padded 2 (offsetMinutes.natAbs / 60)).toList ++
          ':' :: (Text.padded 2 (offsetMinutes.natAbs % 60)).toList) := by
  unfold offsetText
  split <;> simp

/-- An offset of less than a day is read back from its text. -/
theorem readOffset?_zoneText
    {offsetMinutes : Int}
    (fits : offsetMinutes.natAbs < 1440) :
    readOffset? (zoneText offsetMinutes).toList = some offsetMinutes := by
  unfold zoneText
  split
  next isZero =>
    subst isZero
    rfl
  next isElsewhere =>
    rw [toList_offsetText]
    split
    next isNegative =>
      rw [readOffset?_cons (Or.inr rfl) fits, if_pos rfl]
      congr 1
      omega
    next isPositive =>
      rw [readOffset?_cons (Or.inl rfl) fits, if_neg (by decide)]
      congr 1
      omega

/-- An offset that is read is less than a day. -/
theorem natAbs_lt_of_readOffset?
    {offsetMinutes : Int}
    {chars : List Char}
    (read : readOffset? chars = some offsetMinutes) :
    offsetMinutes.natAbs < 1440 := by
  unfold readOffset? at read
  split at read
  · obtain rfl := Option.some.inj read
    decide
  · obtain rfl := Option.some.inj read
    decide
  · split at read
    · cases read
    · simp only [Option.bind_eq_bind, Option.bind_eq_some_iff, Prod.exists] at read
      obtain ⟨hours, _, _, _, _, minutes, _, _, read⟩ := read
      split at read
      next bounded =>
        obtain rfl := Option.some.inj read
        split <;> omega
      next => cases read
  · cases read

/-- The text of an offset does not begin with anything that belongs to a number. -/
theorem exists_zoneText (offsetMinutes : Int) :
    ∃ first rest, (zoneText offsetMinutes).toList = first :: rest ∧ first.isDigit = false ∧
      first ≠ '.' := by
  unfold zoneText
  split
  · exact ⟨'Z', [], rfl, rfl, by decide⟩
  · rw [toList_offsetText]
    split
    · exact ⟨'-', _, rfl, rfl, by decide⟩
    · exact ⟨'+', _, rfl, rfl, by decide⟩

/-! ## Timestamps -/

/-- A timestamp that has a text: a date of four digits, a time of day without leap seconds, and an
offset of less than a day. -/
structure IsReadable (time : Timestamp) : Prop where
  year : 0 ≤ time.year ∧ time.year ≤ 9999
  month : 1 ≤ time.month ∧ time.month ≤ 12
  day : 1 ≤ time.day ∧ time.day ≤ daysInMonth time.year time.month
  hour : time.hour ≤ 23
  minute : time.minute ≤ 59
  second : time.second ≤ 59
  nanosecond : time.nanosecond < 10 ^ 9
  offset : time.offsetMinutes.natAbs < 1440

theorem daysInMonth_le (year : Int) (month : Nat) : daysInMonth year month ≤ 31 := by
  unfold daysInMonth
  split
  · split <;> omega
  · split <;> omega

theorem dropOneOf?_hyphen (rest : List Char) : dropOneOf? ['-'] ("-".toList ++ rest) = some rest :=
  rfl

theorem dropOneOf?_colon (rest : List Char) : dropOneOf? [':'] (":".toList ++ rest) = some rest :=
  rfl

theorem dropSeparator?_letter (rest : List Char) :
    dropSeparator? ("T".toList ++ rest) = some rest := rfl

/-- A readable timestamp has a text, from which it is read back. -/
theorem exists_rfc3339?_and_parse?
    {time : Timestamp}
    (readable : time.IsReadable) :
    ∃ text, time.rfc3339? = some text ∧ parse? text = some time := by
  obtain ⟨year, month, day, hour, minute, second, nanosecond, offset⟩ := readable
  have shortDay := daysInMonth_le time.year time.month
  have fourDigits : time.year.toNat < 10 ^ 4 := by omega
  have twoDigits (number : Nat) (fits : number < 10 ^ 2) (rest : List Char) :=
    takeNumber?_padded (by decide : 0 < 2) fits rest
  have sameYear : ((time.year.toNat : Nat) : Int) = time.year := Int.toNat_of_nonneg year.1
  obtain ⟨first, rest, zone, isNoDigit, isNoPoint⟩ := exists_zoneText time.offsetMinutes
  have readsZone := readOffset?_zoneText offset
  have readsFraction := takeFraction?_fractionText nanosecond isNoDigit isNoPoint rest
  rw [← zone] at readsFraction
  refine ⟨_, if_pos year, ?_⟩
  change readChars? (_ ++ zoneText time.offsetMinutes).toList = some time
  simp only [String.toList_append, List.append_assoc]
  have readsYear := takeNumber?_padded (by decide : 0 < 4) fourDigits
  have readsMonth := twoDigits time.month (by omega)
  have readsDay := twoDigits time.day (by omega)
  have readsHour := twoDigits time.hour (by omega)
  have readsMinute := twoDigits time.minute (by omega)
  have readsSecond := twoDigits time.second (by omega)
  refine Option.bind_eq_some_iff.2 ⟨_, readsYear _, ?_⟩
  refine Option.bind_eq_some_iff.2 ⟨_, dropOneOf?_hyphen _, ?_⟩
  refine Option.bind_eq_some_iff.2 ⟨_, readsMonth _, ?_⟩
  refine Option.bind_eq_some_iff.2 ⟨_, dropOneOf?_hyphen _, ?_⟩
  refine Option.bind_eq_some_iff.2 ⟨_, readsDay _, ?_⟩
  refine Option.bind_eq_some_iff.2 ⟨_, dropSeparator?_letter _, ?_⟩
  refine Option.bind_eq_some_iff.2 ⟨_, readsHour _, ?_⟩
  refine Option.bind_eq_some_iff.2 ⟨_, dropOneOf?_colon _, ?_⟩
  refine Option.bind_eq_some_iff.2 ⟨_, readsMinute _, ?_⟩
  refine Option.bind_eq_some_iff.2 ⟨_, dropOneOf?_colon _, ?_⟩
  refine Option.bind_eq_some_iff.2 ⟨_, readsSecond _, ?_⟩
  refine Option.bind_eq_some_iff.2 ⟨_, readsFraction, ?_⟩
  refine Option.bind_eq_some_iff.2 ⟨_, readsZone, ?_⟩
  dsimp only
  rw [sameYear, if_pos ⟨month.1, month.2, day.1, day.2, hour, minute⟩, if_pos second]
  rfl

/-- What is read is readable. -/
theorem isReadable_of_parse?
    {text : String}
    {time : Timestamp}
    (read : parse? text = some time) :
    time.IsReadable := by
  -- The parts are taken one at a time: rewriting below all of them at once is slow.
  obtain ⟨⟨year, _⟩, readYear, read⟩ := Option.bind_eq_some_iff.1 read
  obtain ⟨_, _, read⟩ := Option.bind_eq_some_iff.1 read
  obtain ⟨⟨month, _⟩, _, read⟩ := Option.bind_eq_some_iff.1 read
  obtain ⟨_, _, read⟩ := Option.bind_eq_some_iff.1 read
  obtain ⟨⟨day, _⟩, _, read⟩ := Option.bind_eq_some_iff.1 read
  obtain ⟨_, _, read⟩ := Option.bind_eq_some_iff.1 read
  obtain ⟨⟨hour, _⟩, _, read⟩ := Option.bind_eq_some_iff.1 read
  obtain ⟨_, _, read⟩ := Option.bind_eq_some_iff.1 read
  obtain ⟨⟨minute, _⟩, _, read⟩ := Option.bind_eq_some_iff.1 read
  obtain ⟨_, _, read⟩ := Option.bind_eq_some_iff.1 read
  obtain ⟨⟨second, _⟩, _, read⟩ := Option.bind_eq_some_iff.1 read
  obtain ⟨⟨nanosecond, _⟩, readFraction, read⟩ := Option.bind_eq_some_iff.1 read
  obtain ⟨offsetMinutes, readOffset, read⟩ := Option.bind_eq_some_iff.1 read
  dsimp only at read
  have fourDigits := lt_of_takeNumber? readYear
  have fraction := lt_of_takeFraction? readFraction
  have offset := natAbs_lt_of_readOffset? readOffset
  split at read
  next bounded =>
    obtain ⟨fromJanuary, untilDecember, fromFirst, untilLast, hours, minutes⟩ := bounded
    split at read
    next seconds =>
      obtain rfl := Option.some.inj read
      exact
        { year := by dsimp only; omega
          month := ⟨fromJanuary, untilDecember⟩
          day := ⟨fromFirst, untilLast⟩
          hour := hours
          minute := minutes
          second := seconds
          nanosecond := fraction
          offset := offset }
    next =>
      split at read
      next =>
        split at read
        next =>
          obtain rfl := Option.some.inj read
          exact
            { year := by dsimp only; omega
              month := ⟨fromJanuary, untilDecember⟩
              day := ⟨fromFirst, untilLast⟩
              hour := hours
              minute := minutes
              second := Nat.le_refl 59
              nanosecond := (by decide : 999999999 < 10 ^ 9)
              offset := offset }
        next => cases read
      next => cases read
  next => cases read

end Timestamp

end Screencast
