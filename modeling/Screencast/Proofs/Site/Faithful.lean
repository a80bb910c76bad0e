import Screencast.Proofs.Account.Faithful
import Screencast.Site.Gift
import Screencast.Site.Progress

/-!
# Gifts and play progress are kept as they are

Gifts are read again from the rows that they are written as if their dates can be written, and
entries of play progress if their numbers have 32 bits. With users, sign-ins and memberships these
are all the records of the site, and none of them is lost when it is written and read.
-/

namespace Screencast

/-! ## Gifts -/

namespace Gift

/-- What is read of a gift stands in the columns of its row. -/
theorem columns_of_read
    {row : Row}
    {gift : Gift}
    (read : Record.read row = Except.ok gift) :
    gift.sendAt.IsReadable ∧ row.find? "activated" = some (Json.bool gift.activated) ∧
      row.optional "subscription_id" ColumnType.text = Except.ok gift.subscriptionId := by
  change Gift.read row = Except.ok gift at read
  simp only [Gift.read, bind_eq_ok_iff, Row.required_eq_ok_iff] at read
  obtain ⟨_, _, _, _, _, _, _, _, sendAt, ⟨_, _, sent⟩, _, _, subscriptionId, subscribed, activated,
    ⟨found, isFound, isActivated⟩, _, _, same⟩ := read
  obtain rfl := Except.ok.inj same
  obtain rfl := ColumnType.eq_bool_of_bool isActivated
  exact ⟨ColumnType.isReadable_of_timestamp sent, isFound, subscribed⟩

/-- The columns of a gift whose date is written as a value. -/
def columns (gift : Gift) (sendAt : Json) : Row :=
  [("activated", Json.bool gift.activated),
    ("giftee_email", Json.string gift.gifteeEmail),
    ("giftee_name", Json.string gift.gifteeName),
    ("gifter_email", Row.ofText? gift.gifterEmail),
    ("gifter_name", Row.ofText? gift.gifterName),
    ("message", Json.string gift.message),
    ("plan_code", Json.string gift.planCode),
    ("send_at", sendAt),
    ("subscription_id", Row.ofText? gift.subscriptionId)]

theorem keys_columns (gift : Gift) (sendAt : Json) :
    (columns gift sendAt).keys =
      ["activated", "giftee_email", "giftee_name", "gifter_email", "gifter_name", "message",
        "plan_code", "send_at", "subscription_id"] := rfl

/-- A row with the columns of a gift is read as the gift. -/
theorem read_of_columns
    {gift : Gift}
    {sendAt : Json}
    {row : Row}
    (readBack : ColumnType.timestamp sendAt = Except.ok gift.sendAt)
    (has : ∀ name found,
      (columns gift sendAt).find? name = some found → row.find? name = some found) :
    Gift.read row = Except.ok gift := by
  have gifterEmail : row.find? "gifter_email" = some (Row.ofText? gift.gifterEmail) :=
    has "gifter_email" _ rfl
  have gifterName : row.find? "gifter_name" = some (Row.ofText? gift.gifterName) :=
    has "gifter_name" _ rfl
  have gifteeEmail : row.find? "giftee_email" = some (Json.string gift.gifteeEmail) :=
    has "giftee_email" _ rfl
  have gifteeName : row.find? "giftee_name" = some (Json.string gift.gifteeName) :=
    has "giftee_name" _ rfl
  have sent : row.find? "send_at" = some sendAt := has "send_at" _ rfl
  have message : row.find? "message" = some (Json.string gift.message) :=
    has "message" _ rfl
  have subscriptionId : row.find? "subscription_id" = some (Row.ofText? gift.subscriptionId) :=
    has "subscription_id" _ rfl
  have activated : row.find? "activated" = some (Json.bool gift.activated) :=
    has "activated" _ rfl
  have planCode : row.find? "plan_code" = some (Json.string gift.planCode) :=
    has "plan_code" _ rfl
  simp only [Gift.read, Row.optional_of_find? gifterEmail, Row.optional_of_find? gifterName,
    Row.required_of_find? gifteeEmail, Row.required_of_find? gifteeName,
    Row.required_of_find? sent, Row.required_of_find? message,
    Row.optional_of_find? subscriptionId, Row.required_of_find? activated,
    Row.required_of_find? planCode, ColumnType.optional_text_ofText?, ColumnType.text_string,
    ColumnType.bool_bool, readBack]
  rfl

/-- A gift is written as its columns. -/
theorem isWrittenAs_columns
    {gift : Gift}
    {sendAt : Json}
    (isWritten : Row.ofTimestamp gift.sendAt = Except.ok sendAt)
    (readBack : ColumnType.timestamp sendAt = Except.ok gift.sendAt) :
    Record.IsWrittenAs gift (columns gift sendAt) := by
  constructor
  case encoded =>
    change Gift.encode gift = _
    simp only [Gift.encode, isWritten]
    rfl
  case distinct =>
    rw [keys_columns]
    decide
  case withoutId =>
    rw [keys_columns]
    decide
  case read_eq =>
    intro row other has read
    exact Except.ok.inj (read.symm.trans (read_of_columns readBack has))

/-- A gift with a readable date can be written, and is read again as it is. -/
theorem exists_isWrittenAs
    {gift : Gift}
    (readable : gift.sendAt.IsReadable) :
    ∃ columns, Record.IsWrittenAs gift columns ∧
      columns.find? "activated" = some (Json.bool gift.activated) ∧
      columns.find? "subscription_id" = some (Row.ofText? gift.subscriptionId) := by
  obtain ⟨sendAt, isWritten, readBack⟩ := Row.exists_ofTimestamp readable
  exact ⟨columns gift sendAt, isWrittenAs_columns isWritten readBack, rfl, rfl⟩

/-- A gift whose values fit into the columns. -/
def IsStorable (gift : Gift) : Prop := gift.sendAt.IsReadable

/-- A gift is read from the columns that it is written as. -/
theorem decode_columns
    {gift : Gift}
    {sendAt : Json}
    (sent : ColumnType.timestamp sendAt = Except.ok gift.sendAt) :
    Record.decode (columns gift sendAt) = Except.ok gift := by
  have checked : Record.checkAll (Record.columns Gift) (columns gift sendAt) = Except.ok () := by
    have sentPasses := ColumnType.check_of_eq_ok sent
    unfold columns
    iterate 9 rw [Record.checkAll_cons_of_lookup rfl (by simp [sentPasses])]
    rfl
  exact Record.decode_of_checkAll checked (read_of_columns sent fun _ _ isFound => isFound)

instance : Record.Faithful Gift where
  names :=
    ["activated", "giftee_email", "giftee_name", "gifter_email", "gifter_name", "message",
      "plan_code", "send_at", "subscription_id"]
  IsStorable := IsStorable
  sorted := by decide
  withoutId := by decide
  exists_columns := by
    intro gift storable
    obtain ⟨sendAt, isWritten, readBack⟩ := Row.exists_ofTimestamp storable
    refine ⟨columns gift sendAt, ?_, rfl, decode_columns readBack⟩
    change Gift.encode gift = _
    simp only [Gift.encode, isWritten]
    rfl

instance : Record.ReadsStorable Gift where
  isStorable_of_read _ _ read := (Gift.columns_of_read read).1

end Gift

/-! ## Play progress -/

namespace ColumnType

/-- Whether a number fits into a column of unsigned integers of 32 bits. -/
def IsWord (value : Nat) : Prop := value ≤ Bounds.greatestWord

instance (value : Nat) : Decidable (IsWord value) := inferInstanceAs (Decidable (_ ≤ _))

theorem word_of_isWord {value : Nat} (fits : IsWord value) :
    ColumnType.word (Json.integer value) = Except.ok value := by
  have bounds : (0 : Int) ≤ value ∧ (value : Int) ≤ Bounds.greatestWord :=
    ⟨Int.natCast_nonneg value, Int.ofNat_le.2 fits⟩
  rw [word, integer_of_bounds bounds]
  exact congrArg Except.ok (Int.toNat_natCast value)

/-- A number that was read from its column fits. -/
theorem isWord_of_word
    {found : Json}
    {value : Nat}
    (read : word found = Except.ok value) :
    IsWord value := by
  unfold word integer at read
  split at read
  next number =>
    split at read
    next bounds =>
      obtain rfl : number.toNat = value := Except.ok.inj read
      exact Int.toNat_le.2 bounds.2
    next => cases read
  next => cases read

end ColumnType

namespace PlayProgress

/-- An entry whose values fit into the columns. -/
structure IsStorable (entry : PlayProgress) : Prop where
  episodeNumber : ColumnType.IsWord entry.episodeNumber
  progress : ColumnType.IsWord entry.progress
  furthestWatched : ColumnType.IsWord entry.furthestWatched

/-- The columns of an entry. -/
def columns (entry : PlayProgress) : Row :=
  [("episode_number", Json.integer entry.episodeNumber),
    ("furthest_watched", Json.integer entry.furthestWatched),
    ("progress", Json.integer entry.progress), ("user_id", Row.ofUuid entry.userId)]

/-- An entry is read from the columns that it is written as. -/
theorem decode_columns {entry : PlayProgress} (storable : entry.IsStorable) :
    Record.decode (columns entry) = Except.ok entry := by
  have number := ColumnType.word_of_isWord storable.episodeNumber
  have progress := ColumnType.word_of_isWord storable.progress
  have furthest := ColumnType.word_of_isWord storable.furthestWatched
  have checked :
      Record.checkAll (Record.columns PlayProgress) (columns entry) = Except.ok () := by
    have numberPasses := ColumnType.check_of_eq_ok number
    have progressPasses := ColumnType.check_of_eq_ok progress
    have furthestPasses := ColumnType.check_of_eq_ok furthest
    unfold columns
    iterate 4
      rw [Record.checkAll_cons_of_lookup rfl
        (by simp [numberPasses, progressPasses, furthestPasses])]
    rfl
  have isRead : PlayProgress.read (columns entry) = Except.ok entry := by
    simp only [PlayProgress.read, Row.required, columns, KeyMap.find?, String.reduceEq, ↓reduceIte,
      ColumnType.uuid_ofUuid, number, progress, furthest]
    rfl
  exact Record.decode_of_checkAll checked isRead

instance : Record.Faithful PlayProgress where
  names := ["episode_number", "furthest_watched", "progress", "user_id"]
  IsStorable := IsStorable
  sorted := by decide
  withoutId := by decide
  exists_columns := fun entry storable => ⟨columns entry, rfl, rfl, decode_columns storable⟩

instance : Record.ReadsStorable PlayProgress where
  isStorable_of_read row entry read := by
    change PlayProgress.read row = Except.ok entry at read
    simp only [PlayProgress.read, bind_eq_ok_iff, Row.required_eq_ok_iff] at read
    obtain ⟨_, _, _, ⟨_, _, number⟩, _, ⟨_, _, progress⟩, _, ⟨_, _, furthest⟩, same⟩ := read
    obtain rfl := Except.ok.inj same
    exact ⟨ColumnType.isWord_of_word number, ColumnType.isWord_of_word progress,
      ColumnType.isWord_of_word furthest⟩

end PlayProgress

/-! ## All records -/

/-- Users, sign-ins, memberships, gifts and play progress are written and read without a loss. They
fit if their dates have a year of four digits and an offset of less than a day, and their integers
the size of their columns. -/
theorem records_isLossless :
    Stored.IsLossless User User.IsStorable ∧ Stored.IsLossless SignIn SignIn.IsStorable ∧
      Stored.IsLossless TeamMember TeamMember.IsStorable ∧
      Stored.IsLossless Gift Gift.IsStorable ∧
      Stored.IsLossless PlayProgress PlayProgress.IsStorable :=
  ⟨Stored.isLossless, Stored.isLossless, Stored.isLossless, Stored.isLossless, Stored.isLossless⟩

/-- The row of a sign-in at a leap second, with other spellings of its values and a column more. -/
def oddSignIn : Row :=
  [("created_at", Json.string "2017-01-01 01:59:60.25+02:00"),
    ("id", Json.string "urn:uuid:00000000-0000-0000-0000-00000000000A"),
    ("note", Json.null),
    ("user_id", Json.string "0000000000000000000000000000000b")]

/-- The sign-in that is read from it, at the last nanosecond before the leap second. -/
def leapSignIn : Stored SignIn where
  id := { digits := List.replicate 31 (Text.lowDigit 0) ++ [Text.lowDigit 10] }
  data :=
    { userId := { digits := List.replicate 31 (Text.lowDigit 0) ++ [Text.lowDigit 11] }
      createdAt :=
        { year := 2017, month := 1, day := 1, hour := 1, minute := 59, second := 59,
          nanosecond := 999999999, offsetMinutes := 120 } }

/-- The row is read, and the row of what was read is read as the same. -/
theorem exists_toRow_leapSignIn :
    Stored.decode oddSignIn = Except.ok leapSignIn ∧
      ∃ written, leapSignIn.toRow = Except.ok written ∧
        Stored.decode written = Except.ok leapSignIn := by
  have isRead : Stored.decode oddSignIn = Except.ok leapSignIn := by rfl
  obtain ⟨written, isWritten, readsBack, -⟩ :=
    records_isLossless.2.1.settles oddSignIn leapSignIn isRead
  exact ⟨isRead, written, isWritten, readsBack⟩

end Screencast
