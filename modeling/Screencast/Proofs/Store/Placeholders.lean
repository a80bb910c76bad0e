import Screencast.Proofs.Store.Sorted
import Screencast.Proofs.Text.Split
import Screencast.Store.Statement

/-!
# The placeholders of a statement

The placeholders in the text of a statement are found by reading the text alone: a dollar sign with
the digits behind it. They are numbered from one on without a gap, there are as many as the
statement has parameters, and the text before each of them tells the column whose value it stands
for.
-/

namespace Screencast

namespace Text

/-- The first piece of characters is their beginning. -/
theorem isPrefix_of_splitChars
    {separator : Char}
    {chars first : List Char}
    {others : List (List Char)}
    (pieces : splitChars separator chars = first :: others) :
    first <+: chars := by
  induction chars generalizing first others with
  | nil =>
      obtain ⟨rfl, _⟩ := List.cons.inj pieces
      exact List.nil_prefix
  | cons char rest inductionHypothesis =>
      unfold splitChars at pieces
      split at pieces
      · obtain ⟨rfl, _⟩ := List.cons.inj pieces
        exact List.nil_prefix
      · split at pieces
        case h_1 isNil => exact absurd isNil (splitChars_ne_nil separator rest)
        case h_2 piece pieces' isCons =>
          obtain ⟨rfl, _⟩ := List.cons.inj pieces
          exact List.cons_prefix_cons.2 ⟨rfl, inductionHypothesis isCons⟩

end Text

namespace Statement

/-! ## Reading a text -/

/-- The placeholders at the beginning of pieces, each behind what stands between it and the one
before it. -/
def placeholdersBehind (lead : List Char) : List (List Char) → List (String × String)
  | [] => []
  | piece :: pieces =>
    (String.ofList lead, String.ofList ('$' :: piece.takeWhile Char.isDigit)) ::
      placeholdersBehind (piece.dropWhile Char.isDigit) pieces

/-- The placeholders in a text, each behind what stands between it and the one before it. -/
def placeholders (text : String) : List (String × String) :=
  match Text.splitChars '$' text.toList with
  | [] => []
  | first :: pieces => placeholdersBehind first pieces

/-- A text does not begin with a digit. -/
def StartsPlainly (text : String) : Prop := text.toList.head?.any Char.isDigit = false

/-- A text can stand before a placeholder and behind another: it begins with what is not a digit,
and it has no dollar sign. -/
structure IsLead (text : String) : Prop where
  filled : text.toList ≠ []
  start : StartsPlainly text
  noSign : '$' ∉ text.toList

/-- The beginning of a text that is not empty is that of the text with anything behind it. -/
theorem StartsPlainly.append
    {first : String}
    (plain : StartsPlainly first)
    (filled : first.toList ≠ [])
    (rest : String) :
    StartsPlainly (first ++ rest) := by
  obtain ⟨char, chars, isCons⟩ := List.exists_cons_of_ne_nil filled
  rw [StartsPlainly, isCons] at plain
  rwa [StartsPlainly, String.toList_append, isCons]

theorem placeholders_of_not_mem
    {text : String}
    (absent : '$' ∉ text.toList) :
    placeholders text = [] := by
  rw [placeholders, Text.splitChars_of_not_mem absent]
  rfl

theorem toList_placeholder (number : Nat) :
    (placeholder number).toList = '$' :: Nat.toDigits 10 number := by
  rw [placeholder, String.toList_append, Nat.toString_eq_repr, Nat.toList_repr]
  rfl

theorem not_mem_toDigits (number : Nat) : '$' ∉ Nat.toDigits 10 number := fun present =>
  absurd (Nat.isDigit_of_mem_toDigits (by decide) (by decide) present) (by decide)

/-- The first placeholder of a text is found behind what has no dollar sign. -/
theorem placeholders_append
    {lead rest : String}
    (leadPlain : '$' ∉ lead.toList)
    (ends : StartsPlainly rest)
    (number : Nat) :
    placeholders (lead ++ placeholder number ++ rest) =
      (lead, placeholder number) :: placeholders rest := by
  have areDigits : ∀ char ∈ Nat.toDigits 10 number, char.isDigit = true :=
    fun _ present => Nat.isDigit_of_mem_toDigits (by decide) (by decide) present
  obtain ⟨first, pieces, split⟩ := List.exists_cons_of_ne_nil
    (Text.splitChars_ne_nil '$' rest.toList)
  have chars : (lead ++ placeholder number ++ rest).toList =
      lead.toList ++ '$' :: (Nat.toDigits 10 number ++ rest.toList) := by
    simp [toList_placeholder]
  -- The digits of the placeholder end where the rest begins.
  have isOther : first.takeWhile Char.isDigit = [] ∧ first.dropWhile Char.isDigit = first := by
    cases first with
    | nil => exact ⟨rfl, rfl⟩
    | cons char others =>
        obtain ⟨behind, isRest⟩ := Text.isPrefix_of_splitChars split
        have noDigit : char.isDigit = false := by
          rw [StartsPlainly, ← isRest] at ends
          exact ends
        simp [noDigit]
  rw [placeholders, chars, Text.splitChars_append_cons leadPlain,
    Text.splitChars_append (not_mem_toDigits number) split, placeholders, split]
  simp only [placeholdersBehind, List.takeWhile_append_of_pos areDigits,
    List.dropWhile_append_of_pos areDigits, isOther.1, isOther.2, List.append_nil,
    String.ofList_toList, ← toList_placeholder]

/-! ## Texts with numbered placeholders -/

/-- What can stand before a placeholder can do so with anything behind it that has no dollar
sign. -/
theorem IsLead.append
    {first rest : String}
    (isLead : IsLead first)
    (restPlain : '$' ∉ rest.toList) :
    IsLead (first ++ rest) where
  filled := by simp [isLead.filled]
  start := isLead.start.append isLead.filled rest
  noSign := by simp [isLead.noSign, restPlain]

/-- Texts that can stand before placeholders, each with its placeholder behind it. -/
def numbered (number : Nat) (leads : List String) : List (String × String) :=
  leads.mapIdx fun index lead => (lead, placeholder (index + number))

theorem numbered_cons (number : Nat) (lead : String) (leads : List String) :
    numbered number (lead :: leads) =
      (lead, placeholder number) :: numbered (number + 1) leads := by
  simp [numbered, List.mapIdx_cons, Nat.add_assoc, Nat.add_comm 1]

/-- Leads of columns are numbered in the order of the columns. -/
theorem numbered_mapIdx
    (columns : List (String × Json))
    (piece : String × Json → String)
    (lead : Nat → String → String) :
    numbered 1 ((columns.map piece).mapIdx lead) =
      columns.mapIdx fun index pair => (lead index (piece pair), placeholder (index + 1)) := by
  apply List.ext_getElem?
  intro index
  simp only [numbered, List.getElem?_mapIdx, List.getElem?_map, Option.map_map, Function.comp_def]

/-- The texts of leads with numbered placeholders behind them. -/
def withPlaceholders (number : Nat) (leads : List String) : List String :=
  (numbered number leads).map fun pair => pair.1 ++ pair.2

/-- The first of leads with placeholders behind them is before those that are numbered from the next
number on. -/
theorem withPlaceholders_cons (number : Nat) (lead : String) (leads : List String) :
    withPlaceholders number (lead :: leads) =
      (lead ++ placeholder number) :: withPlaceholders (number + 1) leads := by
  rw [withPlaceholders, numbered_cons, List.map_cons, withPlaceholders]

/-- The placeholders behind leads are found, each behind its own lead. -/
theorem placeholders_join_append
    {leads : List String}
    {ending : String}
    (areLeads : ∀ lead ∈ leads, IsLead lead)
    (ends : StartsPlainly ending)
    (number : Nat) :
    placeholders (String.join (withPlaceholders number leads) ++ ending) =
      numbered number leads ++ placeholders ending := by
  induction leads generalizing number with
  | nil => simp [withPlaceholders, numbered]
  | cons lead leads inductionHypothesis =>
      obtain ⟨isLead, othersAreLeads⟩ := List.forall_mem_cons.1 areLeads
      have restStarts : StartsPlainly
          (String.join (withPlaceholders (number + 1) leads) ++ ending) := by
        cases leads with
        | nil => simpa [withPlaceholders, numbered] using ends
        | cons next others =>
            have nextIsLead := othersAreLeads next List.mem_cons_self
            rw [withPlaceholders_cons, String.join_cons, String.append_assoc, String.append_assoc]
            exact nextIsLead.start.append nextIsLead.filled _
      rw [withPlaceholders_cons, String.join_cons, String.append_assoc,
        placeholders_append isLead.noSign restStarts, inductionHypothesis othersAreLeads,
        numbered_cons, List.cons_append]

/-- What stands before a piece of a list: the opening before the first, the separator before each
other. -/
def leadAt (opening separator : String) (index : Nat) (piece : String) : String :=
  (if index = 0 then opening else separator) ++ piece

/-- The placeholders in a list of pieces that are numbered from one on. -/
theorem placeholders_intercalate
    {opening separator ending : String}
    {pieces : List String}
    (filled : pieces ≠ [])
    (opens : IsLead opening)
    (separates : IsLead separator)
    (piecesPlain : ∀ piece ∈ pieces, '$' ∉ piece.toList)
    (ends : StartsPlainly ending) :
    placeholders (opening ++ separator.intercalate (withPlaceholders 1 pieces) ++ ending) =
      numbered 1 (pieces.mapIdx (leadAt opening separator)) ++ placeholders ending := by
  have areLeads : ∀ lead ∈ pieces.mapIdx (leadAt opening separator), IsLead lead := by
    intro lead present
    obtain ⟨index, inPieces, rfl⟩ := List.exists_of_mem_mapIdx present
    have piecePlain := piecesPlain _ (List.getElem_mem inPieces)
    unfold leadAt
    split
    · exact opens.append piecePlain
    · exact separates.append piecePlain
  rw [← placeholders_join_append areLeads ends]
  congr 1
  obtain ⟨piece, others, rfl⟩ := List.exists_cons_of_ne_nil filled
  have behind : withPlaceholders (1 + 1)
        (others.mapIdx fun index => leadAt opening separator (index + 1)) =
      (withPlaceholders (1 + 1) others).map (separator ++ ·) := by
    apply List.ext_getElem?
    intro index
    simp [withPlaceholders, numbered, leadAt, Function.comp_def, String.append_assoc]
  rw [List.mapIdx_cons, withPlaceholders_cons, withPlaceholders_cons,
    Text.intercalate_eq_append_join, String.join_cons, behind]
  simp [leadAt, String.append_assoc]

/-! ## The texts of statements -/

/-- The conditions of a selection behind the first one. -/
theorem conditions_add_two (number : Nat) (filter : List (String × Json)) :
    conditions (number + 2) filter =
      String.join ((withPlaceholders (number + 2) (filter.map fun pair => pair.1 ++ " = ")).map
        (" AND " ++ ·)) := by
  induction filter generalizing number with
  | nil => rfl
  | cons pair rest inductionHypothesis =>
      obtain ⟨column, value⟩ := pair
      have notFirst : number + 2 ≠ 1 := by omega
      rw [conditions, if_neg notFirst, inductionHypothesis (number + 1), List.map_cons,
        withPlaceholders_cons, List.map_cons, String.join_cons]
      simp [String.append_assoc]

/-- The conditions of a selection are a list of numbered pieces. -/
theorem conditions_one {filter : List (String × Json)} (filled : filter ≠ []) :
    conditions 1 filter =
      " WHERE " ++
        " AND ".intercalate (withPlaceholders 1 (filter.map fun pair => pair.1 ++ " = ")) := by
  obtain ⟨⟨column, value⟩, rest, rfl⟩ := List.exists_cons_of_ne_nil filled
  rw [conditions, if_pos rfl, conditions_add_two 0, List.map_cons, withPlaceholders_cons,
    Text.intercalate_eq_append_join]
  simp [String.append_assoc]

theorem assignments_eq (number : Nat) (columns : List String) :
    assignments number columns = withPlaceholders number (columns.map (· ++ " = ")) := by
  induction columns generalizing number with
  | nil => rfl
  | cons column rest inductionHypothesis =>
      rw [assignments, inductionHypothesis, List.map_cons, withPlaceholders_cons]

/-- The columns that a statement binds values to, with these values. -/
def bound : Statement → List (String × Json)
  | select _ filter _ _ => filter
  | insert _ row => row
  | update _ id row => row ++ [("id", Row.ofUuid id)]

/-- The row that a statement writes. -/
def written : Statement → Row
  | select .. => []
  | insert _ row => row
  | update _ _ row => row

/-- What the text of a statement has before the placeholder of a column. An insertion lists its
columns before the first placeholder, in the order of the placeholders. -/
def lead (index : Nat) (column : String) : Statement → String
  | select table _ _ _ =>
    leadAt ("SELECT * FROM " ++ table ++ " WHERE ") " AND " index (column ++ " = ")
  | insert table row =>
    leadAt ("INSERT INTO " ++ table ++ " (" ++ ",".intercalate row.keys ++ ") VALUES (") ","
      index ""
  | update table _ row =>
    if index < row.length then leadAt ("UPDATE " ++ table ++ " SET ") ", " index (column ++ " = ")
    else leadAt ("UPDATE " ++ table ++ " SET ") "" index (" WHERE " ++ column ++ " = ")

/-- The names of a statement's table and columns. -/
def names : Statement → List String
  | select table filter order _ =>
    table :: filter.map (·.1) ++ (order.map Order.column).toList
  | insert table row => table :: row.keys
  | update table _ row => table :: row.keys

theorem params_eq (statement : Statement) : statement.params = statement.bound.map (·.2) := by
  cases statement <;> simp [params, bound, KeyMap.values]

/-- The order of a selection, as its text has it at the end. -/
def orderText : Option Order → String
  | some order => " ORDER BY " ++ order.column ++ " " ++ direction order
  | none => ""

/-- The limit of a selection, as its text has it at the end. -/
def limitText : Option Nat → String
  | some limit => " LIMIT " ++ toString limit
  | none => ""

/-- The text of a selection ends with its order and its limit. -/
theorem text_select
    (table : String)
    (filter : List (String × Json))
    (order : Option Order)
    (limit : Option Nat) :
    (select table filter order limit).text =
      "SELECT * FROM " ++ table ++ conditions 1 filter ++ (orderText order ++ limitText limit) := by
  rw [← String.append_assoc]
  cases order <;> cases limit <;> rfl

theorem text_insert (table : String) (row : Row) :
    (insert table row).text =
      "INSERT INTO " ++ table ++ " (" ++ ",".intercalate row.keys ++ ") VALUES (" ++
        ",".intercalate ((List.range row.length).map fun index => placeholder (index + 1)) ++ ")" :=
  rfl

theorem text_update (table : String) (id : Uuid) (row : Row) :
    (update table id row).text =
      "UPDATE " ++ table ++ " SET " ++ ", ".intercalate (assignments 1 row.keys) ++
        " WHERE id = " ++ placeholder (row.length + 1) :=
  rfl

/-- The end of a selection has no dollar sign where the column that it orders by has none. -/
theorem not_mem_orderText
    {order : Option Order}
    (columnPlain : ∀ column ∈ order.map Order.column, '$' ∉ column.toList)
    (limit : Option Nat) :
    '$' ∉ (orderText order ++ limitText limit).toList := by
  have limitPlain : '$' ∉ (limitText limit).toList := by
    cases limit with
    | none => decide
    | some limit =>
        rw [limitText, String.toList_append, Nat.toString_eq_repr, Nat.toList_repr]
        exact List.not_mem_append (by decide) (not_mem_toDigits limit)
  cases order with
  | none => simpa [orderText] using limitPlain
  | some order =>
      have orderPlain := columnPlain order.column rfl
      have directionPlain : '$' ∉ (direction order).toList := by
        unfold direction
        split <;> decide
      simp [orderText, orderPlain, directionPlain, limitPlain]

theorem startsPlainly_orderText (order : Option Order) (limit : Option Nat) :
    StartsPlainly (orderText order ++ limitText limit) := by
  cases order <;> cases limit <;> simp [StartsPlainly, orderText, limitText]

/-- Columns before equality signs have no dollar sign where their names have none. -/
theorem not_mem_compared
    {columns : List (String × Json)}
    (plain : ∀ name ∈ columns.map (·.1), '$' ∉ name.toList) :
    ∀ piece ∈ columns.map (fun pair => pair.1 ++ " = "), '$' ∉ piece.toList := by
  intro piece present
  obtain ⟨pair, isColumn, rfl⟩ := List.mem_map.1 present
  have namePlain := plain pair.1 (List.mem_map_of_mem isColumn)
  simp [namePlain]

/-- The placeholders of a selection. -/
theorem placeholders_select
    {table : String}
    {filter : List (String × Json)}
    {order : Option Order}
    (plain : ∀ name ∈ table :: filter.map (·.1) ++ (order.map Order.column).toList,
      '$' ∉ name.toList)
    (limit : Option Nat) :
    placeholders (select table filter order limit).text =
      numbered 1 ((filter.map fun pair => pair.1 ++ " = ").mapIdx
        (leadAt ("SELECT * FROM " ++ table ++ " WHERE ") " AND ")) := by
  obtain ⟨namesPlain, orderPlain⟩ := List.forall_mem_append.1 plain
  obtain ⟨tablePlain, columnsPlain⟩ := List.forall_mem_cons.1 namesPlain
  have endingPlain : '$' ∉ (orderText order ++ limitText limit).toList :=
    not_mem_orderText (fun column present => orderPlain column (Option.mem_toList.2 present)) limit
  have begins : IsLead "SELECT * FROM " := ⟨by decide, rfl, by decide⟩
  have separates : IsLead " AND " := ⟨by decide, rfl, by decide⟩
  rw [text_select]
  by_cases filled : filter = []
  case pos =>
    subst filled
    rw [conditions, String.append_empty]
    refine placeholders_of_not_mem ?_
    rw [String.toList_append]
    exact List.not_mem_append (begins.append tablePlain).noSign endingPlain
  case neg =>
    have opens : IsLead ("SELECT * FROM " ++ table ++ " WHERE ") :=
      (begins.append tablePlain).append (by decide)
    have found := placeholders_intercalate (mt List.map_eq_nil_iff.1 filled) opens separates
      (not_mem_compared columnsPlain) (startsPlainly_orderText order limit)
    rw [conditions_one filled, ← @String.append_assoc _ " WHERE ", found,
      placeholders_of_not_mem endingPlain, List.append_nil]

/-- The placeholders of an insertion. -/
theorem placeholders_insert
    {table : String}
    {row : Row}
    (plain : ∀ name ∈ table :: row.keys, '$' ∉ name.toList) :
    placeholders (insert table row).text =
      numbered 1 ((row.map fun _ => "").mapIdx (leadAt
        ("INSERT INTO " ++ table ++ " (" ++ ",".intercalate row.keys ++ ") VALUES (") ",")) := by
  obtain ⟨tablePlain, columnsPlain⟩ := List.forall_mem_cons.1 plain
  have keysPlain : '$' ∉ (",".intercalate row.keys).toList := by
    intro present
    rcases @Text.mem_of_mem_intercalate ',' _ _ present with isComma | inKey
    · exact absurd isComma (by decide)
    · obtain ⟨key, isKey, inside⟩ := inKey
      exact columnsPlain key isKey inside
  have begins : IsLead "INSERT INTO " := ⟨by decide, rfl, by decide⟩
  have separates : IsLead "," := ⟨by decide, rfl, by decide⟩
  have opens : IsLead
      ("INSERT INTO " ++ table ++ " (" ++ ",".intercalate row.keys ++ ") VALUES (") :=
    (((begins.append tablePlain).append (by decide)).append keysPlain).append (by decide)
  have endingPlain : '$' ∉ ")".toList := by decide
  by_cases filled : row = []
  case pos =>
    subst filled
    refine placeholders_of_not_mem ?_
    rw [text_insert, String.toList_append]
    exact List.not_mem_append (opens.append (by decide)).noSign endingPlain
  case neg =>
    have pieces : (List.range row.length).map (fun index => placeholder (index + 1)) =
        withPlaceholders 1 (row.map fun _ => "") := by
      apply List.ext_getElem?
      intro index
      by_cases inRow : index < row.length <;> simp [withPlaceholders, numbered, inRow]
    have piecesPlain : ∀ piece ∈ row.map (fun _ => ""), '$' ∉ piece.toList := by
      intro piece present
      obtain ⟨_, _, rfl⟩ := List.mem_map.1 present
      exact List.not_mem_nil
    have ends : StartsPlainly ")" := rfl
    have found := placeholders_intercalate (mt List.map_eq_nil_iff.1 filled) opens separates
      piecesPlain ends
    rwa [placeholders_of_not_mem endingPlain, List.append_nil, ← pieces, ← text_insert] at found

/-- The placeholders of an update. -/
theorem placeholders_update
    {table : String}
    {row : Row}
    (plain : ∀ name ∈ table :: row.keys, '$' ∉ name.toList)
    (id : Uuid) :
    placeholders (update table id row).text =
      numbered 1 ((row.map fun pair => pair.1 ++ " = ").mapIdx
        (leadAt ("UPDATE " ++ table ++ " SET ") ", ")) ++
        [(leadAt ("UPDATE " ++ table ++ " SET ") "" row.length " WHERE id = ",
          placeholder (row.length + 1))] := by
  obtain ⟨tablePlain, columnsPlain⟩ := List.forall_mem_cons.1 plain
  have begins : IsLead "UPDATE " := ⟨by decide, rfl, by decide⟩
  have separates : IsLead ", " := ⟨by decide, rfl, by decide⟩
  have opens : IsLead ("UPDATE " ++ table ++ " SET ") :=
    (begins.append tablePlain).append (by decide)
  have last (lead : String) (leadPlain : '$' ∉ lead.toList) :
      placeholders (lead ++ placeholder (row.length + 1)) =
        [(lead, placeholder (row.length + 1))] := by
    have found := @placeholders_append lead "" leadPlain rfl (row.length + 1)
    rwa [String.append_empty] at found
  rw [text_update, assignments_eq]
  by_cases filled : row = []
  case pos =>
    subst filled
    have found := last ("UPDATE " ++ table ++ " SET " ++ " WHERE id = ")
      (opens.append (by decide)).noSign
    simpa [withPlaceholders, numbered, leadAt, KeyMap.keys] using found
  case neg =>
    have start : StartsPlainly " WHERE id = " := rfl
    have ends := start.append (by decide) (placeholder (row.length + 1))
    have found := placeholders_intercalate (mt List.map_eq_nil_iff.1 filled) opens separates
      (not_mem_compared columnsPlain) ends
    have notFirst : row.length ≠ 0 := mt List.length_eq_zero_iff.1 filled
    rw [last " WHERE id = " (by decide)] at found
    rw [KeyMap.keys, List.map_map, String.append_assoc, leadAt, if_neg notFirst,
      String.empty_append, ← found]
    rfl

/-- The placeholders of a statement are one for each column that it binds a value to, with the lead
of the column. -/
theorem placeholders_text
    {statement : Statement}
    (plain : ∀ name ∈ statement.names, '$' ∉ name.toList) :
    placeholders statement.text =
      statement.bound.mapIdx fun index pair =>
        (statement.lead index pair.1, placeholder (index + 1)) := by
  cases statement with
  | select table filter order limit =>
      rw [placeholders_select plain, numbered_mapIdx]
      rfl
  | insert table row =>
      rw [placeholders_insert plain, numbered_mapIdx]
      rfl
  | update table id row =>
      rw [placeholders_update plain, numbered_mapIdx, bound, List.mapIdx_concat]
      congr 1
      · refine List.mapIdx_eq_mapIdx_iff.2 fun index inRow => ?_
        rw [lead, if_pos inRow]
      · rw [lead, if_neg (Nat.lt_irrefl _)]
        rfl

/-- What a statement assigns to a column that it writes is the value that it binds there. -/
theorem assigned?_of_bound
    {statement : Statement}
    (distinct : statement.written.keys.Nodup)
    {index : Nat}
    (isWritten : index < statement.written.length)
    {column : String}
    {value : Json}
    (isBound : statement.bound[index]? = some (column, value)) :
    statement.assigned? column = some value := by
  cases statement with
  | select table filter order limit => exact absurd isWritten (Nat.not_lt_zero index)
  | insert table row =>
      exact KeyMap.find?_eq_some_of_mem distinct (List.mem_of_getElem? isBound)
  | update table id row =>
      have inRow : index < row.length := isWritten
      rw [bound, List.getElem?_append_left inRow] at isBound
      exact KeyMap.find?_eq_some_of_mem distinct (List.mem_of_getElem? isBound)

/-- The text and the parameters of a statement agree. The text has as many placeholders as there are
parameters, numbered from one on. Each stands where the text has the column that its parameter is
bound to: a condition of a selection, a column that an insertion lists, an assignment of an update,
and the identifier of the row behind these. What a statement writes to a column is the parameter of
this column, if no column is written twice. -/
theorem text_agrees_with_params
    {statement : Statement}
    (plain : ∀ name ∈ statement.names, '$' ∉ name.toList) :
    (placeholders statement.text).map (·.2) =
        (List.range statement.params.length).map (fun index => placeholder (index + 1)) ∧
      ∀ index (below : index < statement.params.length),
        ∃ column,
          statement.bound[index]? = some (column, statement.params[index]) ∧
            (placeholders statement.text)[index]? =
              some (statement.lead index column, placeholder (index + 1)) ∧
            (statement.written.keys.Nodup → index < statement.written.length →
              statement.assigned? column = some statement.params[index]) := by
  have written := placeholders_text plain
  have bindings := params_eq statement
  refine ⟨?_, fun index below => ?_⟩
  · apply List.ext_getElem?
    intro index
    by_cases inBound : index < statement.bound.length <;>
      simp [written, bindings, inBound]
  · have inBound : index < statement.bound.length := by
      rwa [bindings, List.length_map] at below
    have value : statement.params[index] = statement.bound[index].2 := by
      simp only [bindings, List.getElem_map]
    have isBound : statement.bound[index]? =
        some (statement.bound[index].1, statement.params[index]) := by
      rw [value, List.getElem?_eq_getElem inBound]
    refine ⟨statement.bound[index].1, isBound, ?_, fun distinct isWritten =>
      assigned?_of_bound distinct isWritten isBound⟩
    rw [written, List.getElem?_mapIdx, isBound, Option.map_some]

/-- An update of the author and the pin of a note binds the author first and the identifier last. -/
theorem text_agrees_with_params_of_note :
    let row : Row := [("author", Json.string "ana"), ("pinned", Json.bool true)]
    let note := update "notes" (Uuid.drawn 1) row
    note.text = "UPDATE notes SET author = $1, pinned = $2 WHERE id = $3" ∧
      (placeholders note.text).map (·.2) = ["$1", "$2", "$3"] ∧
      (placeholders note.text)[0]? = some ("UPDATE notes SET author = ", "$1") ∧
      (placeholders note.text)[2]? = some (" WHERE id = ", "$3") ∧
      note.params[2]? = some (Row.ofUuid (Uuid.drawn 1)) := by
  intro row note
  have plain : ∀ name ∈ note.names, '$' ∉ name.toList := by decide
  obtain ⟨numbers, pairs⟩ := text_agrees_with_params plain
  have isText : note.text = "UPDATE notes SET author = $1, pinned = $2 WHERE id = $3" := by
    decide
  obtain ⟨author, isAuthor, atAuthor, _⟩ := pairs 0 (by decide)
  obtain ⟨id, isId, atId, _⟩ := pairs 2 (by decide)
  obtain ⟨rfl, _⟩ := Prod.mk.inj (Option.some.inj isAuthor)
  obtain ⟨rfl, _⟩ := Prod.mk.inj (Option.some.inj isId)
  exact ⟨isText, numbers, atAuthor, atId, rfl⟩

end Statement

end Screencast
