import Mathlib.Data.List.Basic
import Screencast.Http.Request
import Screencast.Proofs.Account.Resolve
import Screencast.Proofs.Effect.OnStubs
import Screencast.Proofs.Text.Split
import Screencast.Proofs.Text.Utf8
import Screencast.Proofs.Uuid

/-!
# From a cookie to a session

A browser keeps the first part of the header value that it was given, and presents it with later
requests, among other pairs. The first pair that carries an identifier decides, whatever stands in
the pairs around it. The identifier of a session is read from it again, and its session is the one
in the tables.
-/

namespace Screencast

namespace Text

variable {isUnwanted : Char → Bool} {before middle after : List Char}

/-- Unwanted characters at the start are dropped. -/
theorem dropWhile_append_of_forall
    (unwanted : ∀ char ∈ before, isUnwanted char = true) :
    (before ++ middle).dropWhile isUnwanted = middle.dropWhile isUnwanted := by
  induction before with
  | nil => rfl
  | cons char rest inductionHypothesis =>
      obtain ⟨isFirst, inRest⟩ := List.forall_mem_cons.1 unwanted
      rw [List.cons_append, List.dropWhile_cons_of_pos isFirst, inductionHypothesis inRest]

/-- Between unwanted characters at both ends, wanted ones are kept. -/
theorem trimChars_append_append
    (unwantedBefore : ∀ char ∈ before, isUnwanted char = true)
    (wanted : ∀ char ∈ middle, isUnwanted char = false)
    (unwantedAfter : ∀ char ∈ after, isUnwanted char = true) :
    trimChars isUnwanted (before ++ (middle ++ after)) = middle := by
  have unwantedEnd : ∀ char ∈ after.reverse, isUnwanted char = true :=
    fun char present => unwantedAfter char (List.mem_reverse.1 present)
  rw [trimChars, dropWhile_append_of_forall unwantedBefore]
  rcases List.eq_nil_or_concat middle with rfl | ⟨start, last, concat⟩
  · rw [List.nil_append, ← List.append_nil after, dropWhile_append_of_forall unwantedAfter]
    rfl
  · obtain rfl := concat.trans List.concat_eq_append
    have isLast : isUnwanted last = false := wanted last (by simp)
    obtain ⟨first, rest, parts⟩ : ∃ first rest, start ++ [last] = first :: rest :=
      List.exists_cons_of_ne_nil (by simp)
    have isFirst : isUnwanted first = false := wanted first (by simp [parts])
    have kept : (start ++ [last] ++ after).dropWhile isUnwanted = start ++ [last] ++ after := by
      rw [parts, List.cons_append, List.dropWhile_cons_of_neg (by simp [isFirst])]
    rw [kept, List.reverse_append, dropWhile_append_of_forall unwantedEnd, List.reverse_append]
    simp [List.dropWhile_cons_of_neg, isLast]

/-- Characters with padding before and behind them. -/
def IsPadded (isPadding : Char → Bool) (chars padded : List Char) : Prop :=
  ∃ before after, (∀ char ∈ before, isPadding char = true) ∧
    (∀ char ∈ after, isPadding char = true) ∧ padded = before ++ (chars ++ after)

variable {isPadding : Char → Bool} {chars padded : List Char}

theorem isPadded_self (isPadding : Char → Bool) (chars : List Char) :
    IsPadded isPadding chars chars :=
  ⟨[], [], List.forall_mem_nil _, List.forall_mem_nil _, (List.append_nil chars).symm⟩

/-- What is dropped at both ends is padding. -/
theorem isPadded_trimChars (isPadding : Char → Bool) (chars : List Char) :
    IsPadded isPadding (trimChars isPadding chars) chars := by
  refine ⟨chars.takeWhile isPadding,
    ((chars.dropWhile isPadding).reverse.takeWhile isPadding).reverse, ?_, ?_, ?_⟩
  · exact List.all_eq_true.1 List.all_takeWhile
  · intro char present
    exact List.all_eq_true.1 List.all_takeWhile char (List.mem_reverse.1 present)
  · rw [trimChars, ← List.reverse_append, List.takeWhile_append_dropWhile, List.reverse_reverse,
      List.takeWhile_append_dropWhile]

theorem IsPadded.trimChars_eq
    (isPadded : IsPadded isPadding chars padded)
    (wanted : ∀ char ∈ chars, isPadding char = false) :
    trimChars isPadding padded = chars := by
  obtain ⟨before, after, isBefore, isAfter, rfl⟩ := isPadded
  exact trimChars_append_append isBefore wanted isAfter

/-- A character that is neither padding nor among the characters is not there. -/
theorem IsPadded.not_mem
    {char : Char}
    (isPadded : IsPadded isPadding chars padded)
    (noPadding : isPadding char = false)
    (absent : char ∉ chars) :
    char ∉ padded := by
  obtain ⟨before, after, isBefore, isAfter, rfl⟩ := isPadded
  simp only [List.mem_append, not_or]
  exact ⟨fun present => Bool.noConfusion (noPadding.symm.trans (isBefore char present)), absent,
    fun present => Bool.noConfusion (noPadding.symm.trans (isAfter char present))⟩

/-- The visible characters of ASCII are no white space. -/
theorem isSpace_eq_false
    {char : Char}
    (least : 33 ≤ char.toNat)
    (greatest : char.toNat ≤ 126) :
    isSpace char = false := by
  simp only [isSpace, Bool.or_eq_false_iff, Bool.and_eq_false_iff, decide_eq_false_iff_not]
  omega

end Text

namespace Session

/-! ## The pairs of a header -/

/-- A pair of a cookie header carries an identifier: its name is that of the cookie, and its value
is read as the identifier. White space may stand around both, and quotes around the value. -/
def Carries (pair : String) (id : Uuid) : Prop :=
  ∃ name value quoted bare, pair.toList = name ++ '=' :: value ∧
    Text.IsPadded Text.isSpace cookieName.toList name ∧
    Text.IsPadded Text.isSpace quoted value ∧
    Text.IsPadded (· = '"') bare quoted ∧
    Uuid.parse? (String.ofList bare) = some id

/-- What is read from a pair is what it carries. -/
theorem tokenOfPair?_eq_some_iff
    {pair : String}
    {id : Uuid} :
    tokenOfPair? pair = some id ↔ Carries pair id := by
  constructor
  case mp =>
    intro read
    unfold tokenOfPair? at read
    split at read
    case h_1 name value isCut =>
      obtain ⟨⟨before, after⟩, found, same⟩ := Option.map_eq_some_iff.1 isCut
      obtain ⟨rfl, rfl⟩ := Prod.mk.inj same
      split at read
      case isTrue isName =>
        rw [Text.trim, String.toList_ofList] at isName
        rw [unquote, Text.trim, String.toList_ofList, String.toList_ofList] at read
        have namePadded := Text.isPadded_trimChars Text.isSpace before
        rw [← String.toList_ofList (l := Text.trimChars _ _), isName] at namePadded
        exact ⟨before, after, _, _, Text.cutChars_eq_some found, namePadded,
          Text.isPadded_trimChars _ _, Text.isPadded_trimChars _ _, read⟩
      case isFalse => cases read
    case h_2 => cases read
  case mpr =>
    rintro ⟨name, value, quoted, bare, parts, isName, isValue, isQuoted, read⟩
    have within : ∀ char ∈ bare, Uuid.IsWithin char := by
      simpa using Uuid.isWithin_of_parse? read
    have noQuote : ∀ char ∈ bare, decide (char = '"') = false := by
      intro char present
      refine decide_eq_false fun isQuote => absurd (within char present).1 ?_
      rw [isQuote]
      decide
    -- Neither the identifier nor the quotes around it are white space.
    have noSpace : ∀ char ∈ quoted, Text.isSpace char = false := by
      obtain ⟨before, after, isBefore, isAfter, rfl⟩ := isQuoted
      intro char present
      rcases List.mem_append.1 present with inBefore | inRest
      · rw [of_decide_eq_true (isBefore char inBefore)]
        decide
      rcases List.mem_append.1 inRest with inBare | inAfter
      · obtain ⟨least, greatest⟩ := within char inBare
        exact Text.isSpace_eq_false (Nat.le_trans (by decide) least)
          (Nat.le_trans greatest (by decide))
      · rw [of_decide_eq_true (isAfter char inAfter)]
        decide
    have noSign : '=' ∉ name := isName.not_mem (by decide) (by decide)
    have noSpaceInName : cookieName.toList.all (fun char => decide (Text.isSpace char = false)) =
        true := by
      decide
    have trimmedName : Text.trimChars Text.isSpace name = cookieName.toList :=
      isName.trimChars_eq fun char present =>
        of_decide_eq_true (List.all_eq_true.1 noSpaceInName char present)
    simp only [tokenOfPair?, Text.cut, parts, Text.cutChars_append_cons noSign, Option.map_some,
      Text.trim, unquote, String.toList_ofList, trimmedName, String.ofList_toList, if_true,
      isValue.trimChars_eq noSpace, isQuoted.trimChars_eq noQuote, read]

/-- Nothing is read from a pair that carries no identifier. -/
theorem tokenOfPair?_eq_none_iff {pair : String} :
    tokenOfPair? pair = none ↔ ∀ id, ¬ Carries pair id := by
  simp only [Option.eq_none_iff_forall_ne_some, ne_eq, tokenOfPair?_eq_some_iff]

/-- From pairs with semicolons between them, the first identifier that can be read is taken. -/
theorem token?_intercalate
    {pairs : List String}
    (whole : ∀ pair ∈ pairs, ';' ∉ pair.toList) :
    token? (";".intercalate pairs) = pairs.findSome? tokenOfPair? := by
  cases pairs with
  | nil => rfl
  | cons first others =>
      rw [token?, show ";" = String.singleton ';' from rfl, Text.split_intercalate whole]

/-! ## Presenting a cookie -/

/-- What a browser presents of a header value that it was given: the part before the attributes. -/
def presented (cookie : String) : String :=
  match Text.cut ';' cookie with
  | some (pair, _) => pair
  | none => cookie

/-- A pair names a session: its name is that of the cookie, and its value is the written form of the
identifier in quotes. White space may stand around both. -/
def Names (pair : String) (id : Uuid) : Prop :=
  ∃ name value, pair.toList = name ++ '=' :: value ∧
    Text.IsPadded Text.isSpace cookieName.toList name ∧
    Text.IsPadded Text.isSpace ("\"" ++ id.text ++ "\"").toList value

/-- A pair that names a session carries its identifier. -/
theorem Names.carries
    {pair : String}
    {id : Uuid}
    (names : Names pair id) :
    Carries pair id := by
  obtain ⟨name, value, parts, isName, isValue⟩ := names
  have isQuoted : Text.IsPadded (· = '"') id.text.toList ("\"" ++ id.text ++ "\"").toList :=
    ⟨['"'], ['"'], by simp, by simp, by simp⟩
  have read : Uuid.parse? (String.ofList id.text.toList) = some id := by
    rw [String.ofList_toList, Uuid.parse?_text]
  exact ⟨name, value, _, _, parts, isName, isValue, isQuoted, read⟩

/-- The pair of a session holds no semicolon. -/
theorem separator_not_mem_pair (id : Uuid) :
    ';' ∉ (cookieName ++ "=" ++ ("\"" ++ id.text ++ "\"")).toList := by
  have inName : ';' ∉ cookieName.toList := by decide
  have inText : ';' ∉ id.text.toList := by
    intro present
    rcases Uuid.mem_text present with ⟨digit, isDigit⟩ | isHyphen
    · have noDigit : ∀ digit, ';' ≠ Text.hexDigit digit := by decide
      exact noDigit digit isDigit
    · exact absurd isHyphen (by decide)
  simp [inName, inText]

/-- The part of a cookie before its attributes is the pair of its session. -/
theorem presented_cookie (id : Uuid) :
    presented (cookie id) = cookieName ++ "=" ++ ("\"" ++ id.text ++ "\"") := by
  have parts : cookie id =
      cookieName ++ "=" ++ ("\"" ++ id.text ++ "\"") ++ String.singleton ';' ++
        " HttpOnly; Path=/" := by
    rw [cookie]
    simp [← String.toList_inj]
  rw [presented, parts, Text.cut_append (separator_not_mem_pair id)]

theorem names_presented_cookie (id : Uuid) : Names (presented (cookie id)) id := by
  refine ⟨_, _, ?_, Text.isPadded_self _ _, Text.isPadded_self _ _⟩
  rw [presented_cookie]
  simp

/-- The identifier of a session is read from what a browser presents of its cookie. -/
theorem token?_presented_cookie (id : Uuid) : token? (presented (cookie id)) = some id := by
  have carried := tokenOfPair?_eq_some_iff.2 (names_presented_cookie id).carries
  have whole : ∀ pair ∈ [presented (cookie id)], ';' ∉ pair.toList := by
    rw [presented_cookie]
    exact List.forall_mem_singleton.2 (separator_not_mem_pair id)
  have read := token?_intercalate whole
  rwa [String.intercalate_singleton, List.findSome?_cons, carried] at read

/-! ## Resolving a session -/

/-- A session is found as the tables tell. -/
theorem yieldsOn_resolve
    {world : Type}
    {pool : Pool}
    {token : Uuid}
    {session : Option Session}
    (found : lookUp pool token = Except.ok session) :
    (resolve token : Step world (Option Session)).YieldsOn pool session :=
  (finds_resolve found).yieldsOn

end Session

namespace Http

/-! ## The pairs of a request -/

/-- Whether a character is visible ASCII, a blank or a tab. -/
def isVisible (char : Char) : Bool := char = '\t' || (32 ≤ char.toNat && char.toNat < 127)

/-- The bytes of a visible text are read as this text. -/
theorem visibleText?_encode
    {text : String}
    (visible : ∀ char ∈ text.toList, isVisible char = true) :
    visibleText? (Text.encode text) = some text := by
  have code (char : Char) (present : char ∈ text.toList) :
      char.toNat = 9 ∨ 32 ≤ char.toNat ∧ char.toNat < 127 := by
    have seen := visible char present
    simp only [isVisible, Bool.or_eq_true, Bool.and_eq_true, decide_eq_true_eq] at seen
    exact seen.imp_left (congrArg Char.toNat)
  have bytes : Text.encode text = text.toList.map fun char => UInt8.ofNat char.toNat := by
    rw [Text.encode, List.map_eq_flatMap]
    refine List.flatMap_congr fun char present => Text.utf8EncodeChar_of_le_127 ?_
    have range := code char present
    omega
  have value (char : Char) (present : char ∈ text.toList) :
      (UInt8.ofNat char.toNat).toNat = char.toNat := by
    have range := code char present
    exact Text.toNat_byte (by omega)
  have areVisible : ∀ byte ∈ Text.encode text, isVisibleByte byte = true := by
    rw [bytes]
    refine List.forall_mem_map.2 fun char present => ?_
    have range := code char present
    simp only [isVisibleByte, Bool.or_eq_true, Bool.and_eq_true, decide_eq_true_eq,
      UInt8.le_iff_toNat_le, UInt8.lt_iff_toNat_lt, ← UInt8.toNat_inj, value char present,
      UInt8.reduceToNat]
    exact range
  have chars : (Text.encode text).map (fun byte => Char.ofNat byte.toNat) = text.toList := by
    rw [bytes, List.map_map]
    refine (List.map_congr_left fun char present => ?_).trans (List.map_id _)
    rw [Function.comp_apply, value char present, Char.ofNat_toNat, id]
  rw [visibleText?, if_pos (List.all_eq_true.2 areVisible), chars, String.ofList_toList]

namespace Request

/-- The cookie headers of a request are made up of pairs, with semicolons between the pairs of each
header. All their characters are visible. -/
structure Presents (request : Request) (headers : List (List String)) : Prop where
  values : (request.headers.filter fun header => lowerName header.1 = "cookie").map (·.2) =
    headers.map fun pairs => Text.encode (";".intercalate pairs)
  whole : ∀ pairs ∈ headers, ∀ pair ∈ pairs, ';' ∉ pair.toList
  visible : ∀ pairs ∈ headers, ∀ pair ∈ pairs, pair.toList.all isVisible = true

variable {request : Request} {headers : List (List String)}

/-- All cookie headers can be read. -/
theorem Presents.cookies_eq (presents : request.Presents headers) :
    request.cookies = headers.map fun pairs => ";".intercalate pairs := by
  have values : request.cookies = ((request.headers.filter fun header =>
      lowerName header.1 = "cookie").map (·.2)).filterMap visibleText? := by
    rw [cookies, List.filterMap_map, List.filterMap_filter]
    refine List.filterMap_congr fun header _ => ?_
    simp
  have readable : ∀ pairs ∈ headers,
      visibleText? (Text.encode (";".intercalate pairs)) = some (";".intercalate pairs) := by
    intro pairs present
    refine visibleText?_encode fun char inText => ?_
    rw [show ";" = String.singleton ';' from rfl] at inText
    rcases Text.mem_of_mem_intercalate inText with rfl | ⟨pair, inPairs, inPair⟩
    · decide
    · exact List.all_eq_true.1 (presents.visible pairs present pair inPairs) char inPair
  rw [values, presents.values, List.filterMap_map, ← List.filterMap_eq_map]
  exact List.filterMap_congr readable

/-- The identifier of a request is the first one that is read from its pairs, in the order of the
headers and then of their pairs. -/
theorem Presents.sessionToken?_eq (presents : request.Presents headers) :
    request.sessionToken? = headers.flatten.findSome? Session.tokenOfPair? := by
  have whole := presents.whole
  rw [sessionToken?, presents.cookies_eq, List.findSome?_map]
  clear presents
  induction headers with
  | nil => rfl
  | cons pairs rest inductionHypothesis =>
      obtain ⟨pairsWhole, restWhole⟩ := List.forall_mem_cons.1 whole
      rw [List.findSome?_cons, List.flatten_cons, List.findSome?_append, Function.comp_apply,
        Session.token?_intercalate pairsWhole, inductionHypothesis restWhole]
      cases pairs.findSome? Session.tokenOfPair? <;> rfl

/-- The identifier of a request is the one that its first pair with an identifier carries. -/
theorem Presents.sessionToken?_eq_some_iff
    (presents : request.Presents headers)
    {id : Uuid} :
    request.sessionToken? = some id ↔
      ∃ before pair after, headers.flatten = before ++ pair :: after ∧ Session.Carries pair id ∧
        ∀ earlier ∈ before, ∀ other, ¬ Session.Carries earlier other := by
  simp only [presents.sessionToken?_eq, List.findSome?_eq_some_iff,
    Session.tokenOfPair?_eq_some_iff, Session.tokenOfPair?_eq_none_iff]

/-- A request names no session exactly if none of its pairs carries an identifier. -/
theorem Presents.sessionToken?_eq_none_iff (presents : request.Presents headers) :
    request.sessionToken? = none ↔
      ∀ pair ∈ headers.flatten, ∀ id, ¬ Session.Carries pair id := by
  simp only [presents.sessionToken?_eq, List.findSome?_eq_none_iff,
    Session.tokenOfPair?_eq_none_iff]

/-- The session of a request is found among all its pairs. If a pair names a session as the cookie
of the session does, with white space around its name or its value or without, and no pair before
it carries an identifier, the session is found, whatever the pairs before and after it are. If no
pair carries an identifier, no session is found, and only then. -/
theorem sessionToken?_of_presents
    (presents : request.Presents headers) :
    (∀ id, Session.Names (Session.presented (Session.cookie id)) id) ∧
    (∀ id before pair after, headers.flatten = before ++ pair :: after →
      Session.Names pair id →
      (∀ earlier ∈ before, ∀ other, ¬ Session.Carries earlier other) →
      request.sessionToken? = some id) ∧
    (request.sessionToken? = none ↔
      ∀ pair ∈ headers.flatten, ∀ id, ¬ Session.Carries pair id) := by
  refine ⟨Session.names_presented_cookie, ?found, presents.sessionToken?_eq_none_iff⟩
  case found =>
    intro id before pair after parts names earliest
    exact presents.sessionToken?_eq_some_iff.2 ⟨before, pair, after, parts, names.carries, earliest⟩

/-- A session is found between a pair without a sign, a pair whose identifier is malformed and a
pair of another session. -/
theorem sessionToken?_of_presents_among_malformed :
    let id := Uuid.drawn 7
    let named := " sessionid = \"" ++ id.text ++ "\" "
    let headers :=
      [["theme=dark", " sessionid", "sessionid=\"lost\""],
        ["", named, "sessionid=" ++ (Uuid.drawn 8).text]]
    let values := headers.map fun pairs => Text.encode (";".intercalate pairs)
    let request : Request :=
      { method := "GET"
        target := { path := "/", query := none }
        headers := values.flatMap fun value => [("Cookie", value), ("Accept", [])]
        body := some [] }
    request.Presents headers ∧ request.sessionToken? = some id := by
  intro id named headers values request
  have presents : request.Presents headers :=
    ⟨by decide +kernel, by decide +kernel, by decide +kernel⟩
  have isSpace : ∀ char ∈ [' '], Text.isSpace char = true := List.forall_mem_singleton.2 rfl
  have names : Session.Names named id :=
    ⟨" sessionid ".toList, (" \"" ++ id.text ++ "\" ").toList, by decide +kernel,
      ⟨[' '], [' '], isSpace, isSpace, by decide⟩,
      ⟨[' '], [' '], isSpace, isSpace, by decide +kernel⟩⟩
  have earliest : ∀ earlier ∈ ["theme=dark", " sessionid", "sessionid=\"lost\"", ""],
      ∀ other, ¬ Session.Carries earlier other := by
    intro earlier present
    refine Session.tokenOfPair?_eq_none_iff.1 ?_
    revert earlier
    decide +kernel
  exact ⟨presents, (sessionToken?_of_presents presents).2.1 id _ named _ rfl names earliest⟩

end Request

end Http

end Screencast
