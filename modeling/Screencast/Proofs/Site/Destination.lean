import Screencast.Proofs.Site.Route
import Screencast.Site.GithubSignIn

/-!
# Where visitors are led after signing in

The URL of a page is decoded before a visitor is led there. What comes out is the path of the page
as it is written without escapes. It leads to the page again if every part of it stands for itself.
-/

namespace Screencast

namespace Url

/-- A text that stands for itself in a path: no separator, no control character and no escape is in
it. -/
structure StandsForItself (part : String) : Prop where
  noSlash : '/' ∉ part.toList
  noQuery : '?' ∉ part.toList
  noControl : part.toList.any Text.isControl = false
  unescaped : percentDecode part = part

/-- There is no control character among unreserved ones. -/
theorem isControl_of_isPlain {text : String} (plain : isPlain text = true) :
    text.toList.any Text.isControl = false := by
  have ofNumber : ∀ number : Fin 128, isUnreserved (UInt8.ofNat number) = true →
      Text.isControl (Char.ofNat number) = false := by
    decide +kernel
  rw [List.any_eq_false]
  intro char isThere
  obtain ⟨isAscii, unreserved⟩ : char.toNat ≤ 127 ∧
      isUnreserved (UInt8.ofNat char.toNat) = true := by
    simpa using List.all_eq_true.1 plain char isThere
  have noControl := ofNumber ⟨char.toNat, Nat.lt_succ_of_le isAscii⟩ unreserved
  rw [Char.ofNat_toNat] at noControl
  exact Bool.eq_false_iff.1 noControl

/-- A text of unreserved characters stands for itself. -/
theorem standsForItself_of_isPlain {text : String} (plain : isPlain text = true) :
    StandsForItself text where
  noSlash := not_mem_of_isPlain plain (by decide)
  noQuery := not_mem_of_isPlain plain (by decide)
  noControl := isControl_of_isPlain plain
  unescaped := by
    have decoded := percentDecode_percentEncode text
    rwa [percentEncode_of_isPlain plain] at decoded

/-- The path of parts that are written without escapes. -/
def plainPath (parts : List String) : String :=
  if parts = [] then "/" else String.join (parts.map (String.singleton '/' ++ ·))

/-- Decoding takes back the escapes of a path, but leaves the slashes. -/
theorem decodeBytes_encode_pathOf (parts : List String) :
    decodeBytes (Text.encode (pathOf parts)) =
      Text.encode (String.join (parts.map (String.singleton '/' ++ ·))) := by
  induction parts with
  | nil => rfl
  | cons part parts inductionHypothesis =>
      have written : pathOf (part :: parts) = "/" ++ percentEncode part ++ pathOf parts := by
        rw [pathOf, List.map_cons, String.join_cons]
        rfl
      have slash : Text.encode "/" = ['/'.toUInt8] := by decide
      rw [written, Text.encode_append, Text.encode_append, encode_percentEncode, List.append_assoc,
        slash, List.singleton_append, decodeBytes_cons (by decide),
        decodeBytes_flatMap_encodedBytes_append, inductionHypothesis, List.map_cons,
        String.join_cons, Text.encode_append, Text.encode_append, List.append_assoc]
      rfl

theorem percentDecode_pathOf
    {parts : List String}
    (nonempty : parts ≠ []) :
    percentDecode (pathOf parts) = plainPath parts := by
  rw [percentDecode, decodeBytes_encode_pathOf, Text.decodeLossy_encode, plainPath, if_neg nonempty]

/-- A path that is written without escapes holds what its parts hold, and slashes. -/
theorem any_plainPath
    {holds : Char → Bool}
    (notSlash : holds '/' = false)
    (parts : List String) :
    (plainPath parts).toList.any holds = parts.any fun part => part.toList.any holds := by
  unfold plainPath
  split
  next isEmpty => simp [isEmpty, notSlash]
  next =>
    rw [Text.toList_join_separated, List.any_flatMap, List.any_map]
    simp [Function.comp_def, notSlash]

/-- A path that begins with a plain name is one on this site, unless there is a control character in
it. -/
theorem isLocalPath_plainPath
    {name : String}
    (plain : isPlain name = true)
    (nonempty : name ≠ "")
    (rest : List String) :
    isLocalPath (plainPath (name :: rest)).toList =
      !(name :: rest).any fun part => part.toList.any Text.isControl := by
  rw [← any_plainPath (by decide)]
  obtain ⟨first, others, isName⟩ : ∃ first others, name.toList = first :: others :=
    List.exists_cons_of_ne_nil fun isEmpty => nonempty (String.toList_eq_nil_iff.1 isEmpty)
  have noSlash : first ≠ '/' := by
    rintro rfl
    exact not_mem_of_isPlain plain (by decide) (isName ▸ List.mem_cons_self)
  have noBackslash : first ≠ '\\' := by
    rintro rfl
    exact not_mem_of_isPlain plain (by decide) (isName ▸ List.mem_cons_self)
  have chars : ∃ more, (plainPath (name :: rest)).toList = '/' :: first :: more := by
    simp [plainPath, isName]
  obtain ⟨more, chars⟩ := chars
  rw [chars]
  unfold isLocalPath
  split
  next same => exact absurd (List.cons.inj (List.cons.inj same).2).1 noSlash
  next same => exact absurd (List.cons.inj (List.cons.inj same).2).1 noBackslash
  next => rfl
  next isOther => exact absurd rfl (isOther (first :: more))

end Url

namespace RequestHead

/-- The request that a browser sends when it follows a link to a target. -/
def following (target : String) : RequestHead :=
  match Text.cut '?' target with
  | some (path, query) => { method := "GET", path, query := some query }
  | none => { method := "GET", path := target, query := none }

theorem following_url {route : Route} (isGet : route.method = "GET") :
    following route.url = ofRoute route := by
  unfold following ofRoute
  cases Text.cut '?' route.url <;> simp only [isGet]

end RequestHead

namespace Route

/-- A page on which visitors can sign in. -/
def OffersSignIn : Route → Prop
  | home | episodes | collections | collection _ | episode _ | subscribe | subscribeTeam
  | promoCode _ | teamMemberSignup _ => True
  | _ => False

/-- The text that tells a page from others of its kind, if there is one. -/
def slug : Route → String
  | collection slug => slug
  | episode slug => slug
  | promoCode code => code
  | _ => ""

variable {route : Route} {parts : List String}

/-- The path of parts that stand for themselves has these parts. -/
theorem segments_plainPath
    (noneEmpty : "" ∉ parts)
    (standing : ∀ part ∈ parts, Url.StandsForItself part) :
    segments (Url.plainPath parts) = parts := by
  unfold Url.plainPath
  split
  next isEmpty =>
    subst isEmpty
    decide
  next =>
    have nonempty : parts.filter (· ≠ "") = parts :=
      List.filter_eq_self.2 fun part isPart =>
        decide_eq_true fun isEmpty => noneEmpty (isEmpty ▸ isPart)
    rw [segments, Text.split_join fun part isPart => (standing part isPart).noSlash,
      List.filter_cons_of_neg (by simp), nonempty]
    exact (List.map_congr_left fun part isPart => (standing part isPart).unescaped).trans
      (List.map_id parts)

/-- A page on which visitors can sign in is requested by a path without parameters, which begins
with a plain name unless it is the home page. -/
theorem of_offersSignIn (offers : route.OffersSignIn) :
    route.method = "GET" ∧ route.params = [] ∧ (route = home ∨
      ∃ name rest, route.parts = name :: rest ∧ Url.isPlain name = true ∧ name ≠ "") := by
  cases route with
  | home => exact ⟨rfl, rfl, Or.inl rfl⟩
  | episodes | collections | collection | episode | subscribe | subscribeTeam | promoCode
    | teamMemberSignup => exact ⟨rfl, rfl, Or.inr ⟨_, _, rfl, by decide, by decide⟩⟩
  | _ => exact offers.elim

/-- The parts of the path of a page on which visitors can sign in are plain, but for the slug. -/
theorem isPlain_or_eq_slug
    (offers : route.OffersSignIn)
    {part : String}
    (isPart : part ∈ route.parts) :
    Url.isPlain part = true ∨ part = route.slug := by
  cases route with
  | home => cases isPart
  | episodes | collections | subscribe | subscribeTeam =>
      exact Or.inl (List.mem_singleton.1 isPart ▸ by decide)
  | collection | episode | promoCode =>
      rcases List.mem_cons.1 isPart with rfl | isLast
      · exact Or.inl (by decide)
      · exact Or.inr (List.mem_singleton.1 isLast)
  | teamMemberSignup token =>
      rcases List.mem_cons.1 isPart with rfl | isLast
      · exact Or.inl (by decide)
      · exact Or.inl (List.mem_singleton.1 isLast ▸ isPlain_text token)
  | _ => exact offers.elim

/-- A control character is in the path of a page on which visitors can sign in exactly if it is in
the slug. -/
theorem any_parts_isControl (offers : route.OffersSignIn) :
    (route.parts.any fun part => part.toList.any Text.isControl) =
      route.slug.toList.any Text.isControl := by
  have plainPart : ∀ name rest, Url.isPlain name = true →
      ((name :: rest : List String).any fun part => part.toList.any Text.isControl) =
        rest.any fun part => part.toList.any Text.isControl := by
    intro name rest plain
    rw [List.any_cons, Url.isControl_of_isPlain plain, Bool.false_or]
  cases route with
  | home => rfl
  | episodes | collections | subscribe | subscribeTeam => exact plainPart _ [] (by decide)
  | collection | episode | promoCode =>
      exact (plainPart _ [_] (by decide)).trans (Bool.or_false _)
  | teamMemberSignup token =>
      exact (plainPart _ [_] (by decide)).trans (plainPart _ [] (isPlain_text token))
  | _ => exact offers.elim

/-- Whoever comes from a page on which visitors can sign in is led to its path without escapes, or
to the home page if there is a control character in it. -/
theorem safeDestination_url (offers : route.OffersSignIn) :
    Url.safeDestination route.url =
      if route.slug.toList.any Text.isControl then "/" else Url.plainPath route.parts := by
  rw [← any_parts_isControl offers]
  obtain ⟨_, noParams, isHome | ⟨name, rest, parts, plain, nonempty⟩⟩ := of_offersSignIn offers
  · subst isHome
    decide +kernel
  · have isNotHome : route ≠ home := by
      rintro rfl
      cases parts
    have url : route.url = Url.pathOf (name :: rest) := by
      rw [url_eq, noParams, path, if_neg isNotHome, parts]
      rfl
    rw [Url.safeDestination, url, Url.percentDecode_pathOf (List.cons_ne_nil name rest), parts,
      Url.isLocalPath_plainPath plain nonempty]
    cases (name :: rest).any fun part => part.toList.any Text.isControl <;> rfl

/-- The path without escapes leads to a page, if its parts stand for themselves. -/
theorem route?_following_plainPath
    (offers : route.OffersSignIn)
    (named : route.NamesNothingEmpty)
    (standing : Url.StandsForItself route.slug) :
    (RequestHead.following (Url.plainPath route.parts)).route? = some route := by
  obtain ⟨isGet, noParams, _⟩ := of_offersSignIn offers
  have partsStand : ∀ part ∈ route.parts, Url.StandsForItself part := by
    intro part isPart
    rcases isPlain_or_eq_slug offers isPart with plain | rfl
    · exact Url.standsForItself_of_isPlain plain
    · exact standing
  have noneEmpty : "" ∉ route.parts := by
    have kept := filter_parts named
    intro isThere
    rw [← kept] at isThere
    simp at isThere
  have noQuery : '?' ∉ (Url.plainPath route.parts).toList := by
    have noneThere : (Url.plainPath route.parts).toList.any (· = '?') = false := by
      rw [Url.any_plainPath (by decide), List.any_eq_false]
      intro part isPart
      simpa using (partsStand part isPart).noQuery
    exact fun isThere => List.any_eq_false.1 noneThere '?' isThere (decide_eq_true rfl)
  have readBack := route?_ofRoute_of_namesNothingEmpty named
  rw [route?_ofRoute, filter_parts named, noParams, isGet, if_neg (by decide)] at readBack
  rw [RequestHead.following, Text.cut_of_not_mem noQuery]
  change ofPage? (segments (Url.plainPath route.parts)) [] = some route
  rw [segments_plainPath noneEmpty partsStand]
  exact readBack

end Route

end Screencast
