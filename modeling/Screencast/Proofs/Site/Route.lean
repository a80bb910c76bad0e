import Screencast.Proofs.Url.Percent
import Screencast.Proofs.Uuid
import Screencast.Site.Dispatch

/-!
# Routes and their URLs

A route is read back from its own URL exactly if nothing that it names is empty: an empty segment of
a path is dropped, so that a route with one falls together with another route or with none.  Every
route that is read from a request is of this kind, since decoding a segment that is not empty leaves
something.
-/

namespace Screencast

namespace Url

/-- The path of encoded parts. -/
def pathOf (parts : List String) : String :=
  String.join (parts.map fun part => "/" ++ percentEncode part)

theorem pathOf_eq_join (parts : List String) :
    pathOf parts =
      String.join ((parts.map percentEncode).map (String.singleton '/' ++ ·)) := by
  rw [pathOf, List.map_map]
  rfl

/-- No query begins within a path of encoded parts. -/
theorem not_mem_pathOf
    {char : Char}
    (reserved : isEncodedChar char = false)
    (different : char ≠ '/')
    (parts : List String) :
    char ∉ (pathOf parts).toList := by
  simp [pathOf, String.toList_join, not_mem_percentEncode reserved, different]

/-- The parameters that have a value. -/
def given (params : List (String × Option String)) : List (String × String) :=
  params.filterMap fun (name, value) => value.map fun value => (name, value)

/-- A path with parameters holds the written pairs of those that have a value. -/
theorem withQuery_eq
    (path : String)
    (params : List (String × Option String)) :
    withQuery path params =
      match given params with
      | [] => path
      | first :: others => path ++ "?" ++ "&".intercalate ((first :: others).map writePair) := by
  have pairs :
      (params.filterMap fun (name, value) =>
          value.map fun value => name ++ "=" ++ percentEncode value) =
        (given params).map writePair := by
    simp only [given, List.map_filterMap, Option.map_map]
    rfl
  rw [withQuery, pairs]
  cases given params <;> rfl

/-- A path with parameters is cut into the path and a query that is read as the parameters. -/
theorem cut_withQuery
    {path : String}
    {params : List (String × Option String)}
    (noQuery : '?' ∉ path.toList)
    (plain : ∀ pair ∈ given params, isPlain pair.1 = true) :
    ∃ query : Option String,
      (query.map queryParams).getD [] = given params ∧
      Text.cut '?' (withQuery path params) = query.map (path, ·) ∧
      (query = none → withQuery path params = path) := by
  rw [withQuery_eq]
  cases pairs : given params with
  | nil => exact ⟨none, rfl, Text.cut_of_not_mem noQuery, fun _ => rfl⟩
  | cons first others =>
      rw [pairs] at plain
      refine ⟨some ("&".intercalate ((first :: others).map writePair)), ?_, ?_, nofun⟩
      · exact queryParams_intercalate plain
      · exact Text.cut_append noQuery _

end Url

namespace Route

/-- The segments of a path of encoded parts are the parts that are not empty. -/
theorem segments_pathOf (parts : List String) :
    segments (Url.pathOf parts) = parts.filter (· ≠ "") := by
  have noSlash : ∀ piece ∈ parts.map Url.percentEncode, '/' ∉ piece.toList := by
    intro piece present
    obtain ⟨part, _, rfl⟩ := List.mem_map.1 present
    exact Url.not_mem_percentEncode (by decide) part
  have keeps : ((fun piece => decide (piece ≠ "")) ∘ Url.percentEncode) =
      fun part => decide (part ≠ "") := by
    funext part
    simp only [Function.comp_apply, ne_eq, Url.percentEncode_eq_empty_iff]
  have decodes : (Url.percentDecode ∘ Url.percentEncode) = id :=
    funext Url.percentDecode_percentEncode
  rw [segments, Url.pathOf_eq_join, Text.split_join noSlash, List.filter_cons_of_neg (by simp),
    List.filter_map, List.map_map, keeps, decodes, List.map_id]

/-! ## The parts of a URL -/

/-- The segments of the path of a route, empty ones included. -/
def parts : Route → List String
  | home => []
  | episodes => ["episodes"]
  | episodesJson => ["episodes.json"]
  | rssFeed => ["episodes.rss"]
  | collections => ["collections"]
  | collectionsJson => ["collections.json"]
  | collection slug => ["collections", slug]
  | episode slug => ["episodes", slug]
  | subscribe => ["subscribe"]
  | subscribeTeam => ["subscribe-team"]
  | sitemap => ["sitemap"]
  | teamMemberSignup token => ["join", token.text]
  | promoCode code => ["promo", code]
  | login _ => ["login"]
  | githubCallback _ _ => ["github-callback"]
  | staticFile segments => "static" :: segments
  | recurlyWebhook => ["webhooks", "recurly"]
  | githubWebhook => ["webhooks", "github"]

/-- The parameters of a route. -/
def params : Route → List (String × Option String)
  | login origin => [("origin", origin)]
  | githubCallback code origin => [("code", code), ("origin", origin)]
  | _ => []

/-- The path of a route. -/
def path (route : Route) : String := if route = home then "/" else Url.pathOf route.parts

/-- The names of parameters are plain. -/
theorem isPlain_of_mem_params
    {route : Route}
    {pair : String × String}
    (present : pair ∈ Url.given route.params) :
    Url.isPlain pair.1 = true := by
  have names : ∀ param ∈ route.params, Url.isPlain param.1 = true := by
    intro param inParams
    cases route with
    | login origin =>
        rw [List.mem_singleton.1 inParams]
        exact (by decide : Url.isPlain "origin" = true)
    | githubCallback code origin =>
        simp only [params, List.mem_cons, List.not_mem_nil, or_false] at inParams
        rcases inParams with rfl | rfl
        · exact (by decide : Url.isPlain "code" = true)
        · exact (by decide : Url.isPlain "origin" = true)
    | _ => cases inParams
  obtain ⟨⟨name, value⟩, inParams, same⟩ := List.mem_filterMap.1 present
  obtain ⟨text, _, rfl⟩ := Option.map_eq_some_iff.1 same
  exact names (name, value) inParams

/-- An identifier is written with nothing but unreserved characters. -/
theorem isPlain_text (token : Uuid) : Url.isPlain token.text = true := by
  have plainDigits : ∀ digit : Fin 16, (Text.hexDigit digit).toNat ≤ 127 ∧
      Url.isUnreserved (UInt8.ofNat (Text.hexDigit digit).toNat) = true := by
    decide
  rw [Url.isPlain, List.all_eq_true]
  intro char present
  rcases Uuid.mem_text present with ⟨digit, rfl⟩ | rfl
  · simpa using plainDigits digit
  · decide

/-- The URL of a route is its path with its parameters. -/
theorem url_eq (route : Route) : route.url = Url.withQuery route.path route.params := by
  have single : ∀ name : String, Url.isPlain name = true → Url.pathOf [name] = "/" ++ name := by
    intro name plain
    simp [Url.pathOf, Url.percentEncode_of_isPlain plain]
  have double : ∀ name part : String, Url.isPlain name = true →
      Url.pathOf [name, part] = "/" ++ name ++ "/" ++ Url.percentEncode part := by
    intro name part plain
    simp [Url.pathOf, Url.percentEncode_of_isPlain plain, String.append_assoc]
  cases route with
  | home => rfl
  | collection slug => exact (double "collections" slug (by decide)).symm
  | episode slug => exact (double "episodes" slug (by decide)).symm
  | promoCode code => exact (double "promo" code (by decide)).symm
  | teamMemberSignup token =>
      have written := double "join" token.text (by decide)
      rw [Url.percentEncode_of_isPlain (isPlain_text token)] at written
      exact written.symm
  | staticFile segments =>
      change _ = Url.pathOf ("static" :: segments)
      rw [Url.pathOf, List.map_cons, String.join_cons,
        Url.percentEncode_of_isPlain (by decide : Url.isPlain "static" = true)]
      rfl
  | login origin =>
      exact congrArg (Url.withQuery · _) (single "login" (by decide)).symm
  | githubCallback code origin =>
      exact congrArg (Url.withQuery · _) (single "github-callback" (by decide)).symm
  | recurlyWebhook => exact (double "webhooks" "recurly" (by decide)).symm
  | githubWebhook => exact (double "webhooks" "github" (by decide)).symm
  | episodes => exact (single "episodes" (by decide)).symm
  | episodesJson => exact (single "episodes.json" (by decide)).symm
  | rssFeed => exact (single "episodes.rss" (by decide)).symm
  | collections => exact (single "collections" (by decide)).symm
  | collectionsJson => exact (single "collections.json" (by decide)).symm
  | subscribe => exact (single "subscribe" (by decide)).symm
  | subscribeTeam => exact (single "subscribe-team" (by decide)).symm
  | sitemap => exact (single "sitemap" (by decide)).symm

/-- The segments of the path of a route are its parts, without the empty ones. -/
theorem segments_path (route : Route) : segments route.path = route.parts.filter (· ≠ "") := by
  unfold path
  split
  · next isHome =>
      rw [isHome]
      rfl
  · exact segments_pathOf route.parts

theorem not_mem_path (route : Route) : '?' ∉ route.path.toList := by
  unfold path
  split
  · decide
  · exact Url.not_mem_pathOf (by decide) (by decide) route.parts

/-- A route is requested by its method, its path and a query that is read as its parameters. -/
theorem ofRoute_eq (route : Route) :
    ∃ query : Option String,
      (query.map Url.queryParams).getD [] = Url.given route.params ∧
      RequestHead.ofRoute route = { method := route.method, path := route.path, query } := by
  obtain ⟨query, read, isCut, isWhole⟩ :=
    Url.cut_withQuery route.not_mem_path fun _ present => isPlain_of_mem_params present
  refine ⟨query, read, ?_⟩
  rw [RequestHead.ofRoute, url_eq, isCut]
  cases query with
  | none => simp [isWhole rfl]
  | some query => rfl

/-- A route without parameters is requested by its URL alone. -/
theorem ofRoute_of_params_eq_nil
    {route : Route}
    (noParams : route.params = []) :
    RequestHead.ofRoute route = { method := route.method, path := route.url, query := none } := by
  have isPath : route.url = route.path := by
    rw [url_eq, noParams]
    rfl
  rw [RequestHead.ofRoute, isPath, Text.cut_of_not_mem route.not_mem_path]

/-- What is read from the URL of a route depends on its parts and its parameters only. -/
theorem route?_ofRoute (route : Route) :
    (RequestHead.ofRoute route).route? =
      if route.method = "POST" then ofWebhook? (route.parts.filter (· ≠ ""))
      else ofPage? (route.parts.filter (· ≠ "")) (Url.given route.params) := by
  obtain ⟨query, read, same⟩ := ofRoute_eq route
  rw [same, RequestHead.route?, parse?, segments_path, read]
  cases route <;> rfl

/-! ## Routes that name something -/

/-- A route names nothing empty: its slug or its code is not empty, and a file has at least one
segment and no empty ones. -/
def NamesNothingEmpty : Route → Prop
  | collection slug => slug ≠ ""
  | episode slug => slug ≠ ""
  | promoCode code => code ≠ ""
  | staticFile segments => segments ≠ [] ∧ "" ∉ segments
  | _ => True

theorem lookup_given_origin (origin : Option String) :
    (Url.given [("origin", origin)]).lookup "origin" = origin := by
  cases origin <;> rfl

theorem lookup_given_callback (code origin : Option String) :
    (Url.given [("code", code), ("origin", origin)]).lookup "code" = code ∧
      (Url.given [("code", code), ("origin", origin)]).lookup "origin" = origin := by
  cases code <;> cases origin <;> exact ⟨rfl, rfl⟩

/-- A route that names nothing empty keeps all its parts. -/
theorem filter_parts
    {route : Route}
    (named : route.NamesNothingEmpty) :
    route.parts.filter (· ≠ "") = route.parts := by
  have noneEmpty : "" ∉ route.parts := by
    intro present
    cases route with
    | collection slug => exact named (by simpa [parts] using present)
    | episode slug => exact named (by simpa [parts] using present)
    | promoCode code => exact named (by simpa [parts] using present)
    | teamMemberSignup token => exact Uuid.text_ne_empty token (by simpa [parts] using present)
    | staticFile segments => exact named.2 (by simpa [parts] using present)
    | _ => simp [parts] at present
  rw [List.filter_eq_self]
  intro part present
  exact decide_eq_true fun isEmpty => noneEmpty (isEmpty ▸ present)

/-- A route that names nothing empty is read back from its own URL. -/
theorem route?_ofRoute_of_namesNothingEmpty
    {route : Route}
    (named : route.NamesNothingEmpty) :
    (RequestHead.ofRoute route).route? = some route := by
  rw [route?_ofRoute, filter_parts named]
  cases route with
  | teamMemberSignup token => exact congrArg (Option.map teamMemberSignup) (Uuid.parse?_text token)
  | login origin => exact congrArg (some ∘ login) (lookup_given_origin origin)
  | githubCallback code origin =>
      obtain ⟨codeFound, originFound⟩ := lookup_given_callback code origin
      change some (githubCallback (List.lookup "code" (Url.given [("code", code), ("origin", origin)]))
        (List.lookup "origin" (Url.given [("code", code), ("origin", origin)]))) = _
      rw [codeFound, originFound]
  | staticFile segments =>
      obtain ⟨first, rest, rfl⟩ := List.exists_cons_of_ne_nil named.1
      rfl
  | _ => rfl

theorem empty_not_mem_segments (path : String) : "" ∉ segments path := by
  intro present
  obtain ⟨piece, inPieces, isEmpty⟩ := List.mem_map.1 present
  have nonempty : piece ≠ "" := by simpa using (List.mem_filter.1 inPieces).2
  exact Url.percentDecode_ne_empty nonempty isEmpty

/-- The route of a page names nothing empty if no segment is empty. -/
theorem namesNothingEmpty_of_ofPage?
    {segments : List String}
    {params : List (String × String)}
    {route : Route}
    (noneEmpty : "" ∉ segments)
    (read : ofPage? segments params = some route) :
    route.NamesNothingEmpty := by
  unfold ofPage? at read
  split at read
  case h_5 slug =>
    obtain rfl := Option.some.inj read
    exact fun isEmpty => noneEmpty (by simp [isEmpty])
  case h_8 slug =>
    obtain rfl := Option.some.inj read
    exact fun isEmpty => noneEmpty (by simp [isEmpty])
  case h_12 token =>
    obtain ⟨id, _, rfl⟩ := Option.map_eq_some_iff.1 read
    trivial
  case h_13 code =>
    obtain rfl := Option.some.inj read
    exact fun isEmpty => noneEmpty (by simp [isEmpty])
  case h_16 first rest =>
    obtain rfl := Option.some.inj read
    exact ⟨List.cons_ne_nil first rest, fun present => noneEmpty (List.mem_cons_of_mem _ present)⟩
  case h_17 => cases read
  all_goals
    obtain rfl := Option.some.inj read
    trivial

/-- The route of a webhook names nothing. -/
theorem namesNothingEmpty_of_ofWebhook?
    {segments : List String}
    {route : Route}
    (read : ofWebhook? segments = some route) :
    route.NamesNothingEmpty := by
  unfold ofWebhook? at read
  split at read
  · obtain rfl := Option.some.inj read
    trivial
  · obtain rfl := Option.some.inj read
    trivial
  · cases read

/-- Whatever is read from a request names nothing empty. -/
theorem namesNothingEmpty_of_parse?
    {method path : String}
    {query : Option String}
    {route : Route}
    (read : parse? method path query = some route) :
    route.NamesNothingEmpty := by
  unfold parse? at read
  split at read
  · exact namesNothingEmpty_of_ofWebhook? read
  · split at read
    · exact namesNothingEmpty_of_ofPage? (empty_not_mem_segments path) read
    · cases read

theorem namesNothingEmpty_of_route?
    {head : RequestHead}
    {route : Route}
    (read : head.route? = some route) :
    route.NamesNothingEmpty :=
  namesNothingEmpty_of_parse? read

/-- A route is read back from its own URL exactly if it names nothing empty; and whatever is read
from a request, however malformed, names nothing empty and so is read back from its own URL. -/
theorem route?_ofRoute_eq_some_iff_and_of_parse? :
    (∀ route : Route,
      (RequestHead.ofRoute route).route? = some route ↔ route.NamesNothingEmpty) ∧
    ∀ (method path : String) (query : Option String) (route : Route),
      parse? method path query = some route →
        route.NamesNothingEmpty ∧ (RequestHead.ofRoute route).route? = some route := by
  refine ⟨fun route => ⟨namesNothingEmpty_of_route?, route?_ofRoute_of_namesNothingEmpty⟩, ?_⟩
  intro method path query route read
  have named := namesNothingEmpty_of_parse? read
  exact ⟨named, route?_ofRoute_of_namesNothingEmpty named⟩

/-- A path with a doubled slash and a malformed escape names a promotion, which is read back from
its own URL. -/
theorem route?_ofRoute_promoCode_of_malformed :
    parse? "GET" "//promo/a%2Fb%/" none = some (promoCode "a/b%") ∧
      (RequestHead.ofRoute (promoCode "a/b%")).route? = some (promoCode "a/b%") := by
  have read : parse? "GET" "//promo/a%2Fb%/" none = some (promoCode "a/b%") := by
    decide +kernel
  obtain ⟨_, readBack⟩ := route?_ofRoute_eq_some_iff_and_of_parse?.2 _ _ _ _ read
  exact ⟨read, readBack⟩

end Route

theorem Site.dispatch_ofRoute
    (site : Site)
    {route : Route}
    (named : route.NamesNothingEmpty) :
    site.dispatch (RequestHead.ofRoute route) = site.chain route := by
  rw [dispatch, Route.route?_ofRoute_of_namesNothingEmpty named]

end Screencast
