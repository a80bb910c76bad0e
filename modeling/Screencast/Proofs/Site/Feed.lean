import Screencast.Proofs.Html.Strips
import Screencast.Proofs.Site.Destination
import Screencast.Proofs.Timestamp
import Screencast.Site.Feed

/-!
# Reading the feed and the map of all public pages

The feed is cut at its tags. Whatever the titles, the synopses and the slugs of the episodes are, it
has one item for each of them in their order, and each item tells the title, the address and the
synopsis as they are. The map has a line for each page.
-/

namespace Screencast

namespace Html

@[simp] theorem escape_append (first second : String) :
    escape (first ++ second) = escape first ++ escape second := by
  simp [escape]

/-- There is nothing to escape in digits. -/
theorem escape_padded (width number : Nat) :
    escape (Text.padded width number) = Text.padded width number := by
  have plain : ∀ char ∈ (Text.padded width number).toList, escapedChar char = [char] := by
    intro char present
    have isDigit := Text.isDigit_of_mem_padded present
    have noDigit : ['&', '<', '>', '"', '\''].all (fun other => !other.isDigit) = true := by decide
    have different : ∀ other ∈ ['&', '<', '>', '"', '\''], char ≠ other := by
      rintro other isOther rfl
      simpa [isDigit] using List.all_eq_true.1 noDigit char isOther
    simp [escapedChar, different]
  have unchanged : (Text.padded width number).toList.flatMap escapedChar =
      (Text.padded width number).toList.flatMap fun char => [char] := by
    rw [List.flatMap_def, List.flatMap_def, List.map_congr_left plain]
  rw [escape, unchanged]
  simp

/-- There is nothing to escape in a name, if there is nothing to escape in any of the names. -/
theorem escape_getD
    {names : List String}
    (plain : ∀ name ∈ names, escape name = name)
    (index : Nat) :
    escape (names.getD index "") = names.getD index "" := by
  rw [List.getD_eq_getElem?_getD]
  cases found : names[index]? with
  | none => rfl
  | some name => exact plain name (List.mem_of_getElem? found)

end Html

namespace Timestamp

/-- There is nothing to escape in an offset. -/
theorem escape_offsetText (offsetMinutes : Int) :
    Html.escape (offsetText "" offsetMinutes) = offsetText "" offsetMinutes := by
  have sign : Html.escape (if offsetMinutes < 0 then "-" else "+") =
      if offsetMinutes < 0 then "-" else "+" := by
    split <;> decide +kernel
  have nothing : Html.escape "" = "" := rfl
  simp only [offsetText, Html.escape_append, Html.escape_padded, sign, nothing]

/-- There is nothing to escape in a date. -/
theorem escape_rfc2822?
    {time : Timestamp}
    {date : String}
    (isDate : time.rfc2822? = some date) :
    Html.escape date = date := by
  unfold rfc2822? at isDate
  split at isDate
  · obtain rfl := Option.some.inj isDate
    have weekday : Html.escape (weekdayName time.weekday) = weekdayName time.weekday :=
      Html.escape_getD (by decide +kernel) _
    have month : Html.escape (monthName time.month) = monthName time.month :=
      Html.escape_getD (by decide +kernel) _
    have comma : Html.escape ", " = ", " := by decide +kernel
    have space : Html.escape " " = " " := by decide +kernel
    have colon : Html.escape ":" = ":" := by decide +kernel
    simp only [Html.escape_append, weekday, month, comma, space, colon, Html.escape_padded,
      escape_offsetText]
  · cases isDate

end Timestamp

namespace Feed

open Html

/-! ## What is written -/

/-- The tags around the text of an element. -/
def elementStrips (name text : String) : List (Tag × String) :=
  [(Tag.opening name [], text), (Tag.closing name, "")]

/-- The date of an episode in the feed. -/
def date? (episode : Episode) : Option String := episode.releasedAt.bind Timestamp.rfc2822?

/-- The elements of an item: the title, the address twice, the synopsis, and the date. -/
def entry (baseUrl : String) (episode : Episode) : List (String × String) :=
  let address := Route.absolute baseUrl (Route.episode episode.slug)
  [("title", episode.title), ("link", address), ("guid", address),
    ("description", episode.synopsis)] ++ (date? episode).toList.map fun date => ("pubDate", date)

/-- The elements of the channel in front of its items. -/
def heading (baseUrl : String) : List (String × String) :=
  [("title", siteName), ("link", Route.absolute baseUrl Route.home),
    ("description", "New episodes of " ++ siteName)]

/-- The tags and texts of an item. -/
def itemStrips (baseUrl : String) (episode : Episode) : List (Tag × String) :=
  (Tag.opening "item" [], "") ::
    ((entry baseUrl episode).flatMap (fun (name, text) => elementStrips name text) ++
      [(Tag.closing "item", "")])

/-- The tags and texts of a feed. -/
def feedStrips (baseUrl : String) (episodes : List Episode) : List (Tag × String) :=
  (Tag.opening "rss" [("version", "2.0")], "") :: (Tag.opening "channel" [], "") ::
    ((heading baseUrl).flatMap (fun (name, text) => elementStrips name text) ++
      (episodes.flatMap (itemStrips baseUrl) ++
        [(Tag.closing "channel", ""), (Tag.closing "rss", "")]))

/-- An element without attributes and with nothing but a text in it. -/
def element (name text : String) : String :=
  "<" ++ name ++ ">" ++ escape text ++ "</" ++ name ++ ">"

theorem toList_element (name text : String) :
    (element name text).toList = (Layout.ofStrips (elementStrips name text)).written := by
  simp [element, elementStrips, Tag.chars, Tag.openingChars, Node.renderAttributes, escape]

/-- An item is written from its elements. -/
theorem item_eq (baseUrl : String) (episode : Episode) :
    item baseUrl episode =
      "<item>" ++ String.join ((entry baseUrl episode).map fun (name, text) => element name text) ++
        "</item>" := by
  have title : "<item><title>" = "<item>" ++ "<" ++ "title" ++ ">" := by decide
  have link : "</title><link>" = "</" ++ "title" ++ ">" ++ "<" ++ "link" ++ ">" := by decide
  have guid : "</link><guid>" = "</" ++ "link" ++ ">" ++ "<" ++ "guid" ++ ">" := by decide
  have description : "</guid><description>" =
      "</" ++ "guid" ++ ">" ++ "<" ++ "description" ++ ">" := by decide
  have rest : "</description>" = "</" ++ "description" ++ ">" := by decide
  unfold item
  cases isDated : date? episode with
  | none =>
      have undated : episode.releasedAt.bind Timestamp.rfc2822? = none := isDated
      simp only [undated, entry, isDated, title, link, guid, description, rest, element,
        Option.toList_none, List.map_nil, List.append_nil, List.map_cons, String.join_cons,
        String.join_nil, String.append_assoc, String.append_empty, -String.reduceAppend]
  | some date =>
      have dated : episode.releasedAt.bind Timestamp.rfc2822? = some date := isDated
      have opening : "<pubDate>" = "<" ++ "pubDate" ++ ">" := by decide
      have closing : "</pubDate>" = "</" ++ "pubDate" ++ ">" := by decide
      obtain ⟨time, _, isDate⟩ := Option.bind_eq_some_iff.1 dated
      have plain := Timestamp.escape_rfc2822? isDate
      simp only [dated, entry, isDated, title, link, guid, description, rest, element,
        opening, closing, plain, Option.toList_some, List.map_nil, List.map_cons, String.join_cons,
        List.cons_append, List.nil_append, String.join_nil, String.append_assoc,
        String.append_empty, -String.reduceAppend]

/-- Elements one after another are written from their tags and texts. -/
theorem toList_join_elements (fields : List (String × String)) :
    (String.join (fields.map fun (name, text) => element name text)).toList =
      (Layout.ofStrips (fields.flatMap fun (name, text) => elementStrips name text)).written := by
  induction fields with
  | nil => rfl
  | cons field rest inductionHypothesis =>
      rw [List.map_cons, String.join_cons, String.toList_append, toList_element,
        inductionHypothesis, List.flatMap_cons, Layout.written_ofStrips_append]

theorem toList_item (baseUrl : String) (episode : Episode) :
    (item baseUrl episode).toList = (Layout.ofStrips (itemStrips baseUrl episode)).written := by
  rw [item_eq, String.toList_append, String.toList_append, toList_join_elements, itemStrips]
  simp [Tag.chars, Tag.openingChars, Node.renderAttributes, escape]

/-- Items one after another are written from their tags and texts. -/
theorem toList_join_items (baseUrl : String) (episodes : List Episode) :
    (String.join (episodes.map (item baseUrl))).toList =
      (Layout.ofStrips (episodes.flatMap (itemStrips baseUrl))).written := by
  induction episodes with
  | nil => rfl
  | cons episode rest inductionHypothesis =>
      rw [List.map_cons, String.join_cons, String.toList_append, toList_item, inductionHypothesis,
        List.flatMap_cons, Layout.written_ofStrips_append]

/-- The declaration of a feed, up to its right angle bracket. -/
def declaration : String := "<?xml version=\"1.0\" encoding=\"UTF-8\"?"

/-- A feed is written from the elements of its heading and from its items. -/
theorem rss_eq (catalog : Catalog) (baseUrl : String) (now : Timestamp) :
    rss catalog baseUrl now =
      declaration ++ ">" ++ "<rss version=\"2.0\"><channel>" ++
        String.join ((heading baseUrl).map fun (name, text) => element name text) ++
        String.join ((catalog.visibleEpisodes none now).map (item baseUrl)) ++
        "</channel></rss>" := by
  have opening : "<?xml version=\"1.0\" encoding=\"UTF-8\"?><rss version=\"2.0\"><channel><title>" =
      declaration ++ ">" ++ "<rss version=\"2.0\"><channel>" ++ "<" ++ "title" ++ ">" := by decide
  have link : "</title><link>" = "</" ++ "title" ++ ">" ++ "<" ++ "link" ++ ">" := by decide
  have description : "</link><description>New episodes of " =
      "</" ++ "link" ++ ">" ++ "<" ++ "description" ++ ">" ++ "New episodes of " := by decide
  have plain : escape "New episodes of " = "New episodes of " := by decide +kernel
  have closing : "</description>" = "</" ++ "description" ++ ">" := by decide
  unfold rss
  simp only [opening, link, description, closing, heading, element, escape_append, plain,
    List.map_cons, List.map_nil, String.join_cons, String.join_nil, String.append_assoc,
    String.append_empty, -String.reduceAppend]

/-- A feed is written from its tags and texts, behind its declaration. -/
theorem toList_rss (catalog : Catalog) (baseUrl : String) (now : Timestamp) :
    (rss catalog baseUrl now).toList = declaration.toList ++ '>' ::
      (Layout.ofStrips (feedStrips baseUrl (catalog.visibleEpisodes none now))).written := by
  have headingWritten := toList_join_elements (heading baseUrl)
  have itemsWritten := toList_join_items baseUrl (catalog.visibleEpisodes none now)
  have version : (Tag.opening "rss" [("version", "2.0")]).chars = "rss version=\"2.0\"".toList := by
    decide +kernel
  rw [rss_eq, feedStrips, Layout.written_ofStrips_cons, version]
  simp [headingWritten, itemsWritten, Tag.chars, Tag.openingChars, Node.renderAttributes, escape]

/-! ## What is read -/

/-- The elements that tags open, each with the text at its beginning. -/
def elements (strips : List (Tag × String)) : List (String × String) :=
  strips.filterMap fun (tag, text) =>
    match tag with
    | Tag.opening name _ => some (name, text)
    | Tag.closing _ => none

/-- The elements of each item. -/
def items : List (Tag × String) → List (List (String × String))
  | [] => []
  | (tag, _) :: rest =>
    if tag = Tag.opening "item" [] then
      elements (rest.takeWhile fun (tag, _) => tag ≠ Tag.closing "item") :: items rest
    else items rest

/-- What a feed tells: the elements in front of its items, and the elements of each item. -/
structure Contents where
  heading : List (String × String)
  items : List (List (String × String))
  deriving DecidableEq

/-- What is read from a feed that is cut at its tags. -/
def read? (feed : String) : Option Contents :=
  (strips? feed).map fun strips =>
    { heading := elements (strips.takeWhile fun (tag, _) => tag ≠ Tag.opening "item" [])
      items := items strips }

/-- The items behind tags that open none are those of the rest. -/
theorem items_append
    {strips : List (Tag × String)}
    (noItem : ∀ strip ∈ strips, strip.1 ≠ Tag.opening "item" [])
    (rest : List (Tag × String)) :
    items (strips ++ rest) = items rest := by
  induction strips with
  | nil => rfl
  | cons strip others inductionHypothesis =>
      obtain ⟨notItem, noOther⟩ := List.forall_mem_cons.1 noItem
      rw [List.cons_append, items, if_neg notItem, inductionHypothesis noOther]

/-- The elements that are written around texts are these elements. -/
theorem elements_flatMap (fields : List (String × String)) :
    elements (fields.flatMap fun (name, text) => elementStrips name text) = fields := by
  induction fields with
  | nil => rfl
  | cons field rest inductionHypothesis =>
      rw [elements, List.flatMap_cons, List.filterMap_append]
      exact congrArg (field :: ·) inductionHypothesis

/-- What the elements of the heading and of the items are called. -/
def fieldNames : List String := ["title", "link", "guid", "description", "pubDate"]

theorem mem_fieldNames_of_mem_entry (baseUrl : String) (episode : Episode) :
    ∀ field ∈ entry baseUrl episode, field.1 ∈ fieldNames := by
  intro field present
  simp only [entry, List.mem_append, List.mem_cons, List.not_mem_nil, or_false, List.mem_map]
    at present
  rcases present with (rfl | rfl | rfl | rfl) | ⟨date, _, rfl⟩ <;> simp [fieldNames]

theorem mem_fieldNames_of_mem_heading (baseUrl : String) :
    ∀ field ∈ heading baseUrl, field.1 ∈ fieldNames := by
  simp [heading, fieldNames]

/-- The tags of elements that are called by these names neither open nor close an item. -/
theorem isNamed_and_ne_item
    {fields : List (String × String)}
    (known : ∀ field ∈ fields, field.1 ∈ fieldNames) :
    ∀ strip ∈ fields.flatMap fun (name, text) => elementStrips name text,
      strip.1.IsNamed ∧ strip.1 ≠ Tag.opening "item" [] ∧ strip.1 ≠ Tag.closing "item" := by
  have plain : ∀ name ∈ fieldNames, IsName name ∧ name ≠ "item" := by decide +kernel
  intro strip present
  obtain ⟨field, isField, inField⟩ := List.mem_flatMap.1 present
  obtain ⟨isName, notItem⟩ := plain field.1 (known field isField)
  simp only [elementStrips, List.mem_cons, List.not_mem_nil, or_false] at inField
  rcases inField with rfl | rfl
  · exact ⟨⟨isName, List.forall_mem_nil _⟩, by simpa using notItem, by simp⟩
  · exact ⟨isName, by simp, by simpa using notItem⟩

/-- An item in front of others is the first of the items. -/
theorem items_itemStrips_append
    (baseUrl : String)
    (episode : Episode)
    (rest : List (Tag × String)) :
    items (itemStrips baseUrl episode ++ rest) = entry baseUrl episode :: items rest := by
  have spec := isNamed_and_ne_item (mem_fieldNames_of_mem_entry baseUrl episode)
  have inside : ∀ strip ∈ (entry baseUrl episode).flatMap
      (fun (name, text) => elementStrips name text),
      decide (strip.1 ≠ Tag.closing "item") = true :=
    fun strip present => decide_eq_true (spec strip present).2.2
  rw [itemStrips, List.cons_append, items, if_pos rfl, List.append_assoc,
    List.takeWhile_append_of_pos inside, items_append fun strip present => (spec strip present).2.1]
  simp [items, elements_flatMap]

/-- The items of a feed are the episodes. -/
theorem items_feedStrips (baseUrl : String) (episodes : List Episode) :
    items (feedStrips baseUrl episodes) = episodes.map (entry baseUrl) := by
  have spec := isNamed_and_ne_item (mem_fieldNames_of_mem_heading baseUrl)
  have ending : items [(Tag.closing "channel", ""), (Tag.closing "rss", "")] = [] := by
    simp [items]
  have listed : items (episodes.flatMap (itemStrips baseUrl) ++
      [(Tag.closing "channel", ""), (Tag.closing "rss", "")]) = episodes.map (entry baseUrl) := by
    induction episodes with
    | nil => exact ending
    | cons episode rest inductionHypothesis =>
        rw [List.flatMap_cons, List.append_assoc, items_itemStrips_append, inductionHypothesis,
          List.map_cons]
  rw [feedStrips, items, if_neg (by simp), items, if_neg (by simp),
    items_append fun strip present => (spec strip present).2.1, listed]

/-- The elements in front of the items of a feed are those of its heading. -/
theorem elements_takeWhile_feedStrips (baseUrl : String) (episodes : List Episode) :
    elements ((feedStrips baseUrl episodes).takeWhile fun (tag, _) =>
        tag ≠ Tag.opening "item" []) =
      ("rss", "") :: ("channel", "") :: heading baseUrl := by
  have spec := isNamed_and_ne_item (mem_fieldNames_of_mem_heading baseUrl)
  have inside : ∀ strip ∈ (heading baseUrl).flatMap
      (fun (name, text) => elementStrips name text),
      decide (strip.1 ≠ Tag.opening "item" []) = true :=
    fun strip present => decide_eq_true (spec strip present).2.1
  have ending : elements ((episodes.flatMap (itemStrips baseUrl) ++
      [(Tag.closing "channel", ""), (Tag.closing "rss", "")]).takeWhile fun (tag, _) =>
        tag ≠ Tag.opening "item" []) = [] := by
    cases episodes <;> simp [elements, itemStrips]
  have inHeading := elements_flatMap (heading baseUrl)
  rw [elements] at ending inHeading ⊢
  rw [feedStrips, List.takeWhile_cons_of_pos (by simp), List.takeWhile_cons_of_pos (by simp),
    List.takeWhile_append_of_pos inside, List.filterMap_cons, List.filterMap_cons,
    List.filterMap_append, inHeading, ending, List.append_nil]

/-- The tags of a feed are called by names. -/
theorem isNamed_of_mem_feedStrips (baseUrl : String) (episodes : List Episode) :
    ∀ strip ∈ feedStrips baseUrl episodes, strip.1.IsNamed := by
  have names : ∀ name ∈ ["rss", "version", "channel", "item"], IsName name := by decide +kernel
  have inHeading := isNamed_and_ne_item (mem_fieldNames_of_mem_heading baseUrl)
  have inItem : ∀ episode, ∀ strip ∈ itemStrips baseUrl episode, strip.1.IsNamed := by
    intro episode
    have inEntry := isNamed_and_ne_item (mem_fieldNames_of_mem_entry baseUrl episode)
    refine List.forall_mem_cons.2 ⟨⟨names _ (by decide), List.forall_mem_nil _⟩, ?_⟩
    refine List.forall_mem_append.2 ⟨fun strip present => (inEntry strip present).1, ?_⟩
    exact List.forall_mem_singleton.2 (names "item" (by decide))
  refine List.forall_mem_cons.2 ⟨⟨names _ (by decide), ?version⟩,
    List.forall_mem_cons.2 ⟨⟨names _ (by decide), List.forall_mem_nil _⟩, ?_⟩⟩
  case version => exact List.forall_mem_singleton.2 (names "version" (by decide))
  refine List.forall_mem_append.2 ⟨fun strip present => (inHeading strip present).1,
    List.forall_mem_append.2 ⟨List.forall_mem_flatMap.2 fun episode _ => inItem episode, ?_⟩⟩
  exact List.forall_mem_cons.2
    ⟨names "channel" (by decide), List.forall_mem_singleton.2 (names "rss" (by decide))⟩

/-- A feed tells the title, the address and the synopsis of each episode that everybody may see. -/
theorem read?_rss (catalog : Catalog) (baseUrl : String) (now : Timestamp) :
    read? (rss catalog baseUrl now) =
      some
        { heading := ("rss", "") :: ("channel", "") :: heading baseUrl
          items := (catalog.visibleEpisodes none now).map (entry baseUrl) } := by
  have isRead := strips?_of_written (toList_rss catalog baseUrl now) (by decide +kernel)
    (isNamed_of_mem_feedStrips baseUrl (catalog.visibleEpisodes none now))
  rw [read?, isRead, Option.map_some, elements_takeWhile_feedStrips, items_feedStrips]

/-! ## The map of all public pages -/

/-- What is trimmed from a text was in it. -/
theorem mem_of_mem_trimTrailing
    {unwanted char : Char}
    {text : String}
    (present : char ∈ (Text.trimTrailing unwanted text).toList) :
    char ∈ text.toList := by
  obtain ⟨count, whole⟩ := Text.exists_toList_eq_trimTrailing_append unwanted text
  rw [whole]
  exact List.mem_append_left _ present

/-- The pages in the map are pages on which visitors can sign in. -/
theorem offersSignIn_of_mem_publicRoutes
    {catalog : Catalog}
    {now : Timestamp} :
    ∀ route ∈ publicRoutes catalog now, route.OffersSignIn := by
  refine List.forall_mem_append.2
    ⟨List.forall_mem_append.2 ⟨?fixed, ?collections⟩, ?episodes⟩
  case fixed => simp [Route.OffersSignIn]
  case collections => exact List.forall_mem_map.2 fun _ _ => trivial
  case episodes => exact List.forall_mem_map.2 fun _ _ => trivial

theorem url_eq_path
    {route : Route}
    (offers : route.OffersSignIn) :
    route.url = route.path := by
  rw [Route.url_eq, (Route.of_offersSignIn offers).2.1]
  rfl

/-- There is no line break in the address of a page, if there is none in that of the site. -/
theorem not_mem_absolute
    {baseUrl : String}
    {route : Route}
    (unbroken : '\n' ∉ baseUrl.toList)
    (offers : route.OffersSignIn) :
    '\n' ∉ (Route.absolute baseUrl route).toList := by
  have notInPath : '\n' ∉ route.path.toList := by
    unfold Route.path
    split
    · decide
    · exact Url.not_mem_pathOf (by decide) (by decide) route.parts
  rw [Route.absolute, String.toList_append, List.mem_append, url_eq_path offers]
  rintro (inBase | inPath)
  · exact unbroken (mem_of_mem_trimTrailing inBase)
  · exact notInPath inPath

/-- The lines of the map are the addresses of all public pages, and the last line ends. -/
theorem split_sitemap
    {baseUrl : String}
    (catalog : Catalog)
    (now : Timestamp)
    (unbroken : '\n' ∉ baseUrl.toList) :
    Text.split '\n' (sitemap catalog baseUrl now) =
      (publicRoutes catalog now).map (Route.absolute baseUrl) ++ [""] := by
  have plain : ∀ address ∈ (publicRoutes catalog now).map (Route.absolute baseUrl),
      '\n' ∉ address.toList :=
    List.forall_mem_map.2 fun route isPublic =>
      not_mem_absolute unbroken (offersSignIn_of_mem_publicRoutes route isPublic)
  have found := Text.split_join_terminated plain
  rw [List.map_map] at found
  exact found

end Feed

end Screencast
