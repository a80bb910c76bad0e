import Screencast.Proofs.Effect.OnTables
import Screencast.Proofs.Site.Route
import Screencast.Proofs.Site.Views
import Screencast.Proofs.Store.Ordering

/-!
# Whose progress a visitor sees

What the site answers to a visitor depends on no play progress but the visitor's own, whatever stands
in the rows of others. The pages show the progress in an episode that the first row of the visitor
for its number tells.
-/

namespace Screencast

/-! ## The rows of a user -/

namespace PlayProgress

/-- The rows of play progress that are a user's own, in the order of their table. Whoever is not
signed in has none. -/
def ownRows (userId : Option Uuid) (pool : Pool) : List Row :=
  match userId with
  | none => []
  | some userId =>
    (pool.rows (Record.table PlayProgress)).filter (Pool.meets [("user_id", Row.ofUuid userId)])

/-- A row is a user's own if the identifier of the user stands in it, as it is written usually. -/
theorem mem_ownRows_iff
    {userId : Uuid}
    {pool : Pool}
    {row : Row} :
    row ∈ ownRows (some userId) pool ↔
      row ∈ pool.rows "play_progress" ∧ row.find? "user_id" = some (Json.string userId.text) := by
  rw [← Pool.meets_string_iff]
  exact List.mem_filter

/-- The number of an episode stands in the row from which it was read. -/
theorem find?_of_decode
    {row : Row}
    {entry : Stored PlayProgress}
    (isRead : Stored.decode row = Except.ok entry) :
    row.find? "episode_number" = some (Json.integer entry.data.episodeNumber) := by
  obtain ⟨id, _, rest⟩ := bind_eq_ok_iff.1 isRead
  obtain ⟨data, decoded, isEntry⟩ := bind_eq_ok_iff.1 rest
  obtain ⟨_, _, read⟩ := bind_eq_ok_iff.1 decoded
  obtain ⟨userId, _, afterUser⟩ := bind_eq_ok_iff.1 read
  obtain ⟨episodeNumber, numberRead, afterNumber⟩ := bind_eq_ok_iff.1 afterUser
  obtain ⟨progress, _, afterProgress⟩ := bind_eq_ok_iff.1 afterNumber
  obtain ⟨furthestWatched, _, isData⟩ := bind_eq_ok_iff.1 afterProgress
  obtain rfl := Except.ok.inj isEntry
  obtain rfl := Except.ok.inj isData
  obtain ⟨found, isFound, wordRead⟩ := Row.required_eq_ok_iff.1 numberRead
  rw [KeyMap.find?_erase, if_neg (by decide)] at isFound
  rw [isFound, ColumnType.eq_integer_of_word wordRead]

/-- Two pools have the same tables but for play progress, and there the same rows of a user. -/
structure SharesProgress (userId : Option Uuid) (left right : Pool) : Prop where
  others : ∀ table, table ≠ "play_progress" → left.rows table = right.rows table
  own : ownRows userId left = ownRows userId right

theorem SharesProgress.of_rows
    {userId : Option Uuid}
    {left right leftAfter rightAfter : Pool}
    (shares : SharesProgress userId left right)
    (sameLeft : ∀ table, leftAfter.rows table = left.rows table)
    (sameRight : ∀ table, rightAfter.rows table = right.rows table) :
    SharesProgress userId leftAfter rightAfter where
  others table isOther := by rw [sameLeft, sameRight, shares.others table isOther]
  own := by
    have own := shares.own
    unfold ownRows at own ⊢
    rw [sameLeft, sameRight]
    exact own

/-- A statement on another table answers the same on such pools, and keeps them so. -/
theorem SharesProgress.apply
    {userId : Option Uuid}
    {left right : Pool}
    {statement : Statement}
    (shares : SharesProgress userId left right)
    (isOther : statement.table ≠ "play_progress") :
    (left.apply statement).1 = (right.apply statement).1 ∧
      SharesProgress userId (left.apply statement).2 (right.apply statement).2 := by
  refine ⟨Pool.fst_apply_congr (shares.others _ isOther), ?_, ?_⟩
  · exact fun table isThisOther => Pool.rows_apply_congr (shares.others table isThisOther) statement
  · have spared (pool : Pool) : (pool.apply statement).2.rows (Record.table PlayProgress) =
        pool.rows (Record.table PlayProgress) :=
      Pool.rows_apply_of_not_writesTo (Statement.writesTo_of_table_ne isOther) pool
    have own := shares.own
    unfold ownRows at own ⊢
    rw [spared left, spared right]
    exact own

end PlayProgress

namespace WatchedEpisode

/-- The order in which the site asks for entries. -/
def newestFirst : Order := { column := "episode_number", descending := true }

/-- If the rows of a user can be read, the site is told entries among which the first one for an
episode is that of the first row for it. -/
theorem exists_ask_entriesOf
    {userId : Uuid}
    {pool : Pool}
    {entries : List (Stored PlayProgress)}
    (areRead : Stored.decodeAll (PlayProgress.ownRows (some userId) pool) = Except.ok entries) :
    ∃ told, pool.ask (entriesOf userId) = Except.ok told ∧ ofEntries told = ofEntries entries := by
  obtain ⟨told, toldRead, sameFirst⟩ := Stored.exists_decodeAll_sortRows areRead newestFirst
  refine ⟨told, toldRead, funext fun episode => ?_⟩
  rw [ofEntries, ofEntries, progressIn, progressIn, sameFirst]
  intro left right first second firstRead secondRead isFirst isSecond
  have sameNumber : left.find? newestFirst.column = right.find? newestFirst.column := by
    have leftFound := PlayProgress.find?_of_decode firstRead
    have rightFound := PlayProgress.find?_of_decode secondRead
    rw [of_decide_eq_true isFirst] at leftFound
    rw [of_decide_eq_true isSecond] at rightFound
    exact leftFound.trans rightFound.symm
  rw [Pool.compareRows_of_find?_eq sameNumber]
  exact nofun

end WatchedEpisode

namespace Site

open PlayProgress WatchedEpisode

/-! ## What a page shows of it -/

/-- The view of a route that shows progress, from the catalog and the entries of a visitor: the
episodes are those that are picked from the catalog, in the order in which they are picked. -/
def watchedView? (site : Site) (catalog : Catalog) (session : Option Session)
    (entries : List (Stored PlayProgress)) : Route → Option View
  | Route.home =>
    some (View.home (((catalog.visibleEpisodes (visitor session) site.now).take recentEpisodes).map
      (ofEntries entries)))
  | Route.episodes =>
    some (View.episodes ((catalog.visibleEpisodes (visitor session) site.now).map
      (ofEntries entries)))
  | Route.collection slug =>
    (catalog.collection? slug).map fun shown =>
      View.collection shown
        ((catalog.collectionEpisodes shown (visitor session) site.now).map (ofEntries entries))
  | Route.episode slug =>
    ((catalog.episode? slug).filter (site.isOpen session)).map fun shown =>
      View.episode shown (progressIn entries shown)
  | _ => none

variable {stub : Type} {site : Site} {session : Option Session} {body : Bytes}
  {answer : TaskDescription → stub → Except TaskError Answer × stub} {look : stub → World}
  {entries : List (Stored PlayProgress)} {recording : Recording (Pool × stub)}
  {terminal : Terminal}

/-- A query goes on with what it yields on the tables. -/
theorem terminal_capture_query
    {result : Type}
    (owed : List Cleanup)
    (issued : Query result)
    (next : Except QueryError result → Chain World) :
    ((Chain.query owed issued next).capture (StandIn.onTables session body answer look)
        recording).1.terminal =
      ((next (recording.state.1.ask issued)).capture (StandIn.onTables session body answer look)
        (recording.query (StandIn.onTables session body answer look) issued.statement).2
        ).1.terminal := rfl

/-- A visitor whose own rows can be read goes on with the progress that they tell. -/
theorem terminal_capture_withProgress
    {next : List WatchedEpisode → Chain World}
    (areRead : Stored.decodeAll (ownRows (session.map Session.userId) recording.state.1) =
      Except.ok entries)
    (episodes : List Episode)
    (follow : ∀ recording, ((next (episodes.map (ofEntries entries))).capture
      (StandIn.onTables session body answer look) recording).1.terminal = terminal) :
    (((withProgress episodes (session.map Session.userId)).finish next).capture
      (StandIn.onTables session body answer look) recording).1.terminal = terminal := by
  cases session with
  | none =>
      obtain rfl : [] = entries := Except.ok.inj areRead
      exact follow recording
  | some session =>
      obtain ⟨told, isTold, same⟩ := exists_ask_entriesOf areRead
      refine (terminal_capture_query _ _ _).trans ?_
      rw [isTold]
      dsimp only
      rw [same]
      exact follow _

/-- A visitor whose own rows can be read is shown the view of a route with the progress that they
tell. -/
theorem terminal_capture_chain_of_watchedView?
    {route : Route}
    {view : View}
    (areRead : Stored.decodeAll (ownRows (session.map Session.userId) recording.state.1) =
      Except.ok entries)
    (isView : site.watchedView? (look recording.state.2).catalog session entries route = some view) :
    ((site.chain route).capture (StandIn.onTables session body answer look) recording).1.terminal =
      Terminal.html (view.page site session) Status.ok := by
  have published : (StandIn.onTables session body answer look).world recording.state =
      look recording.state.2 := rfl
  have isVisitor : (StandIn.onTables session body answer look).session = session := rfl
  cases route with
  | home =>
      obtain rfl := Option.some.inj isView
      exact terminal_capture_withProgress areRead _ fun _ => rfl
  | episodes =>
      obtain rfl := Option.some.inj isView
      exact terminal_capture_withProgress areRead _ fun _ => rfl
  | collection slug =>
      obtain ⟨shown, found, rfl⟩ := Option.map_eq_some_iff.1 isView
      rw [chain, collection, Chain.capture, published, found]
      exact terminal_capture_withProgress areRead _ fun _ => rfl
  | episode slug =>
      obtain ⟨shown, foundOpen, rfl⟩ := Option.map_eq_some_iff.1 isView
      obtain ⟨found, isOpen⟩ := Option.filter_eq_some_iff.1 foundOpen
      rw [chain, episode, Chain.capture, published, found]
      dsimp only [Chain.withSession]
      rw [Chain.capture, isVisitor, if_pos isOpen]
      exact terminal_capture_withProgress areRead [shown] fun _ => rfl
  | _ => cases isView

/-- The states in which runs for a visitor cannot be told apart: tables that differ only in the play
progress of others, and the same stub. -/
def LooksAlike (session : Option Session) (left right : Pool × stub) : Prop :=
  SharesProgress (session.map Session.userId) left.1 right.1 ∧ left.2 = right.2

/-- On tables that differ only in the play progress of others, all statements that the site issues
for a visitor answer alike. -/
theorem agreesOn_onTables
    (session : Option Session)
    (body : Bytes)
    (answer : TaskDescription → stub → Except TaskError Answer × stub)
    (look : stub → World) :
    (StandIn.onTables session body answer look).AgreesOn (AsksFor session)
      (StandIn.onTables session body answer look) (LooksAlike session) where
  session := rfl
  body := rfl
  query := by
    rintro statement asks ⟨left, _⟩ ⟨right, _⟩ ⟨shares, rfl⟩
    by_cases isProgress : statement.table = Record.table PlayProgress
    case pos =>
      obtain ⟨own, rfl, rfl⟩ := asks isProgress
      have sameRows : (left.apply (entriesOf own.userId).statement).1 =
          (right.apply (entriesOf own.userId).statement).1 :=
        congrArg (Pool.sortRows newestFirst) shares.own
      have isSelect : (entriesOf own.userId).statement.isSelect = true := rfl
      have sharesThen := shares.of_rows (Pool.rows_apply_of_isSelect isSelect left)
        (Pool.rows_apply_of_isSelect isSelect right)
      exact ⟨congrArg Except.ok sameRows, sharesThen, rfl⟩
    case neg =>
      obtain ⟨sameRows, sharesThen⟩ := shares.apply isProgress
      exact ⟨congrArg Except.ok sameRows, sharesThen, rfl⟩
  task := by
    rintro description ⟨left, _⟩ ⟨right, _⟩ ⟨shares, rfl⟩
    exact ⟨rfl, shares, rfl⟩
  world := by
    rintro ⟨left, _⟩ ⟨right, _⟩ ⟨_, rfl⟩
    rfl

/-- Play progress is private. With tables that differ only in the play progress of others, a request
comes to the same terminal by the same steps, and leaves tables that again differ only in this. If
the rows of the visitor can be read, then the episodes are shown as they are picked from the catalog,
each with the progress that the first of these rows for its number tells. -/
theorem terminal_capture_dispatch_of_looksAlike
    {left right : Recording (Pool × stub)}
    (alike : left.GoesWith (LooksAlike session) right)
    (head : RequestHead) :
    let run := (site.dispatch head).capture (StandIn.onTables session body answer look)
    (run left).1.terminal = (run right).1.terminal ∧ (run left).1.trace = (run right).1.trace ∧
      (run left).2.GoesWith (LooksAlike session) (run right).2 ∧
      ∀ entries,
        Stored.decodeAll (ownRows (session.map Session.userId) left.state.1) = Except.ok entries →
        ∀ route view, head.route? = some route →
          site.watchedView? (look left.state.2).catalog session entries route = some view →
          (run left).1.terminal = Terminal.html (view.page site session) Status.ok := by
  intro run
  have serves : site.ServesVisitor session (site.dispatch head) := site.servesVisitor_dispatch head
  obtain ⟨outcomes, after⟩ :=
    serves.capture_eq (agreesOn_onTables session body answer look) alike
  refine ⟨congrArg Outcome.terminal outcomes, congrArg Outcome.trace outcomes, after, ?_⟩
  intro entries areRead route view isRoute isView
  have isChain : site.dispatch head = site.chain route := by rw [dispatch, isRoute]
  have shown : ((site.chain route).capture (StandIn.onTables session body answer look)
      left).1.terminal = Terminal.html (view.page site session) Status.ok :=
    terminal_capture_chain_of_watchedView? areRead isView
  rw [← isChain] at shown
  exact shown

/-- Of two entries for an episode the visitor is shown the first one, whether there is a row of
somebody else that cannot be read or not. -/
theorem terminal_capture_dispatch_of_foreign_row :
    let visitorId := Uuid.drawn 1
    let released := Timestamp.ofUnix 1717232400 0
    let site : Site := { now := released }
    let shown : Episode := { (default : Episode) with
      number := 1, slug := "first", releasedAt := some released }
    let catalog : Catalog := { Catalog.empty with episodes := [shown] }
    let world : World := { catalog, source := Except.ok catalog }
    let session : Session :=
      { sessionId := Uuid.drawn 2
        user := { id := visitorId, data := User.fresh "ana@example.com" (Uuid.drawn 3) released }
        teamManager := none }
    let own (progress : Nat) : Row :=
      [("episode_number", Json.integer 1), ("furthest_watched", Json.integer 400),
        ("id", Row.ofUuid (Uuid.drawn 4)), ("progress", Json.integer progress),
        ("user_id", Row.ofUuid visitorId)]
    let foreign : Row := [("episode_number", Json.bool true), ("user_id", Json.string "bob")]
    let pool (rows : List Row) : Pool := ({} : Pool).seed "play_progress" rows
    let left := pool [foreign, own 125, own 300]
    let right := pool [own 125, own 300]
    let run (pool : Pool) := (site.dispatch (RequestHead.ofRoute (Route.episode "first"))).capture
      (StandIn.onTables (some session) [] (fun description stub =>
        (Except.error (Stubs.unanswered description), stub)) id) { state := (pool, world) }
    (run left).1.terminal = (run right).1.terminal ∧
      (run left).1.terminal =
        Terminal.html (Page.episode site (some session) shown (some 125)) Status.ok := by
  intro visitorId released site shown catalog world session own foreign pool left right run
  have shares : SharesProgress (some visitorId) left right := by
    constructor
    case others =>
      intro table isOther
      simp [left, right, pool, Pool.seed, Ne.symm isOther]
    case own => rfl
  let entry (progress : Nat) : Stored PlayProgress :=
    { id := Uuid.drawn 4
      data := { userId := visitorId, episodeNumber := 1, progress, furthestWatched := 400 } }
  have areRead : Stored.decodeAll (ownRows (some visitorId) left) =
      Except.ok [entry 125, entry 300] := by
    decide +kernel
  have named : (Route.episode "first").NamesNothingEmpty := (by decide : "first" ≠ "")
  have isOpen : site.isOpen (some session) shown = true := by decide +kernel
  have found : catalog.episode? "first" = some shown := by decide +kernel
  have isView : site.watchedView? catalog (some session) [entry 125, entry 300]
      (Route.episode "first") = some (View.episode shown (some 125)) := by
    rw [watchedView?, found, Option.filter_some, if_pos isOpen]
    rfl
  have alike : Recording.GoesWith (LooksAlike (some session))
      { state := (left, world) } { state := (right, world) } := ⟨⟨shares, rfl⟩, rfl, rfl⟩
  obtain ⟨same, _, _, told⟩ := terminal_capture_dispatch_of_looksAlike alike
    (RequestHead.ofRoute (Route.episode "first"))
  exact ⟨same, told _ areRead _ _ (Route.route?_ofRoute_of_namesNothingEmpty named) isView⟩

end Site

end Screencast
