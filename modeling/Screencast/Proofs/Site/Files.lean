import Screencast.Proofs.Http.Paths
import Screencast.Proofs.Serve.Alone
import Screencast.Proofs.Site.Route
import Screencast.Proofs.Store.Sorted
import Screencast.Site.Dispatch

/-!
# The files that visitors get

Whatever name is asked for, and whatever the manifest makes of it, only files below the folder of
all static files are opened. A name that leads upwards is not found, and nothing is opened for it.
The link to a file leads to this file, by whichever of its names the manifest gives it.
-/

namespace Screencast

open Http

/-! ## Manifests -/

namespace Assets

/-- A manifest has every name once, and no empty name. Its entries may come in any order. -/
structure IsWellNamed (assets : Assets) : Prop where
  distinct : assets.files.keys.Nodup
  nonempty : "" ∉ assets.files.keys

/-- Entries with names make up a manifest that has each of them once. -/
theorem isWellNamed_ofList
    {entries : List (String × String)}
    (named : ∀ entry ∈ entries, entry.1 ≠ "") :
    (ofList entries).IsWellNamed := by
  have nothing : KeyMap.IsSorted ([] : KeyMap String) := List.Pairwise.nil
  have stays (map : KeyMap String) (mapNamed : "" ∉ map.keys) :
      "" ∉ (entries.foldl (fun map entry => map.put entry.1 entry.2) map).keys := by
    induction entries generalizing map with
    | nil => exact mapNamed
    | cons entry rest inductionHypothesis =>
        obtain ⟨entryNamed, restNamed⟩ := List.forall_mem_cons.1 named
        refine inductionHypothesis restNamed (map.put entry.1 entry.2) fun present => ?_
        exact (KeyMap.mem_keys_put present).elim entryNamed.symm mapNamed
  exact ⟨(nothing.foldl_put entries).nodup, stays [] List.not_mem_nil⟩

variable {assets : Assets} {file : String}

/-- The public name of a target is one of the names that stand for it. -/
theorem mem_publicName (isTarget : file ∈ assets.files.values) :
    (assets.publicName file, file) ∈ assets.files := by
  obtain ⟨entry, present, isFile⟩ := List.mem_map.1 isTarget
  cases found : List.find? (fun entry => decide (entry.2 = file)) assets.files with
  | none => exact absurd (decide_eq_true isFile) (List.find?_eq_none.1 found entry present)
  | some first =>
      have isSame : first.2 = file := of_decide_eq_true (List.find?_some found :)
      have isName : assets.publicName file = first.1 := by simp only [publicName, found]
      rw [isName, ← isSame]
      exact List.mem_of_find?_eq_some found

theorem publicName_of_not_mem (noTarget : file ∉ assets.files.values) :
    assets.publicName file = file := by
  have isNone : List.find? (fun entry => decide (entry.2 = file)) assets.files = none := by
    refine List.find?_eq_none.2 fun entry present isFile => noTarget ?_
    exact of_decide_eq_true isFile ▸ List.mem_map_of_mem present
  simp only [publicName, isNone]

/-- The public name of a file is not empty. -/
theorem IsWellNamed.publicName_ne_empty
    (wellNamed : assets.IsWellNamed)
    (nonempty : file ≠ "") :
    assets.publicName file ≠ "" := by
  by_cases isTarget : file ∈ assets.files.values
  case pos =>
    intro isEmpty
    exact wellNamed.nonempty (isEmpty ▸ List.mem_map_of_mem (mem_publicName isTarget))
  case neg => rwa [publicName_of_not_mem isTarget]

end Assets

namespace Site

variable {site : Site} {request : Request} {segments : List String} {files : StaticFiles}
  {limit : Option Nat} {shared : Serve.Shared World}

/-! ## Requests for files -/

/-- The file that a request for some segments stands for, and how long it may be kept: what the
manifest says of the name, or the name itself. -/
def fileOf (site : Site) (segments : List String) : String × Option Nat :=
  match site.assets.resolve? ("/".intercalate segments) with
  | some target => (target, some assetMaxAge)
  | none => ("/".intercalate segments, none)

theorem staticFile_eq (site : Site) (segments : List String) :
    site.staticFile segments =
      Chain.respond (Terminal.file (site.fileOf segments).1 (site.fileOf segments).2) := by
  cases found : site.assets.resolve? ("/".intercalate segments) <;>
    simp only [staticFile, fileOf, found]

/-- A request for a file is answered with the response for the file that it stands for. -/
theorem response_handle_of_staticFile
    (isFile : (head request).route? = some (Route.staticFile segments)) :
    (site.handle (setup files limit) request shared).response =
      some (Response.ofFile files (site.fileOf segments).1 (site.fileOf segments).2).1 := by
  have isChain : (site.dispatch (head request)).traced =
      Chain.respond (Terminal.file (site.fileOf segments).1 (site.fileOf segments).2) := by
    rw [dispatch, isFile]
    change (site.staticFile segments).traced = _
    rw [staticFile_eq]
    rfl
  rw [handle, isChain, Serve.System.answer_eq_run]
  obtain ⟨last, within, halted, response, _⟩ := Serve.System.leadsWithin_respond
  rw [Serve.System.start, within.run_eq halted (by decide)]
  exact response

/-- No name leads out of the folder of all static files. A file that is opened, for whatever name,
is below the folder, and what a visitor gets is what is read there. A name with a component that
leads upwards is answered with the page for what is not found, and nothing is opened. The name that
a request comes to is the one in its path or the one that the manifest has for it. -/
theorem isBelow_of_opened?_and_handle
    (root : Bytes)
    (path : String)
    (maxAge : Option Nat)
    (files : StaticFiles) :
    let notFound := Response.ofPage (ServerError.notFound Response.fileNotFound).page Status.notFound
    let leadsUp := DiskPath.Component.up ∈ DiskPath.components (Text.encode path)
    (∀ file, StaticFiles.opened? root path = some file → DiskPath.IsBelow root file) ∧
    (∀ disk, files.Mirrors disk root →
      Response.ofFile files path maxAge = Response.ofDisk disk root path maxAge) ∧
    (leadsUp → StaticFiles.opened? root path = none ∧
      Response.ofFile files path maxAge = (notFound, [Response.refusedEntry path])) ∧
    ∀ (site : Site) (request : Request) (segments : List String) (limit : Option Nat)
      (shared : Serve.Shared World),
      (head request).route? = some (Route.staticFile segments) →
      site.fileOf segments = (path, maxAge) →
      let response := (site.handle (setup files limit) request shared).response
      response = some (Response.ofFile files path maxAge).1 ∧ (leadsUp → response = some notFound) := by
  intro notFound leadsUp
  refine ⟨fun _ => StaticFiles.isBelow_of_opened?, fun disk mirrors =>
    Response.ofFile_eq_ofDisk mirrors path maxAge, fun up => ⟨?_, ?_⟩, ?_⟩
  · rw [StaticFiles.opened?, StaticFiles.isSafe_eq_false_of_up up, if_neg Bool.false_ne_true]
  · exact Response.ofFile_of_up up files maxAge
  · intro site request segments limit shared isFile isName response
    have answered : response = some (Response.ofFile files path maxAge).1 := by
      have answer : response = some (Response.ofFile files (site.fileOf segments).1
          (site.fileOf segments).2).1 := response_handle_of_staticFile isFile
      rwa [isName] at answer
    refine ⟨answered, fun up => ?_⟩
    rw [answered, Response.ofFile_of_up up]
    rfl

/-- A request whose slashes and dots are escaped is not found, and nothing is opened for it. -/
theorem isBelow_of_escaped_dots :
    let site : Site := { now := Timestamp.ofUnix 1717232400 0 }
    let shared : Serve.Shared World :=
      { pool := {}, world := { catalog := Catalog.empty, source := Except.ok Catalog.empty } }
    let files : StaticFiles := [("app.css", [])]
    let root := Text.encode "/srv/static"
    let path := "../../etc/passwd"
    ∃ request : Request,
      Request.ofLine? "GET /static/..%2F..%2fetc/passwd" = some request ∧
      DiskPath.components (Text.encode path) =
        [DiskPath.Component.up, DiskPath.Component.up,
          DiskPath.Component.normal (Text.encode "etc"),
          DiskPath.Component.normal (Text.encode "passwd")] ∧
      StaticFiles.opened? root path = none ∧
      (site.handle (setup files none) request shared).response =
        some (Response.ofPage (ServerError.notFound Response.fileNotFound).page Status.notFound) := by
  intro site shared files root path
  let request : Request :=
    { method := "GET"
      target := { path := "/static/..%2F..%2fetc/passwd", query := none }
      headers := []
      body := some [] }
  have isFile : (head request).route? = some (Route.staticFile ["../../etc", "passwd"]) := by
    decide +kernel
  have isRead : Request.ofLine? "GET /static/..%2F..%2fetc/passwd" = some request := by rfl
  have components : DiskPath.components (Text.encode path) =
      [DiskPath.Component.up, DiskPath.Component.up,
        DiskPath.Component.normal (Text.encode "etc"),
        DiskPath.Component.normal (Text.encode "passwd")] := by
    decide +kernel
  obtain ⟨_, _, refused, answered⟩ := isBelow_of_opened?_and_handle root path none files
  have leadsUp : DiskPath.Component.up ∈ DiskPath.components (Text.encode path) := by
    rw [components]
    exact List.mem_cons_self
  refine ⟨request, isRead, components, (refused leadsUp).1, ?_⟩
  exact (answered site request _ none shared isFile (by decide +kernel)).2 leadsUp

/-! ## Links to files -/

/-- The public name of a file stands for the file itself, whatever else the manifest says of it.
The file may be kept exactly if it is a target. -/
theorem fileOf_publicName
    {file : String}
    (distinct : site.assets.files.keys.Nodup)
    (isReachable : file ∈ site.assets.files.values ∨ file ∉ site.assets.files.keys) :
    site.fileOf [site.assets.publicName file] =
      (file, if file ∈ site.assets.files.values then some assetMaxAge else none) := by
  rw [fileOf, String.intercalate_singleton]
  by_cases isTarget : file ∈ site.assets.files.values
  case pos =>
    have found : site.assets.resolve? (site.assets.publicName file) = some file :=
      KeyMap.find?_eq_some_of_mem distinct (Assets.mem_publicName isTarget)
    simp only [found, if_pos isTarget]
  case neg =>
    have absent := isReachable.resolve_left isTarget
    have missing : site.assets.resolve? file = none := KeyMap.find?_eq_none_of_not_mem absent
    simp only [Assets.publicName_of_not_mem isTarget, missing, if_neg isTarget]

/-- The link to a file leads to the file. Its URL has no query, and the chain of a request for it
ends at once with the file, which may be kept for long if it is a target of the manifest, and for
no time otherwise; a visitor gets the response for this file. The file may have any name that is
not empty, unless the manifest has the name for other files alone. -/
theorem dispatch_publicName
    {file : String}
    (wellNamed : site.assets.IsWellNamed)
    (nonempty : file ≠ "")
    (isReachable : file ∈ site.assets.files.values ∨ file ∉ site.assets.files.keys) :
    let link := Route.staticFile [site.assets.publicName file]
    let maxAge := if file ∈ site.assets.files.values then some assetMaxAge else none
    let asked : RequestHead := { method := "GET", path := link.url, query := none }
    RequestHead.ofRoute link = asked ∧
    site.dispatch asked = Chain.respond (Terminal.file file maxAge) ∧
    ∀ (request : Request) (files : StaticFiles) (limit : Option Nat) (shared : Serve.Shared World),
      head request = asked →
      (site.handle (setup files limit) request shared).response =
        some (Response.ofFile files file maxAge).1 := by
  intro link maxAge asked
  have isAsked : RequestHead.ofRoute link = asked := Route.ofRoute_of_params_eq_nil rfl
  have named : link.NamesNothingEmpty :=
    ⟨List.cons_ne_nil _ _, fun isEmpty =>
      wellNamed.publicName_ne_empty nonempty (List.mem_singleton.1 isEmpty).symm⟩
  have isFile := fileOf_publicName wellNamed.distinct isReachable
  refine ⟨isAsked, ?_, ?_⟩
  · rw [← isAsked, dispatch_ofRoute site named]
    change site.staticFile [site.assets.publicName file] = _
    rw [staticFile_eq, isFile]
  · intro request files limit shared isHead
    have isRoute : (head request).route? = some link := by
      rw [isHead, ← isAsked, Route.route?_ofRoute_of_namesNothingEmpty named]
    rw [response_handle_of_staticFile isRoute, isFile]

/-- One of the two names of a file leads to it, although the file has the name of another one; and a
file that the manifest says nothing of is found under its own name. -/
theorem dispatch_publicName_of_chained_names :
    let site : Site :=
      { now := Timestamp.ofUnix 1717232400 0
        assets := Assets.ofList
          [("b-2.css", "b c/é%.css"), ("b-1.css", "b c/é%.css"), ("b c/é%.css", "../a.css")] }
    let asked (path : String) : RequestHead := { method := "GET", path, query := none }
    site.assets.IsWellNamed ∧
      "b c/é%.css" ∈ site.assets.files.values ∧
      site.dispatch (asked "/static/b-1.css") =
        Chain.respond (Terminal.file "b c/é%.css" (some assetMaxAge)) ∧
      "img/..?.svg" ∉ site.assets.files.keys ∧
      site.dispatch (asked "/static/img%2F..%3F.svg") =
        Chain.respond (Terminal.file "img/..?.svg" none) := by
  intro site asked
  have wellNamed : site.assets.IsWellNamed := Assets.isWellNamed_ofList (by decide)
  have isTarget : "b c/é%.css" ∈ site.assets.files.values := by decide +kernel
  have noTarget : "img/..?.svg" ∉ site.assets.files.values := by decide +kernel
  have noName : "img/..?.svg" ∉ site.assets.files.keys := by decide +kernel
  have targetUrl : (Route.staticFile [site.assets.publicName "b c/é%.css"]).url =
      "/static/b-1.css" := by
    decide +kernel
  have otherUrl : (Route.staticFile [site.assets.publicName "img/..?.svg"]).url =
      "/static/img%2F..%3F.svg" := by
    decide +kernel
  obtain ⟨_, target, _⟩ := dispatch_publicName wellNamed (by decide) (Or.inl isTarget)
  obtain ⟨_, other, _⟩ := dispatch_publicName wellNamed (by decide) (Or.inr noName)
  rw [targetUrl, if_pos isTarget] at target
  rw [otherUrl, if_neg noTarget] at other
  exact ⟨wellNamed, isTarget, target, noName, other⟩

end Site

end Screencast
