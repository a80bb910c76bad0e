import Screencast.Account.User
import Screencast.Json.Shape

/-!
# The catalog

Episodes, the collections they are grouped in, and the plans that visitors can subscribe to. The
catalog is read from a JSON file and replaced as a whole.
-/

namespace Screencast

/-- An episode. -/
structure Episode where
  number : Nat
  slug : String
  title : String
  synopsis : String
  subscriptionOnly : Bool
  releasedAt : Option Timestamp
  collections : List String
  durationSeconds : Nat
  deriving DecidableEq, Inhabited

namespace Episode

/-- Whether an episode has been released at a point in time. -/
def isReleased (episode : Episode) (now : Timestamp) : Bool :=
  episode.releasedAt.any fun releasedAt => releasedAt.instant ≤ now.instant

/-- The length of an episode in hours and minutes. -/
def prettyDuration (episode : Episode) : String :=
  let minutes := episode.durationSeconds / 60
  if 60 ≤ minutes then toString (minutes / 60) ++ "h " ++ toString (minutes % 60) ++ "min"
  else toString minutes ++ "min"

/-- Whether the release date of an episode has a written form, if there is one. -/
def hasWritableRelease (episode : Episode) : Bool :=
  episode.releasedAt.all fun releasedAt => releasedAt.rfc3339?.isSome

/-- The JSON value of a release date. -/
def releaseJson (releasedAt : Option Timestamp) : Json :=
  Json.ofOption Json.string (releasedAt.bind Timestamp.rfc3339?)

/-- The JSON value of an episode. -/
def toJson (episode : Episode) : Json :=
  Json.object
    [("number", Json.integer episode.number),
      ("slug", Json.string episode.slug),
      ("title", Json.string episode.title),
      ("synopsis", Json.string episode.synopsis),
      ("subscription_only", Json.bool episode.subscriptionOnly),
      ("released_at", releaseJson episode.releasedAt),
      ("collections", Json.array (episode.collections.map Json.string)),
      ("duration_seconds", Json.integer episode.durationSeconds)]

/-- The reader of episodes. -/
def shape : Shape Episode := fun allowance source => do
  let members ←
    Members.of
      ["number", "slug", "title", "synopsis", "subscription_only", "released_at", "collections",
        "duration_seconds"]
      allowance source
  let number ← members.required "number" Shape.word
  let slug ← members.required "slug" Shape.text
  let title ← members.required "title" Shape.text
  let synopsis ← members.required "synopsis" Shape.text
  let subscriptionOnly ← members.withDefault "subscription_only" Shape.bool false
  let releasedAt ←
    members.withDefault "released_at" (Shape.optional (Shape.parsed Timestamp.parse?)) none
  let collections ← members.withDefault "collections" (Shape.list Shape.text) []
  let durationSeconds ← members.required "duration_seconds" Shape.word
  pure
    { number, slug, title, synopsis, subscriptionOnly, releasedAt, collections, durationSeconds }

end Episode

/-- A collection of episodes. -/
structure Collection where
  slug : String
  title : String
  description : String
  deriving DecidableEq, Inhabited

namespace Collection

/-- The JSON value of a collection. -/
def toJson (collection : Collection) : Json :=
  Json.object
    [("slug", Json.string collection.slug),
      ("title", Json.string collection.title),
      ("description", Json.string collection.description)]

/-- The reader of collections. -/
def shape : Shape Collection := fun allowance source => do
  let members ← Members.of ["slug", "title", "description"] allowance source
  let slug ← members.required "slug" Shape.text
  let title ← members.required "title" Shape.text
  let description ← members.withDefault "description" Shape.text ""
  pure { slug, title, description }

end Collection

/-- The unit in which the interval of a plan is counted. -/
inductive IntervalUnit
  | days
  | months
  deriving DecidableEq, Repr, Inhabited

namespace IntervalUnit

/-- The name of a unit. -/
def name : IntervalUnit → String
  | days => "days"
  | months => "months"

/-- The unit with a name. -/
def ofName? (name : String) : Option IntervalUnit :=
  if name = "days" then some days else if name = "months" then some months else none

/-- The reader of units: a name, or an object with the name as its only field, which is `null`. -/
def shape : Shape IntervalUnit
  | allowance, JsonSource.object [(name, JsonSource.null)] => do
    let _ ← JsonSource.enter? allowance
    StringPart.text? name >>= ofName?
  | allowance, source => Shape.parsed ofName? allowance source

end IntervalUnit

/-- A plan that visitors can subscribe to. -/
structure Plan where
  planCode : String
  name : String
  intervalUnit : IntervalUnit
  intervalLength : Nat
  unitAmountCents : Nat
  deriving DecidableEq, Inhabited

namespace Plan

/-- Whether the code of a plan is that of a gift. -/
def isGiftCode (planCode : String) : Bool := ['g', 'i', 'f', 't'].isPrefixOf planCode.toList

/-- Whether a plan is a gift. -/
def isGift (plan : Plan) : Bool := isGiftCode plan.planCode

/-- The interval of a plan in words. -/
def prettyDuration (plan : Plan) : String :=
  let unit :=
    match plan.intervalUnit with
    | IntervalUnit.days => if plan.intervalLength = 1 then "day" else "days"
    | IntervalUnit.months => if plan.intervalLength = 1 then "month" else "months"
  toString plan.intervalLength ++ " " ++ unit

/-- The price of a plan in dollars and cents. -/
def prettyPrice (plan : Plan) : String :=
  "$" ++ toString (plan.unitAmountCents / 100) ++ "." ++ Text.padded 2 (plan.unitAmountCents % 100)

/-- Whether a plan is paid for every so many months and is no gift. -/
def isEveryMonths (months : Nat) (plan : Plan) : Bool :=
  !plan.isGift && plan.intervalUnit = IntervalUnit.months && plan.intervalLength = months

/-- The JSON value of a plan. -/
def toJson (plan : Plan) : Json :=
  Json.object
    [("plan_code", Json.string plan.planCode),
      ("name", Json.string plan.name),
      ("interval_unit", Json.string plan.intervalUnit.name),
      ("interval_length", Json.integer plan.intervalLength),
      ("unit_amount_cents", Json.integer plan.unitAmountCents)]

/-- The reader of plans. -/
def shape : Shape Plan := fun allowance source => do
  let members ←
    Members.of ["plan_code", "name", "interval_unit", "interval_length", "unit_amount_cents"]
      allowance source
  let planCode ← members.required "plan_code" Shape.text
  let name ← members.required "name" Shape.text
  let intervalUnit ← members.required "interval_unit" IntervalUnit.shape
  let intervalLength ← members.required "interval_length" Shape.word
  let unitAmountCents ← members.required "unit_amount_cents" Shape.word
  pure { planCode, name, intervalUnit, intervalLength, unitAmountCents }

end Plan

/-- The episodes, collections and plans of a site. -/
structure Catalog where
  episodes : List Episode
  collections : List Collection
  plans : List Plan
  deriving DecidableEq

namespace Catalog

/-- The catalog without anything in it. -/
def empty : Catalog where
  episodes := []
  collections := []
  plans := []

instance : Inhabited Catalog := ⟨empty⟩

/-- The plan that is paid for every month. -/
def monthly? (catalog : Catalog) : Option Plan := catalog.plans.find? (Plan.isEveryMonths 1)

/-- The plan that is paid for every year. -/
def yearly? (catalog : Catalog) : Option Plan := catalog.plans.find? (Plan.isEveryMonths 12)

/-- The plans that are gifts. -/
def gifts (catalog : Catalog) : List Plan := catalog.plans.filter Plan.isGift

/-- The first plan with a code. -/
def plan? (catalog : Catalog) (planCode : String) : Option Plan :=
  catalog.plans.find? fun plan => plan.planCode = planCode

/-- The first collection with a slug. -/
def collection? (catalog : Catalog) (slug : String) : Option Collection :=
  catalog.collections.find? fun collection => collection.slug = slug

/-- The first episode with a slug. -/
def episode? (catalog : Catalog) (slug : String) : Option Episode :=
  catalog.episodes.find? fun episode => episode.slug = slug

/-- Whether a visitor is an administrator. -/
def isAdmin (user : Option User) : Bool := user.any fun user => user.admin

/-- The episodes that a visitor may see, newest first. Administrators also see what is not released
yet. -/
def visibleEpisodes (catalog : Catalog) (user : Option User) (now : Timestamp) : List Episode :=
  (catalog.episodes.filter fun episode => isAdmin user || episode.isReleased now).mergeSort
    fun left right => right.number ≤ left.number

/-- The episodes of a collection that a visitor may see, newest first. -/
def collectionEpisodes (catalog : Catalog) (collection : Collection) (user : Option User)
    (now : Timestamp) : List Episode :=
  (catalog.visibleEpisodes user now).filter fun episode =>
    episode.collections.contains collection.slug

/-- The collections in which a visitor may see an episode, with the number of these episodes. -/
def visibleCollections (catalog : Catalog) (user : Option User) (now : Timestamp) :
    List (Collection × Nat) :=
  (catalog.collections.map fun collection =>
    (collection, (catalog.collectionEpisodes collection user now).length)).filter
      fun (_, count) => 0 < count

/-- The JSON value of a catalog. -/
def toJson (catalog : Catalog) : Json :=
  Json.object
    [("episodes", Json.array (catalog.episodes.map Episode.toJson)),
      ("collections", Json.array (catalog.collections.map Collection.toJson)),
      ("plans", Json.array (catalog.plans.map Plan.toJson))]

/-- The reader of catalogs. -/
def shape : Shape Catalog := fun allowance source => do
  let members ← Members.of ["episodes", "collections", "plans"] allowance source
  let episodes ← members.withDefault "episodes" (Shape.list Episode.shape) []
  let collections ← members.withDefault "collections" (Shape.list Collection.shape) []
  let plans ← members.withDefault "plans" (Shape.list Plan.shape) []
  pure { episodes, collections, plans }

/-- Read the text of a catalog file. -/
def read? (bytes : Bytes) : Option Catalog :=
  JsonSource.read? bytes >>= shape JsonSource.nesting

/-- Why a catalog file cannot be used. -/
inductive Error
  | unreadable
  | malformed
  deriving DecidableEq, Repr

namespace Error

/-- The message of a catalog error. -/
def message : Error → String
  | unreadable => "failed to read catalog"
  | malformed => "invalid catalog"

end Error

/-- Load a catalog from the content of its file, which may be missing. -/
def load (file : Option Bytes) : Except Error Catalog :=
  match file with
  | none => Except.error Error.unreadable
  | some bytes =>
    match read? bytes with
    | some catalog => Except.ok catalog
    | none => Except.error Error.malformed

end Catalog

end Screencast
