import Screencast.Proofs.Json.Shapes
import Screencast.Proofs.Timestamp
import Screencast.Site.Catalog

/-!
# Catalogs are loaded as they are written

The numbers of a catalog that was loaded have 32 bits, and its dates can be written. Every catalog
of this kind is loaded from the file that it is written as.
-/

namespace Screencast

/-! ## Numbers and dates -/

namespace Json

/-- A number of 32 bits is an integer of 64 bits. -/
theorem isIntegral_integer
    {number : Nat}
    (fits : number ≤ Bounds.greatestWord) :
    (integer number).IsIntegral := by
  simp only [Bounds.greatestWord] at fits
  refine IsIntegral.integer ?_ ?_
  · simp only [Bounds.leastSigned]
    omega
  · simp only [Bounds.greatestLong]
    omega

end Json

namespace Episode

/-- An episode whose numbers have 32 bits and whose date can be written. -/
structure IsWritable (episode : Episode) : Prop where
  number : episode.number ≤ Bounds.greatestWord
  durationSeconds : episode.durationSeconds ≤ Bounds.greatestWord
  releasedAt : ∀ date ∈ episode.releasedAt, date.IsReadable

/-- An episode that was read can be written. -/
theorem isWritable_of_shape
    {allowance : Nat}
    {source : JsonSource}
    {episode : Episode}
    (isRead : shape allowance source = some episode) :
    episode.IsWritable := by
  simp only [shape, Option.bind_eq_bind, Option.bind_eq_some_iff] at isRead
  obtain ⟨members, _, number, numberRead, slug, _, title, _, synopsis, _, only, _, date, dateRead,
    collections, _, seconds, secondsRead, same⟩ := isRead
  obtain rfl := Option.some.inj same
  constructor
  case number =>
    obtain ⟨_, isWord⟩ := Shape.exists_of_required numberRead
    exact Shape.le_greatestWord_of_word isWord
  case durationSeconds =>
    obtain ⟨_, isWord⟩ := Shape.exists_of_required secondsRead
    exact Shape.le_greatestWord_of_word isWord
  case releasedAt =>
    rintro released isDate
    obtain rfl : date = some released := isDate
    obtain ⟨_, isParsed⟩ := Shape.exists_of_withDefault_optional dateRead
    obtain ⟨_, isText⟩ := Shape.exists_text_of_parsed isParsed
    exact Timestamp.isReadable_of_parse? isText

/-- The date of an episode that can be written has a written form. -/
theorem IsWritable.hasWritableRelease
    {episode : Episode}
    (writable : episode.IsWritable) :
    episode.hasWritableRelease = true := by
  refine (Option.all_eq_true_iff_get _ _).2 fun isDated => ?_
  obtain ⟨text, isWritten, _⟩ :=
    Timestamp.exists_rfc3339?_and_parse? (writable.releasedAt _ (Option.get_mem isDated))
  rw [isWritten, Option.isSome_some]

/-- A date that can be written is read again from where it was written. -/
theorem optional_parsed_releaseJson
    {releasedAt : Option Timestamp}
    (isReadable : ∀ date ∈ releasedAt, date.IsReadable)
    (allowance : Nat) :
    Shape.optional (Shape.parsed Timestamp.parse?) allowance (releaseJson releasedAt).source =
      some releasedAt := by
  cases releasedAt with
  | none =>
      simp only [releaseJson, Option.bind_none, Json.ofOption, Json.source]
      rfl
  | some date =>
      obtain ⟨text, isWritten, isParsed⟩ :=
        Timestamp.exists_rfc3339?_and_parse? (isReadable date rfl)
      simp only [releaseJson, Option.bind_some, isWritten, Json.ofOption]
      refine Shape.optional_source (by simp [Json.source]) ?_
      rw [Shape.parsed, Shape.text_source]
      exact isParsed

theorem isIntegral_releaseJson (releasedAt : Option Timestamp) :
    (releaseJson releasedAt).IsIntegral := by
  unfold releaseJson
  cases releasedAt.bind Timestamp.rfc3339? with
  | none => exact Json.IsIntegral.null
  | some text => exact Json.IsIntegral.string text

variable {episode : Episode}

theorem isIntegral_toJson (writable : episode.IsWritable) : episode.toJson.IsIntegral := by
  have collections : (Json.array (episode.collections.map Json.string)).IsIntegral :=
    Json.IsIntegral.array (List.forall_mem_map.2 fun slug _ => Json.IsIntegral.string slug)
  refine Json.IsIntegral.object ?_
  simp [Json.isIntegral_integer writable.number, Json.isIntegral_integer writable.durationSeconds,
    isIntegral_releaseJson, collections, Json.IsIntegral.string, Json.IsIntegral.bool]

/-- An episode that can be written is read from its tree. -/
theorem shape_source
    {allowance : Nat}
    (writable : episode.IsWritable)
    (isAllowed : 2 < allowance) :
    shape allowance episode.toJson.source = some episode := by
  have number := Shape.word_source writable.number (allowance - 1)
  have seconds := Shape.word_source writable.durationSeconds (allowance - 1)
  have date := optional_parsed_releaseJson writable.releasedAt (allowance - 1)
  have collections : Shape.list Shape.text (allowance - 1)
      (Json.array (episode.collections.map Json.string)).source = some episode.collections :=
    Shape.list_source Json.string (by omega) fun slug _ => Shape.text_source _ slug
  have isObject : 1 < allowance := by omega
  rw [shape]
  refine Option.bind_eq_some_iff.2 ⟨_, Members.of_source isObject (by simp) (by simp), ?_⟩
  refine Option.bind_eq_some_iff.2 ⟨_, Members.required_eq_some rfl number, ?_⟩
  refine Option.bind_eq_some_iff.2 ⟨_, Members.required_eq_some rfl (Shape.text_source _ _), ?_⟩
  refine Option.bind_eq_some_iff.2 ⟨_, Members.required_eq_some rfl (Shape.text_source _ _), ?_⟩
  refine Option.bind_eq_some_iff.2 ⟨_, Members.required_eq_some rfl (Shape.text_source _ _), ?_⟩
  refine Option.bind_eq_some_iff.2
    ⟨_, Members.withDefault_eq_some rfl (Shape.bool_source _ _), ?_⟩
  refine Option.bind_eq_some_iff.2 ⟨_, Members.withDefault_eq_some rfl date, ?_⟩
  refine Option.bind_eq_some_iff.2 ⟨_, Members.withDefault_eq_some rfl collections, ?_⟩
  exact Option.bind_eq_some_iff.2 ⟨_, Members.required_eq_some rfl seconds, rfl⟩

end Episode

namespace Collection

theorem isIntegral_toJson (collection : Collection) : collection.toJson.IsIntegral := by
  refine Json.IsIntegral.object ?_
  simp [Json.IsIntegral.string]

/-- A collection is read from its tree. -/
theorem shape_source
    {allowance : Nat}
    (isAllowed : 1 < allowance)
    (collection : Collection) :
    shape allowance collection.toJson.source = some collection := by
  rw [shape]
  refine Option.bind_eq_some_iff.2 ⟨_, Members.of_source isAllowed (by simp) (by simp), ?_⟩
  refine Option.bind_eq_some_iff.2 ⟨_, Members.required_eq_some rfl (Shape.text_source _ _), ?_⟩
  refine Option.bind_eq_some_iff.2 ⟨_, Members.required_eq_some rfl (Shape.text_source _ _), ?_⟩
  exact Option.bind_eq_some_iff.2
    ⟨_, Members.withDefault_eq_some rfl (Shape.text_source _ _), rfl⟩

end Collection

theorem IntervalUnit.shape_source (allowance : Nat) (unit : IntervalUnit) :
    shape allowance (Json.string unit.name).source = some unit := by
  have named : ofName? unit.name = some unit := by cases unit <;> rfl
  have isRead := Shape.text_source allowance unit.name
  simp only [Json.source] at isRead ⊢
  simp [shape, Shape.parsed, isRead, named]

namespace Plan

/-- A plan whose numbers have 32 bits. -/
structure IsWritable (plan : Plan) : Prop where
  intervalLength : plan.intervalLength ≤ Bounds.greatestWord
  unitAmountCents : plan.unitAmountCents ≤ Bounds.greatestWord

variable {plan : Plan}

/-- A plan that was read can be written. -/
theorem isWritable_of_shape
    {allowance : Nat}
    {source : JsonSource}
    (isRead : shape allowance source = some plan) :
    plan.IsWritable := by
  simp only [shape, Option.bind_eq_bind, Option.bind_eq_some_iff] at isRead
  obtain ⟨members, _, code, _, name, _, unit, _, length, lengthRead, cents, centsRead, same⟩ :=
    isRead
  obtain rfl := Option.some.inj same
  obtain ⟨_, lengthIsWord⟩ := Shape.exists_of_required lengthRead
  obtain ⟨_, centsIsWord⟩ := Shape.exists_of_required centsRead
  exact ⟨Shape.le_greatestWord_of_word lengthIsWord, Shape.le_greatestWord_of_word centsIsWord⟩

theorem isIntegral_toJson (writable : plan.IsWritable) : plan.toJson.IsIntegral := by
  refine Json.IsIntegral.object ?_
  simp [Json.isIntegral_integer writable.intervalLength,
    Json.isIntegral_integer writable.unitAmountCents, Json.IsIntegral.string]

/-- A plan that can be written is read from its tree. -/
theorem shape_source
    {allowance : Nat}
    (writable : plan.IsWritable)
    (isAllowed : 1 < allowance) :
    shape allowance plan.toJson.source = some plan := by
  have length := Shape.word_source writable.intervalLength (allowance - 1)
  have cents := Shape.word_source writable.unitAmountCents (allowance - 1)
  have unit := IntervalUnit.shape_source (allowance - 1) plan.intervalUnit
  rw [shape]
  refine Option.bind_eq_some_iff.2 ⟨_, Members.of_source isAllowed (by simp) (by simp), ?_⟩
  refine Option.bind_eq_some_iff.2 ⟨_, Members.required_eq_some rfl (Shape.text_source _ _), ?_⟩
  refine Option.bind_eq_some_iff.2 ⟨_, Members.required_eq_some rfl (Shape.text_source _ _), ?_⟩
  refine Option.bind_eq_some_iff.2 ⟨_, Members.required_eq_some rfl unit, ?_⟩
  refine Option.bind_eq_some_iff.2 ⟨_, Members.required_eq_some rfl length, ?_⟩
  exact Option.bind_eq_some_iff.2 ⟨_, Members.required_eq_some rfl cents, rfl⟩

end Plan

namespace Catalog

/-- A catalog whose numbers have 32 bits and whose dates can be written. -/
structure IsWritable (catalog : Catalog) : Prop where
  episodes : ∀ episode ∈ catalog.episodes, episode.IsWritable
  plans : ∀ plan ∈ catalog.plans, plan.IsWritable

variable {catalog : Catalog}

/-- A catalog was loaded exactly if its file is there and was read as the catalog. -/
theorem load_eq_ok_iff
    {file : Option Bytes} :
    load file = Except.ok catalog ↔
      ∃ bytes, file = some bytes ∧ read? bytes = some catalog := by
  cases file with
  | none => simp [load]
  | some bytes => cases isRead : read? bytes <;> simp [load, isRead]

/-- A catalog that was loaded can be written. -/
theorem isWritable_of_load
    {file : Option Bytes}
    (loaded : load file = Except.ok catalog) :
    catalog.IsWritable := by
  obtain ⟨bytes, _, isRead⟩ := load_eq_ok_iff.1 loaded
  obtain ⟨source, _, hasShape⟩ := Option.bind_eq_some_iff.1 isRead
  simp only [shape, Option.bind_eq_bind, Option.bind_eq_some_iff] at hasShape
  obtain ⟨members, _, episodes, episodesRead, _, _, plans, plansRead, same⟩ := hasShape
  obtain rfl := Option.some.inj same
  constructor
  case episodes =>
    intro episode present
    obtain ⟨_, _, isEpisode⟩ :=
      Shape.exists_of_mem_of_withDefault_list episodesRead episode present
    exact Episode.isWritable_of_shape isEpisode
  case plans =>
    intro plan present
    obtain ⟨_, _, isPlan⟩ := Shape.exists_of_mem_of_withDefault_list plansRead plan present
    exact Plan.isWritable_of_shape isPlan

/-- The numbers in a catalog that can be written are integers of 64 bits. -/
theorem isIntegral_toJson (writable : catalog.IsWritable) : catalog.toJson.IsIntegral := by
  refine Json.IsIntegral.object (List.forall_mem_cons.2 ⟨Json.IsIntegral.array ?episodes,
    List.forall_mem_cons.2 ⟨Json.IsIntegral.array ?collections,
      List.forall_mem_singleton.2 (Json.IsIntegral.array ?plans)⟩⟩)
  case episodes =>
    exact List.forall_mem_map.2 fun episode present =>
      Episode.isIntegral_toJson (writable.episodes episode present)
  case collections =>
    exact List.forall_mem_map.2 fun collection _ => collection.isIntegral_toJson
  case plans =>
    exact List.forall_mem_map.2 fun plan present =>
      Plan.isIntegral_toJson (writable.plans plan present)

/-- A catalog that can be written is read from its tree. -/
theorem shape_source
    {allowance : Nat}
    (writable : catalog.IsWritable)
    (isAllowed : 4 < allowance) :
    shape allowance catalog.toJson.source = some catalog := by
  have episodes := Shape.list_source Episode.toJson (by omega : 1 < allowance - 1)
    fun episode present => Episode.shape_source (writable.episodes episode present) (by omega)
  have collections := Shape.list_source Collection.toJson (by omega : 1 < allowance - 1)
    fun collection (_ : collection ∈ catalog.collections) =>
      Collection.shape_source (by omega) collection
  have plans := Shape.list_source Plan.toJson (by omega : 1 < allowance - 1)
    fun plan present => Plan.shape_source (writable.plans plan present) (by omega)
  have isObject : 1 < allowance := by omega
  rw [shape]
  refine Option.bind_eq_some_iff.2 ⟨_, Members.of_source isObject (by simp) (by simp), ?_⟩
  refine Option.bind_eq_some_iff.2 ⟨_, Members.withDefault_eq_some rfl episodes, ?_⟩
  refine Option.bind_eq_some_iff.2 ⟨_, Members.withDefault_eq_some rfl collections, ?_⟩
  exact Option.bind_eq_some_iff.2 ⟨_, Members.withDefault_eq_some rfl plans, rfl⟩

/-- A catalog is loaded from the file that it is written as exactly if its numbers have 32 bits and
its dates can be written. -/
theorem load_compact_toJson_iff (catalog : Catalog) :
    load (some (Text.encode catalog.toJson.compact)) = Except.ok catalog ↔
      catalog.IsWritable := by
  refine ⟨isWritable_of_load, fun writable => load_eq_ok_iff.2 ⟨_, rfl, ?_⟩⟩
  rw [read?, Json.compact_eq_written 0,
    JsonSource.read?_written Layout.isBlank_dense (isIntegral_toJson writable) 0]
  exact shape_source writable (by decide)

/-- An episode that is shown is in the catalog. -/
theorem mem_of_mem_visibleEpisodes
    {user : Option User}
    {now : Timestamp}
    {episode : Episode}
    (isShown : episode ∈ catalog.visibleEpisodes user now) :
    episode ∈ catalog.episodes :=
  List.mem_of_mem_filter (List.mem_mergeSort.1 isShown)

end Catalog

end Screencast
