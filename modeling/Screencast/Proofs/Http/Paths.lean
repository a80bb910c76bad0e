import Mathlib.Data.List.Basic
import Screencast.Http.Response
import Screencast.Proofs.Text.Split
import Screencast.Proofs.Text.Utf8

/-!
# Paths on disk

A path on disk is made of bytes, and what stands between its slashes are its components. Empty
pieces do not count, and a dot counts at the very beginning only. A file is opened at the name that
was asked for, joined to the folder of all static files: its components are those of the folder,
followed by plain names.
-/

namespace Screencast

namespace Http

namespace DiskPath

/-! ## Components -/

/-- The byte that separates the components of a path. -/
def slash : UInt8 := '/'.toUInt8

/-- A component of a path. -/
inductive Component
  | root
  | here
  | up
  | normal (name : Bytes)
  deriving DecidableEq

/-- What stands between the slashes of a path, empty pieces included. -/
def pieces : Bytes → List Bytes
  | [] => [[]]
  | byte :: rest =>
    if byte = slash then [] :: pieces rest
    else
      match pieces rest with
      | [] => [[byte]]
      | piece :: others => (byte :: piece) :: others

/-- The component of a piece. Empty pieces and dots are no components. -/
def component? (piece : Bytes) : Option Component :=
  if piece = [] ∨ piece = Text.encode "." then none
  else if piece = Text.encode ".." then some Component.up
  else some (Component.normal piece)

/-- What a path begins with, if it is the root, or the place where it is looked up. -/
def start (path : Bytes) : List Component :=
  if path.head? = some slash then [Component.root]
  else if (pieces path).head? = some (Text.encode ".") then [Component.here]
  else []

/-- The components of a path. -/
def components (path : Bytes) : List Component := start path ++ (pieces path).filterMap component?

/-- A path below another one. A path that begins with a slash replaces the other one. -/
def join (base path : Bytes) : Bytes :=
  if path.head? = some slash then path
  else if base.getLast?.any (· ≠ slash) then base ++ slash :: path
  else base ++ path

/-- There is at least one piece. -/
theorem pieces_ne_nil (path : Bytes) : pieces path ≠ [] := by
  cases path with
  | nil => exact List.cons_ne_nil _ _
  | cons byte rest =>
      unfold pieces
      split
      · exact List.cons_ne_nil _ _
      · split <;> exact List.cons_ne_nil _ _

/-- A slash separates the pieces before it from those behind it. -/
theorem pieces_append_slash (before after : Bytes) :
    pieces (before ++ slash :: after) = pieces before ++ pieces after := by
  induction before with
  | nil => simp [pieces]
  | cons byte before inductionHypothesis =>
      obtain ⟨piece, others, isBefore⟩ := List.exists_cons_of_ne_nil (pieces_ne_nil before)
      rw [List.cons_append, pieces, pieces, inductionHypothesis, isBefore]
      split <;> rfl

/-- Bytes that are no slashes belong to the first piece of what follows. -/
theorem pieces_append
    {before rest first : Bytes}
    {others : List Bytes}
    (absent : slash ∉ before)
    (isRest : pieces rest = first :: others) :
    pieces (before ++ rest) = (before ++ first) :: others := by
  induction before with
  | nil => exact isRest
  | cons byte before inductionHypothesis =>
      simp only [List.mem_cons, not_or] at absent
      rw [List.cons_append, pieces, if_neg (Ne.symm absent.1), inductionHypothesis absent.2]
      rfl

/-- The slash is one byte, which no other character holds. -/
theorem slash_not_mem_utf8EncodeChar {char : Char} (isOther : char ≠ '/') :
    slash ∉ String.utf8EncodeChar char := by
  intro present
  by_cases isAscii : char.toNat ≤ 127
  · rw [Text.utf8EncodeChar_of_le_127 isAscii, List.mem_singleton] at present
    have value : char.toNat = '/'.toNat := by
      have same := congrArg UInt8.toNat present
      rw [Text.toNat_byte (show char.toNat < 256 by omega)] at same
      exact same.symm
    exact isOther (Char.toNat_inj.1 value)
  · have isBeyond := Text.le_of_mem_utf8EncodeChar (Nat.not_le.1 isAscii) present
    exact absurd isBeyond (by decide)

/-- The pieces of a text as a path are those between its slashes. -/
theorem pieces_encode (text : String) :
    pieces (Text.encode text) = (Text.split '/' text).map Text.encode := by
  have chars (chars : List Char) : pieces (chars.flatMap String.utf8EncodeChar) =
      (Text.splitChars '/' chars).map (List.flatMap String.utf8EncodeChar) := by
    induction chars with
    | nil => rfl
    | cons char rest inductionHypothesis =>
        obtain ⟨first, others, isRest⟩ :=
          List.exists_cons_of_ne_nil (Text.splitChars_ne_nil '/' rest)
        rw [isRest] at inductionHypothesis
        unfold Text.splitChars
        split
        next isSlash =>
          subst isSlash
          have found := pieces_append_slash [] (rest.flatMap String.utf8EncodeChar)
          rw [inductionHypothesis] at found
          rw [isRest]
          exact found
        next isOther =>
          rw [isRest]
          exact pieces_append (slash_not_mem_utf8EncodeChar isOther) inductionHypothesis
  rw [Text.encode, chars, Text.split, List.map_map]
  refine List.map_congr_left fun piece _ => ?_
  simp [Text.encode]

/-- What a path begins with is decided before its last slash. -/
theorem start_append_slash (before after : Bytes) :
    start (before ++ slash :: after) = if before = [] then [Component.root] else start before := by
  cases before with
  | nil =>
      rw [if_pos rfl, start]
      exact if_pos rfl
  | cons byte rest =>
      obtain ⟨first, others, isBefore⟩ := List.exists_cons_of_ne_nil (pieces_ne_nil (byte :: rest))
      have sameFirst : (pieces ((byte :: rest) ++ slash :: after)).head? =
          (pieces (byte :: rest)).head? := by
        rw [pieces_append_slash, isBefore]
        rfl
      rw [if_neg (List.cons_ne_nil _ _), start, start, sameFirst]
      rfl

/-- The components of what stands before a slash come before those of what stands behind it. -/
theorem components_append_slash (before after : Bytes) :
    components (before ++ slash :: after) =
      (if before = [] then [Component.root] else components before) ++
        (pieces after).filterMap component? := by
  rw [components, pieces_append_slash, List.filterMap_append, start_append_slash]
  split
  next isEmpty =>
    subst isEmpty
    rfl
  next => rw [components, List.append_assoc]

/-- The components of a relative path come after those of the path that it is joined to. -/
theorem components_join
    {path : Bytes}
    (relative : start path = [])
    (base : Bytes) :
    components (join base path) = components base ++ components path := by
  have noSlash : path.head? ≠ some slash := by
    intro isSlash
    rw [start, if_pos isSlash] at relative
    cases relative
  have own : components path = (pieces path).filterMap component? := by
    rw [components, relative, List.nil_append]
  rw [join, if_neg noSlash, own]
  rcases List.eq_nil_or_concat base with rfl | ⟨before, last, rfl⟩
  · exact own
  · rw [List.concat_eq_append, List.getLast?_concat]
    by_cases isSlash : last = slash
    case pos =>
      subst isSlash
      have nothing : (pieces []).filterMap component? = [] := rfl
      rw [if_neg (by simp), List.append_assoc, List.singleton_append, components_append_slash,
        components_append_slash, nothing, List.append_nil]
    case neg =>
      rw [if_pos (by simpa using isSlash), components_append_slash, if_neg (by simp)]

/-- A path is below a folder if its components are those of the folder, followed by plain names. -/
def IsBelow (folder path : Bytes) : Prop :=
  ∃ names : List Bytes, components path = components folder ++ names.map Component.normal

end DiskPath

namespace StaticFiles

open DiskPath

/-! ## The paths that are opened -/

/-- The file that is opened for a name, below the folder of all static files. -/
def opened? (root : Bytes) (path : String) : Option Bytes :=
  if isSafe path then some (join root (Text.encode (Text.trimLeading '/' path))) else none

/-- The component of a part of a name, which is a plain one unless the part is one of three. -/
theorem component?_encode (part : String) :
    component? (Text.encode part) =
      if part = "" ∨ part = "." then none
      else if part = ".." then some Component.up
      else some (Component.normal (Text.encode part)) := by
  have isEmpty : Text.encode part = [] ↔ part = "" := by
    rw [← Text.encode_inj]
    rfl
  simp only [component?, Text.encode_inj, isEmpty]

/-- Without its leading slashes, a name does not begin with one. -/
theorem head?_encode_trimLeading_ne (path : String) :
    (Text.encode (Text.trimLeading '/' path)).head? ≠ some slash := by
  intro isSlash
  have isFirst := List.head?_dropWhile_not (· = '/') path.toList
  rw [Text.trimLeading, Text.encode, String.toList_ofList] at isSlash
  cases trimmed : path.toList.dropWhile (· = '/') with
  | nil =>
      rw [trimmed] at isSlash
      cases isSlash
  | cons char rest =>
      rw [trimmed] at isFirst isSlash
      obtain ⟨byte, others, bytes⟩ : ∃ byte others, String.utf8EncodeChar char = byte :: others :=
        List.exists_cons_of_ne_nil String.utf8EncodeChar_ne_nil
      rw [List.flatMap_cons, bytes] at isSlash
      obtain rfl := Option.some.inj isSlash
      refine slash_not_mem_utf8EncodeChar (of_decide_eq_false isFirst) ?_
      rw [bytes]
      exact List.mem_cons_self

/-- Without its leading slashes, a name begins with nothing but a dot that is no plain name. -/
theorem start_encode_trimLeading (path : String) :
    start (Text.encode (Text.trimLeading '/' path)) =
      if (parts path).head? = some "." then [Component.here] else [] := by
  have isDot : (pieces (Text.encode (Text.trimLeading '/' path))).head? = some (Text.encode ".") ↔
      (parts path).head? = some "." := by
    rw [pieces_encode, List.head?_map, parts, Option.map_eq_some_iff]
    simp only [Text.encode_inj, exists_eq_right]
  simp only [start, if_neg (head?_encode_trimLeading_ne path), isDot]

/-- The components of a name without its leading slashes. -/
theorem components_encode_trimLeading (path : String) :
    components (Text.encode (Text.trimLeading '/' path)) =
      (if (parts path).head? = some "." then [Component.here] else []) ++
        (parts path).filterMap fun part =>
          if part = "" ∨ part = "." then none
          else if part = ".." then some Component.up
          else some (Component.normal (Text.encode part)) := by
  rw [components, start_encode_trimLeading, pieces_encode, List.filterMap_map]
  exact congrArg (fun component? => _ ++ (parts path).filterMap component?)
    (funext component?_encode)

/-- The components of a name that is safe are plain: they are the parts that lead to another place.
-/
theorem components_encode_of_isSafe
    {path : String}
    (safe : isSafe path = true) :
    components (Text.encode (Text.trimLeading '/' path)) =
      (steps path).map fun step => Component.normal (Text.encode step) := by
  obtain ⟨⟨_, noneUp⟩, notHere⟩ : (path ≠ "" ∧ ".." ∉ parts path) ∧
      (parts path).head? ≠ some "." := by
    simpa [isSafe] using safe
  rw [components_encode_trimLeading, if_neg notHere, List.nil_append, steps, ← List.filterMap_eq_map,
    List.filterMap_filter]
  refine List.filterMap_congr fun part isPart => ?_
  have notUp : part ≠ ".." := fun same => noneUp (same ▸ isPart)
  by_cases isEmpty : part = ""
  · simp [isEmpty]
  · by_cases isDot : part = "." <;> simp [isEmpty, isDot, notUp]

/-- A name is safe exactly if it is not empty and all its components are plain, but for leading
slashes. -/
theorem isSafe_iff (path : String) :
    isSafe path = true ↔ path ≠ "" ∧
      ∀ component ∈ components (Text.encode (Text.trimLeading '/' path)),
        ∃ name, component = Component.normal name := by
  constructor
  · intro safe
    refine ⟨?_, ?_⟩
    · rintro rfl
      cases safe
    · rw [components_encode_of_isSafe safe, List.forall_mem_map]
      exact fun step _ => ⟨_, rfl⟩
  · rintro ⟨nonempty, arePlain⟩
    rw [components_encode_trimLeading] at arePlain
    have noneUp : ".." ∉ parts path := by
      intro isPart
      obtain ⟨name, same⟩ := arePlain Component.up
        (List.mem_append_right _ (List.mem_filterMap.2 ⟨"..", isPart, rfl⟩))
      cases same
    have notHere : (parts path).head? ≠ some "." := by
      intro isHere
      rw [if_pos isHere] at arePlain
      obtain ⟨name, same⟩ := arePlain Component.here List.mem_cons_self
      cases same
    simp [isSafe, nonempty, noneUp, notHere]

/-- A file that is opened is below the folder of all static files. -/
theorem isBelow_of_opened?
    {root file : Bytes}
    {path : String}
    (isOpened : opened? root path = some file) :
    IsBelow root file := by
  unfold opened? at isOpened
  split at isOpened
  next safe =>
    obtain rfl := Option.some.inj isOpened
    have plain := components_encode_of_isSafe safe
    have relative : start (Text.encode (Text.trimLeading '/' path)) = [] := by
      obtain ⟨_, notHere⟩ : (path ≠ "" ∧ ".." ∉ parts path) ∧ (parts path).head? ≠ some "." := by
        simpa [isSafe] using safe
      rw [start_encode_trimLeading, if_neg notHere]
    refine ⟨(steps path).map Text.encode, ?_⟩
    rw [components_join relative, plain, List.map_map]
    rfl
  next => cases isOpened

/-- Leading slashes add empty pieces only. -/
theorem mem_splitChars_dropWhile
    {piece : List Char}
    (nonempty : piece ≠ [])
    (chars : List Char) :
    piece ∈ Text.splitChars '/' (chars.dropWhile (· = '/')) ↔ piece ∈ Text.splitChars '/' chars := by
  induction chars with
  | nil => rfl
  | cons char rest inductionHypothesis =>
      by_cases isSlash : char = '/'
      · rw [List.dropWhile_cons, if_pos (decide_eq_true isSlash), inductionHypothesis]
        simp [Text.splitChars, isSlash, nonempty]
      · rw [List.dropWhile_cons, if_neg (by simpa using isSlash)]

/-- A component of a name leads upwards exactly if a part does, whatever slashes are in front. -/
theorem up_mem_components_encode_iff (path : String) :
    Component.up ∈ components (Text.encode path) ↔ ".." ∈ parts path := by
  have notStart : Component.up ∉ start (Text.encode path) := by
    unfold start
    split
    · decide
    · split <;> decide
  have isUp (part : String) :
      component? (Text.encode part) = some Component.up ↔ part = ".." := by
    rw [component?_encode]
    split
    next isNone =>
      refine ⟨nofun, ?_⟩
      rintro rfl
      exact absurd isNone (by decide)
    next =>
      split
      next isPart => exact iff_of_true rfl isPart
      next isNot => exact ⟨nofun, fun isPart => absurd isPart isNot⟩
  have isPart : ".." ∈ Text.split '/' path ↔ ".." ∈ parts path := by
    have asChars (text : String) :
        ".." ∈ Text.split '/' text ↔ ['.', '.'] ∈ Text.splitChars '/' text.toList := by
      rw [Text.split, List.mem_map]
      constructor
      · rintro ⟨piece, isPiece, same⟩
        have chars := congrArg String.toList same
        rw [String.toList_ofList] at chars
        subst chars
        exact isPiece
      · exact fun isPiece => ⟨_, isPiece, rfl⟩
    rw [parts, asChars, asChars, Text.trimLeading, String.toList_ofList,
      mem_splitChars_dropWhile (List.cons_ne_nil _ _)]
  rw [components, List.mem_append, or_iff_right notStart, pieces_encode, List.filterMap_map,
    List.mem_filterMap]
  simp only [Function.comp_apply, isUp, exists_eq_right, isPart]

theorem isSafe_eq_false_of_up
    {path : String}
    (leadsUp : Component.up ∈ components (Text.encode path)) :
    isSafe path = false := by
  rw [up_mem_components_encode_iff] at leadsUp
  simp [isSafe, leadsUp]

/-- The files are those that a disk holds below a folder. -/
def Mirrors (files : StaticFiles) (disk : Bytes → Option Bytes) (root : Bytes) : Prop :=
  ∀ path file, opened? root path = some file → files.read? path = disk file

/-- Names for which the same file is opened differ in leading slashes only. -/
theorem trimLeading_eq_of_opened?
    {root file : Bytes}
    {path other : String}
    (isOpened : opened? root path = some file)
    (isOpenedToo : opened? root other = some file) :
    Text.trimLeading '/' path = Text.trimLeading '/' other := by
  have joined {name : String} (isOpened : opened? root name = some file) :
      file = root ++ (if root.getLast?.any (· ≠ slash) then [slash] else []) ++
        Text.encode (Text.trimLeading '/' name) := by
    unfold opened? at isOpened
    split at isOpened
    next safe =>
      obtain rfl := Option.some.inj isOpened
      rw [join, if_neg (head?_encode_trimLeading_ne name)]
      split <;> simp
    next => cases isOpened
  exact Text.encode_inj.1 (List.append_cancel_left ((joined isOpened).symm.trans (joined isOpenedToo)))

/-- Whatever the files and the folder are, there is a disk that holds them. -/
theorem exists_mirrors (files : StaticFiles) (root : Bytes) :
    ∃ disk : Bytes → Option Bytes, files.Mirrors disk root := by
  classical
  refine ⟨fun file =>
    if isThere : ∃ path, opened? root path = some file then files.read? isThere.choose else none, ?_⟩
  intro path file isOpened
  have isThere : ∃ path, opened? root path = some file := ⟨path, isOpened⟩
  have sameParts : parts path = parts isThere.choose := by
    rw [parts, parts, trimLeading_eq_of_opened? isOpened isThere.choose_spec]
  dsimp only
  rw [dif_pos isThere, read?, read?, namesFile, namesFile, steps, steps, sameParts]

end StaticFiles

namespace Response

open DiskPath

/-- The response for a file that is read from a disk. -/
def ofDisk (disk : Bytes → Option Bytes) (root : Bytes) (path : String) (maxAge : Option Nat) :
    Response × List LogEntry :=
  match StaticFiles.opened? root path with
  | some file =>
    match disk file with
    | some content => (build Status.ok (fileHeaders path maxAge) content, [])
    | none => (missingFile, [])
  | none => (missingFile, [refusedEntry path])

/-- A file is served as it is read from a disk, where the files are those of the disk. -/
theorem ofFile_eq_ofDisk
    {files : StaticFiles}
    {disk : Bytes → Option Bytes}
    {root : Bytes}
    (mirrors : files.Mirrors disk root)
    (path : String)
    (maxAge : Option Nat) :
    ofFile files path maxAge = ofDisk disk root path maxAge := by
  unfold ofFile ofDisk
  split
  next safe =>
    have isOpened : StaticFiles.opened? root path =
        some (join root (Text.encode (Text.trimLeading '/' path))) := if_pos safe
    have isRead := mirrors path _ isOpened
    cases found : disk (join root (Text.encode (Text.trimLeading '/' path))) with
    | none => simp only [isRead, found, isOpened]
    | some content => simp only [isRead, found, isOpened]
  next notSafe =>
    have isRefused : StaticFiles.opened? root path = none := if_neg notSafe
    rw [isRefused]

/-- A name with a component that leads upwards is refused, whatever the files are. -/
theorem ofFile_of_up
    {path : String}
    (leadsUp : Component.up ∈ components (Text.encode path))
    (files : StaticFiles)
    (maxAge : Option Nat) :
    ofFile files path maxAge = (missingFile, [refusedEntry path]) := by
  rw [ofFile, StaticFiles.isSafe_eq_false_of_up leadsUp, if_neg Bool.false_ne_true]

end Response

end Http

end Screencast
