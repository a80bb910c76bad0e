import Screencast.Json.Shape

/-!
# Fingerprinted files

A manifest maps public names with a fingerprint in them to the files that they stand for, so that
these can be cached for long.
-/

namespace Screencast

/-- A map from fingerprinted names to files. -/
structure Assets where
  files : KeyMap String

namespace Assets

/-- The manifest without an entry. -/
def empty : Assets := ⟨[]⟩

instance : Inhabited Assets := ⟨empty⟩

/-- The manifest with the given entries, of which the last of equal names counts. -/
def ofList (entries : List (String × String)) : Assets := ⟨KeyMap.ofList entries⟩

/-- Load a manifest from the content of its file. Without a readable file no name is
fingerprinted. -/
def load (file : Option Bytes) : Assets :=
  ((file >>= JsonSource.read? >>= Shape.map Shape.text JsonSource.nesting).map Assets.mk).getD empty

/-- The file behind a fingerprinted name. -/
def resolve? (assets : Assets) (name : String) : Option String := assets.files.find? name

/-- The fingerprinted name of a file, or the file itself if it has none. -/
def publicName (assets : Assets) (file : String) : String :=
  match List.find? (fun (_, target) => target = file) assets.files with
  | some (name, _) => name
  | none => file

end Assets

end Screencast
