import Screencast.Proofs.Http.Response
import Screencast.Proofs.Store.Sorted
import Screencast.Proofs.Text.Utf8
import Screencast.Text.Split

/-!
# Headers that can be sent

The value of a header is judged by its bytes, but it is written by characters. A text without
control characters is a value: a character of one byte is no control character, and every byte of a
longer one is above them all. What a terminal is sent with is put together from its own headers and
those of its kind.
-/

namespace Screencast

/-! ## Values -/

namespace Text

/-- Letters and digits are no control characters. -/
theorem isControl_of_isAlphanum
    {char : Char}
    (isAlphanum : char.isAlphanum = true) :
    isControl char = false := by
  delta Char.isAlphanum Char.isAlpha Char.isUpper Char.isLower Char.isDigit at isAlphanum
  simp only [Char.reduceVal, UInt32.le_iff_toNat_le, ge_iff_le, UInt32.reduceToNat,
    Bool.or_eq_true, Bool.and_eq_true, decide_eq_true_eq] at isAlphanum
  simp only [isControl, Char.toNat, Bool.or_eq_false_iff, Bool.and_eq_false_iff,
    decide_eq_false_iff_not]
  omega

end Text

namespace Http

/-- Every byte of a character that is no control character may stand in a value. -/
theorem isValueByte_of_mem_utf8EncodeChar
    {char : Char}
    (noControl : Text.isControl char = false)
    {byte : UInt8}
    (present : byte ∈ String.utf8EncodeChar char) :
    isValueByte byte = true := by
  by_cases isAscii : char.toNat ≤ 127
  · rw [Text.utf8EncodeChar_of_le_127 isAscii, List.mem_singleton] at present
    subst present
    have byteValue := Text.toNat_byte (show char.toNat < 256 by omega)
    simp only [Text.isControl, Bool.or_eq_false_iff, Bool.and_eq_false_iff, decide_eq_false_iff_not]
      at noControl
    simp only [isValueByte, UInt8.le_iff_toNat_le, ne_eq, ← UInt8.toNat_inj, byteValue,
      UInt8.reduceToNat, Bool.or_eq_true, Bool.and_eq_true, decide_eq_true_eq]
    omega
  · have isBeyond := Text.le_of_mem_utf8EncodeChar (Nat.not_le.1 isAscii) present
    simp only [isValueByte, UInt8.le_iff_toNat_le, ne_eq, ← UInt8.toNat_inj, UInt8.reduceToNat,
      Bool.or_eq_true, Bool.and_eq_true, decide_eq_true_eq]
    omega

/-- A text without control characters is the value of a header. -/
theorem isValue_encode
    {text : String}
    (noControl : text.toList.any Text.isControl = false) :
    isValue (Text.encode text) = true := by
  rw [isValue, List.all_eq_true]
  intro byte present
  obtain ⟨char, isThere, inChar⟩ := List.mem_flatMap.1 present
  exact isValueByte_of_mem_utf8EncodeChar
    (Bool.eq_false_iff.2 (List.any_eq_false.1 noControl char isThere)) inChar

end Http

/-! ## Headers -/

namespace Headers

/-- Headers that can be sent can be sent with one more. -/
theorem AreSendable.put
    {headers : Headers}
    (sendable : headers.AreSendable)
    {name value : String}
    (named : Http.isName name = true)
    (noControl : value.toList.any Text.isControl = false) :
    Headers.AreSendable (KeyMap.put name value headers) := by
  intro header present
  rcases KeyMap.mem_put present with rfl | isOld
  · exact ⟨named, Http.isValue_encode noControl⟩
  · exact sendable header isOld

theorem areSendable_singleton
    {name value : String}
    (named : Http.isName name = true)
    (noControl : value.toList.any Text.isControl = false) :
    Headers.AreSendable [(name, value)] :=
  AreSendable.put (List.forall_mem_nil _) named noControl

end Headers

/-! ## Drafts -/

namespace Http

/-- What a response is put together from. -/
structure Draft where
  status : Status
  headers : Headers
  body : Bytes

namespace Draft

/-- The response if all headers can be sent. -/
def whole (draft : Draft) : Response where
  status := draft.status
  headers := Response.sentHeaders draft.headers
  body := draft.body

/-- What the page for a missing file is put together from. -/
def ofMissingFile : Draft where
  status := Status.notFound
  headers := Response.pageHeaders
  body := Text.encode (ServerError.notFound Response.fileNotFound).page.renderDocument

end Draft

namespace Response

/-- What the response for a terminal is put together from. -/
def draft (files : StaticFiles) : Terminal → Draft
  | Terminal.text body status headers =>
      { status, headers := textHeaders headers, body := Text.encode body }
  | Terminal.binary bytes status headers => { status, headers, body := bytes }
  | Terminal.html node status =>
      { status, headers := pageHeaders, body := Text.encode node.renderDocument }
  | Terminal.file path maxAge =>
      match if StaticFiles.isSafe path then files.read? path else none with
      | some content =>
          { status := Status.ok, headers := fileHeaders path maxAge, body := content }
      | none => Draft.ofMissingFile
  | Terminal.redirect path headers =>
      { status := Status.found, headers := Terminal.redirectHeaders path headers, body := [] }

theorem missingFile_eq_build :
    missingFile =
      build Draft.ofMissingFile.status Draft.ofMissingFile.headers Draft.ofMissingFile.body := by
  simp only [missingFile, ofPage, Draft.ofMissingFile, ServerError.notFound]

/-- The response for a terminal is put together from its draft. -/
theorem ofTerminal_eq_build (files : StaticFiles) (terminal : Terminal) :
    (ofTerminal files terminal).1 =
      build (draft files terminal).status (draft files terminal).headers
        (draft files terminal).body := by
  cases terminal with
  | text body status headers => rfl
  | binary bytes status headers => rfl
  | html node status => rfl
  | redirect path headers => rfl
  | file path maxAge =>
      simp only [ofTerminal, ofFile, draft]
      cases StaticFiles.isSafe path with
      | false => exact missingFile_eq_build
      | true =>
          cases files.read? path with
          | none => exact missingFile_eq_build
          | some content => rfl

/-- If all headers of a draft can be sent, the response for the terminal is whole. -/
theorem ofTerminal_of_areSendable
    {files : StaticFiles}
    {terminal : Terminal}
    (sendable : (draft files terminal).headers.AreSendable) :
    (ofTerminal files terminal).1 = (draft files terminal).whole := by
  rw [ofTerminal_eq_build, build, (Terminal.headerFault?_eq_none_iff _).2 sendable]
  rfl

theorem areSendable_pageHeaders : pageHeaders.AreSendable :=
  Headers.areSendable_singleton (by decide) (by decide)

/-- The headers of a text can be sent if those can that it has of its own. -/
theorem areSendable_textHeaders
    {headers : Headers}
    (sendable : headers.AreSendable) :
    (textHeaders headers).AreSendable := by
  unfold textHeaders
  split
  · exact sendable
  · exact sendable.put (by decide) (by decide)

/-- There is no control character in a written number. -/
theorem any_isControl_toString (number : Nat) :
    (toString number).toList.any Text.isControl = false := by
  rw [List.any_eq_false]
  intro char present
  change char ∈ (Nat.repr number).toList at present
  rw [Nat.toList_repr] at present
  have isDigit := Nat.isDigit_of_mem_toDigits (by decide) (by decide) present
  rw [Bool.not_eq_true]
  exact Text.isControl_of_isAlphanum (by rw [Char.isAlphanum, isDigit, Bool.or_true])

/-- There is no control character in a content type. -/
theorem any_isControl_contentType (path : String) :
    (StaticFiles.contentType path).toList.any Text.isControl = false := by
  have ofKnown : ∀ ending contentType, StaticFiles.contentTypes.lookup ending = some contentType →
      contentType.toList.any Text.isControl = false := by
    have ofAll : ∀ entry ∈ StaticFiles.contentTypes,
        entry.2.toList.any Text.isControl = false := by decide
    intro ending contentType found
    obtain ⟨before, behind, parts, _⟩ := List.lookup_eq_some_iff.1 found
    exact ofAll (ending, contentType) (parts ▸ List.mem_append_right _ List.mem_cons_self)
  unfold StaticFiles.contentType
  split
  next contentType found =>
    obtain ⟨ending, _, isKnown⟩ := Option.bind_eq_some_iff.1 found
    exact ofKnown ending contentType isKnown
  next => decide

/-- The headers of a file can be sent. -/
theorem areSendable_fileHeaders (path : String) (maxAge : Option Nat) :
    (fileHeaders path maxAge).AreSendable := by
  rw [fileHeaders_eq]
  intro header present
  rcases List.mem_append.1 present with cached | typed
  · obtain ⟨seconds, _, rfl⟩ := List.mem_map.1 cached
    have named : isName "cache-control" = true := by decide
    have prefixed : "public, max-age=".toList.any Text.isControl = false := by decide
    have ending : ", immutable".toList.any Text.isControl = false := by decide
    refine ⟨named, isValue_encode ?_⟩
    rw [String.toList_append, String.toList_append, List.any_append, List.any_append, prefixed,
      ending, any_isControl_toString, Bool.or_false, Bool.or_false]
  · obtain rfl := List.mem_singleton.1 typed
    have named : isName "content-type" = true := by decide
    exact ⟨named, isValue_encode (any_isControl_contentType path)⟩

end Response

end Http

end Screencast
