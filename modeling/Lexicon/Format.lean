import Lexicon.ContentId.Basic
import Lexicon.Datetime
import Lexicon.Identifier.AtUri
import Lexicon.Identifier.RecordKey
import Lexicon.LanguageTag
import Lexicon.Uri.Basic

namespace Lexicon

/-!
# String formats

A string property may be declared to have one of eleven formats.

* `Format`, `Format.name`, `Format.ofName?` — the formats and their names;
* `Format.accepts` — whether a text has the format;
* `Format.expectation` — what is said of a text that has not.
-/

/-- A format that a string may be declared to have. -/
inductive Format where
  | atIdentifier
  | atUri
  | cid
  | datetime
  | did
  | handle
  | nsid
  | tid
  | recordKey
  | uri
  | language
deriving DecidableEq, Repr, Inhabited

namespace Format

/-- All formats. -/
def all : List Format :=
  [atIdentifier, atUri, cid, datetime, did, handle, nsid, tid, recordKey, uri, language]

/-- The name of a format in documents. -/
def name : Format → String
  | atIdentifier => "at-identifier"
  | atUri => "at-uri"
  | cid => "cid"
  | datetime => "datetime"
  | did => "did"
  | handle => "handle"
  | nsid => "nsid"
  | tid => "tid"
  | recordKey => "record-key"
  | uri => "uri"
  | language => "language"

/-- The format with a name. -/
def ofName? (name : String) : Option Format :=
  all.find? (·.name == name)

/-- Whether a text has the format. -/
def accepts : Format → String → Bool
  | atIdentifier => AtIdentifier.isValid
  | atUri => AtUri.isValid
  | cid => ContentId.isValid
  | datetime => Datetime.isValid
  | did => Did.isValid
  | handle => Handle.isValid
  | nsid => Nsid.isValid
  | tid => Tid.isValid
  | recordKey => RecordKey.isValid
  | uri => Uri.isValid
  | language => LanguageTag.isValid

/-- What a text without the format is told. -/
def expectation : Format → String
  | atIdentifier => "must be a valid did or a handle"
  | atUri => "must be a valid at-uri"
  | cid => "must be a cid string"
  | datetime => "must be an iso8601 formatted datetime"
  | did => "must be a valid did"
  | handle => "must be a valid handle"
  | nsid => "must be a valid nsid"
  | tid => "must be a valid TID"
  | recordKey => "must be a valid Record Key"
  | uri => "must be a uri"
  | language => "must be a well-formed BCP 47 language tag"

/-! ### Names -/

theorem ofName?_name (format : Format) : ofName? format.name = some format := by
  cases format <;> decide

end Format

end Lexicon
