import Lexicon.Descriptor.Decode
import Lexicon.Descriptor.Encode
import Lexicon.Reference

namespace Lexicon

open Lexicon.Json

/-!
# Documents

A document is an identifier and a list of named definitions.

* `Document`, `Document.empty`, `Document.withDefinition` — building documents;
* `Document.find?`, `Document.main?` — looking definitions up;
* `Document.ofJson?`, `Document.toJson` — the form of a document as data.
-/

/-- A document.  The names of its definitions differ from each other. -/
structure Document where
  /-- The version of the language. -/
  version : UInt32
  id : String
  revision : Option UInt32
  description : Option String
  definitions : List (String × Descriptor)

namespace Document

/-- The version of the language that documents are written in. -/
def currentVersion : UInt32 := 1

/-- A document without definitions. -/
def empty (id : String) : Document where
  version := currentVersion
  id := id
  revision := none
  description := none
  definitions := []

/-- The document with one more definition, or with another one in the place of an old one. -/
def withDefinition (document : Document) (name : String) (descriptor : Descriptor) : Document :=
  { document with definitions := Assoc.insert document.definitions name descriptor }

/-- The definition with a name. -/
def find? (document : Document) (name : String) : Option Descriptor :=
  document.definitions.lookup name

/-- The main definition. -/
def main? (document : Document) : Option Descriptor :=
  document.find? Address.mainName

/-! ### Documents as data -/

/-- The names of the fields. -/
def fieldNames : List String :=
  ["lexicon", "id", "revision", "description", "defs"]

/-- The definitions of a document. -/
def definitionsOfJson? : Json → Option (List (String × Descriptor))
  | .object fields =>
    fields.mapM fun (name, definition) => do return (name, ← Descriptor.ofJson? false definition)
  | _ => none

/-- A document, if the data have the shape of one. -/
def ofJson? (json : Json) : Option Document := do
  let fields ← json.fieldsOf? fieldNames 5
  return {
    version := ← requiredAt? uint32? "lexicon" fields
    id := ← requiredAt? string? "id" fields
    revision := ← optionalAt? uint32? "revision" fields
    description := ← optionalAt? string? "description" fields
    definitions := ← requiredAt? definitionsOfJson? "defs" fields }

/-- A document as data. -/
def toJson (document : Document) : Json :=
  .object
    ([("lexicon", ofUInt32 document.version), ("id", .string document.id)] ++
      entry "revision" ofUInt32 document.revision ++ describe document.description ++
      [("defs", .object (Descriptor.toEntries document.definitions))])

end Document

end Lexicon
