import Lexicon.Document.Error
import Lexicon.Json.Part

namespace Lexicon

open Lexicon.Json

/-!
# Undeclared keys

A key that no kind declares is most often a misspelled one, so the keys of a document are checked
before anything else is.  What is not an object, or does not name a kind, is passed over here: it
does not have the shape of a descriptor.

* `checkAllowed` — the keys of one object;
* `checkDescriptorKeys` — a descriptor and all that it holds;
* `checkDocumentKeys` — a document.
-/

/-- Passes if all keys are allowed, and otherwise tells which are not. -/
def checkAllowed {α : Type} (allowed : List String) (fields : List (String × α))
    (location : Location) : Except ReadError Unit :=
  let unknown := (fields.map Prod.fst).filter (!allowed.contains ·)
  if unknown.isEmpty then .ok () else .error (.unrecognizedKeys unknown location)

/-- The keys of the errors of a call. -/
def checkErrorKeys (location : Location) : Json → Except ReadError Unit
  | .array errors =>
    errors.forM fun
      | .object fields => checkAllowed ["name", "description"] fields location
      | _ => .ok ()
  | _ => .ok ()

/-- The kind that an object names. -/
def namedKind? (fields : List (String × Json)) : Option Kind :=
  (fields.lookup "type").bind fun tag => tag.string?.bind Kind.ofName?

/-- Applies a check to the value of a key, if the key is there. -/
def checkAt {whole : Json} (key : String) (parts : List (String × Part whole))
    (check : Part whole → Except ReadError Unit) : Except ReadError Unit :=
  match parts.lookup key with
  | some part => check part
  | none => .ok ()

mutual

/-- The keys of a descriptor, then those of its items, its record, its parameters, its properties,
its bodies and its errors. -/
def checkDescriptorKeys (location : Location) (json : Json) : Except ReadError Unit :=
  match json.entryParts? with
  | none => .ok ()
  | some parts =>
    match namedKind? (plain parts) with
    -- Without a kind it is left to the reader what the keys are.
    | none => .ok ()
    | some kind => do
      checkAllowed ("type" :: "description" :: kind.declaredKeys) parts location
      checkAt "items" parts fun ⟨items, _⟩ => checkDescriptorKeys (location.child "items") items
      checkAt "record" parts fun ⟨record, _⟩ => checkDescriptorKeys (location.child "record") record
      checkAt "parameters" parts fun ⟨parameters, _⟩ =>
        checkDescriptorKeys (location.child "parameters") parameters
      checkAt "properties" parts fun ⟨properties, _⟩ => checkPropertyKeys location properties
      checkAt "input" parts fun ⟨input, _⟩ => checkBodyKeys (location.child "input") input
      checkAt "output" parts fun ⟨output, _⟩ => checkBodyKeys (location.child "output") output
      checkAt "errors" parts fun ⟨errors, _⟩ => checkErrorKeys (location.child "errors") errors
termination_by sizeOf json

/-- The keys of the properties of a schema. -/
def checkPropertyKeys (location : Location) (json : Json) : Except ReadError Unit :=
  match json.entryParts? with
  | none => .ok ()
  | some parts =>
    parts.forM fun (name, ⟨property, _⟩) => checkDescriptorKeys (location.child name) property
termination_by sizeOf json

/-- The keys of a body, then those of its schema. -/
def checkBodyKeys (location : Location) (json : Json) : Except ReadError Unit :=
  match json.entryParts? with
  | none => .ok ()
  | some parts => do
    checkAllowed ["description", "encoding", "schema"] parts location
    checkAt "schema" parts fun ⟨schema, _⟩ =>
      checkDescriptorKeys (location.child "schema") schema
termination_by sizeOf json

end

/-- The location of a definition. -/
def definitionLocation (id name : String) : Location :=
  id ++ "#" ++ name

/-- The keys of the definitions of a document; an identifier that is not there counts as empty. -/
def checkDocumentKeys (json : Json) : Except ReadError Unit :=
  let id := ((json.get? "id").bind string?).getD ""
  match (json.get? "defs").bind object? with
  | some definitions =>
    definitions.forM fun (name, definition) =>
      checkDescriptorKeys (definitionLocation id name) definition
  | none => .ok ()

end Lexicon
