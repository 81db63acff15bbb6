import Lexicon.Document.Basic
import Lexicon.Failure

namespace Lexicon

open Lexicon.Json

/-!
# Registries

A registry holds documents, none of which is ever removed or replaced, and finds definitions in
them.

* `Settings` — what a registry can be set up with;
* `Registry`, `Registry.add`, `Registry.ofDocuments` — filling a registry;
* `Registry.get?`, `Registry.ids` — its documents;
* `Registry.resolve`, `Registry.definition` — the definition at an address or behind a reference.
-/

/-- What a registry can be set up with. -/
structure Settings where
  /-- How many references may lead to references before a value is described. -/
  maxHops : Nat := 32
deriving DecidableEq, Repr

namespace Settings

/-- The settings that data describe. -/
def ofJson? (json : Json) : Option Settings := do
  let fields ← json.fieldsOf? ["maxRefDepth"] 0
  let maxHops ← defaultAt? (fun value => value.uint64?.map UInt64.toNat) 32 "maxRefDepth" fields
  return ⟨maxHops⟩

/-- The settings as data. -/
def toJson (settings : Settings) : Json :=
  .object [("maxRefDepth", .number (.integer settings.maxHops))]

end Settings

/-- A registry: its documents, in the order in which they were added. -/
structure Registry where
  documents : List Document := []
  settings : Settings := {}

namespace Registry

/-- The document with an identifier. -/
def find? (registry : Registry) (id : String) : Option Document :=
  registry.documents.find? (·.id == id)

/-- The registry with one more document, whose identifier must be new. -/
def add (registry : Registry) (document : Document) : Except Failure Registry :=
  if (registry.find? document.id).isSome then .error (.alreadyRegistered document.id)
  else .ok { registry with documents := registry.documents ++ [document] }

/-- The registry of some documents. -/
def ofDocuments (documents : List Document) : Except Failure Registry :=
  documents.foldlM add {}

/-- The document that an identifier names, with or without the mark of references. -/
def get? (registry : Registry) (reference : String) : Option Document :=
  registry.find? (.ofList (dropReferenceMark reference))

/-- Whether an identifier names a document. -/
def contains (registry : Registry) (reference : String) : Bool :=
  (registry.get? reference).isSome

/-- The identifiers of the documents. -/
def ids (registry : Registry) : List String :=
  registry.documents.map Document.id

/-- The definition at an address. -/
def resolve (registry : Registry) (address : Address) : Except ResolutionError Descriptor :=
  match registry.find? address.document with
  | none => .error (.documentNotFound address.document)
  | some document =>
    match document.find? address.name with
    | none => .error (.definitionNotFound address.document address.name)
    | some definition => .ok definition

end Registry

/-- The address that a reference stands for, or the failure to find one. -/
def Address.locate (reference : String) (base : Option String) : Except Failure Address :=
  match Address.parse reference base with
  | .ok address => .ok address
  | .error error => .error (.resolution (.invalidReference error))

namespace Registry

/-- The definition at an address, or the failure to find one. -/
def lookUp (registry : Registry) (address : Address) : Except Failure Descriptor :=
  (registry.resolve address).mapError .resolution

/-- The definition that a reference leads to from outside all documents. -/
def definition (registry : Registry) (reference : String) : Except Failure Descriptor := do
  registry.lookUp (← Address.locate reference none)

end Registry

end Lexicon
