import Lexicon.Document.Basic
import Lexicon.Document.Keys
import Lexicon.Identifier.Nsid
import Lexicon.Json.Parse

namespace Lexicon

/-!
# Sound documents

What the shape of a document does not show: its version and identifier, which properties may be
required, where kinds may stand, and how references are spelled.

* `checkRequired`, `checkReference`, `checkParameters`, `checkPlace` — rules for one descriptor;
* `Descriptor.checkStructure` — a descriptor and all that it holds;
* `Document.checkStructure` — a document;
* `Document.read`, `Document.readText` — the sound document that data or a text describe.
-/

/-- Passes if every required property is declared. -/
def checkRequired (required : List String) (properties : List (String × Descriptor))
    (location : Location) : Except ReadError Unit :=
  match required.find? (!Assoc.hasKey properties ·) with
  | some name => .error (.requiredNotDefined name location)
  | none => .ok ()

/-- Passes if a reference has at most one `#`. -/
def checkReference (location : Location) (reference : String) : Except ReadError Unit :=
  if 1 < reference.toList.count '#' then .error (.invalidReference reference location) else .ok ()

/-- Whether a descriptor may describe a parameter. -/
def Descriptor.describesParameter : Descriptor → Bool
  | .array _ items _ => items.kind.isParamPrimitive
  | descriptor => descriptor.kind.isParamPrimitive

/-- The parameters of a call. -/
def ParamsSchema.checkStructure (location : Location) (schema : ParamsSchema) :
    Except ReadError Unit := do
  checkRequired schema.required schema.properties location
  schema.properties.forM fun (name, descriptor) =>
    if descriptor.describesParameter then .ok ()
    else .error (.invalidParamsProperty (location.child name) descriptor.kind)

/-- The parameters of a call, if they are declared. -/
def checkParameters (location : Location) (parameters : Option ParamsSchema) :
    Except ReadError Unit :=
  match parameters with
  | some schema => schema.checkStructure (location.child "parameters")
  | none => .ok ()

/-- Passes unless a kind that can only be a definition stands elsewhere. -/
def checkPlace (kind : Kind) (topLevel : Bool) (location : Location) : Except ReadError Unit :=
  if kind.isTopLevelOnly ∧ !topLevel then .error (.misplacedDefinition kind location) else .ok ()

mutual

/-- A descriptor and all that it holds.  The first fault in order is told. -/
def Descriptor.checkStructure (topLevel : Bool) (location : Location) :
    Descriptor → Except ReadError Unit
  | .object schema => schema.checkStructure location
  | .array _ items _ => items.checkStructure false (location.child "items")
  | .ref _ target => checkReference location target
  | .union _ members _ => members.forM (checkReference location)
  | .record _ _ schema => do
    checkPlace .record topLevel location
    schema.checkStructure (location.child "record")
  | .params schema => do
    checkPlace .params topLevel location
    schema.checkStructure location
  | .query _ parameters output _ => do
    checkPlace .query topLevel location
    checkParameters location parameters
    Body.checkStructure (location.child "output") output
  | .procedure _ parameters input output _ => do
    checkPlace .procedure topLevel location
    checkParameters location parameters
    Body.checkStructure (location.child "input") input
    Body.checkStructure (location.child "output") output
  | .boolean .. | .integer .. | .string .. | .bytes .. | .cidLink .. | .blob .. | .token ..
  | .unknown .. => .ok ()

/-- The required properties, then the properties in order. -/
def ObjectSchema.checkStructure (location : Location) : ObjectSchema → Except ReadError Unit
  | ⟨_, properties, required, _⟩ => do
    checkRequired required properties location
    Descriptor.checkProperties location properties

/-- Properties in order. -/
def Descriptor.checkProperties (location : Location) :
    List (String × Descriptor) → Except ReadError Unit
  | [] => .ok ()
  | (name, descriptor) :: rest => do
    descriptor.checkStructure false (location.child name)
    Descriptor.checkProperties location rest

/-- The schema of a body, if there is one. -/
def Body.checkStructure (location : Location) : Option Body → Except ReadError Unit
  | some ⟨_, _, some schema⟩ => schema.checkStructure false (location.child "schema")
  | _ => .ok ()

end

namespace Document

/-- A document: its version, its identifier, and its definitions in order. -/
def checkStructure (document : Document) : Except ReadError Unit := do
  if document.version != currentVersion then throw (.invalidVersion document.version)
  if !Nsid.isValid document.id then throw (.invalidNsid document.id)
  document.definitions.forM fun (name, descriptor) =>
    descriptor.checkStructure true (definitionLocation document.id name)

/-- The sound document that data describe. -/
def read (json : Json) : Except ReadError Document := do
  checkDocumentKeys json
  match ofJson? json with
  | none => throw .wrongShape
  | some document =>
    document.checkStructure
    return document

/-- The sound document that a text describes. -/
def readText (text : String) : Except ReadError Document :=
  match Json.parse? text with
  | none => .error .notJson
  | some json => read json

end Document

end Lexicon
