namespace Lexicon

/-!
# Kinds of descriptors

* `Kind`, `Kind.name`, `Kind.ofName?` — the sixteen kinds and their names;
* `Kind.isTopLevelOnly`, `Kind.isParamPrimitive` — where a kind may stand;
* `Kind.declaredKeys` — the keys of a descriptor of each kind.
-/

/-- The kind of a descriptor. -/
inductive Kind where
  | boolean
  | integer
  | string
  | bytes
  | cidLink
  | blob
  | array
  | object
  | token
  | union
  | unknown
  | ref
  | record
  | params
  | query
  | procedure
deriving DecidableEq, Repr, Inhabited

namespace Kind

/-- All kinds, in the order in which they are numbered. -/
def all : List Kind :=
  [boolean, integer, string, bytes, cidLink, blob, array, object, token, union, unknown, ref,
   record, params, query, procedure]

/-- The name of a kind in documents. -/
def name : Kind → String
  | boolean => "boolean"
  | integer => "integer"
  | string => "string"
  | bytes => "bytes"
  | cidLink => "cid-link"
  | blob => "blob"
  | array => "array"
  | object => "object"
  | token => "token"
  | union => "union"
  | unknown => "unknown"
  | ref => "ref"
  | record => "record"
  | params => "params"
  | query => "query"
  | procedure => "procedure"

/-- The kind with a name. -/
def ofName? (name : String) : Option Kind :=
  all.find? (·.name == name)

/-- Whether a descriptor of the kind can only be a definition of its own. -/
def isTopLevelOnly : Kind → Bool
  | record | params | query | procedure => true
  | _ => false

/-- Whether a parameter may have the kind. -/
def isParamPrimitive : Kind → Bool
  | boolean | integer | string | unknown => true
  | _ => false

/-- The keys that a descriptor of the kind may have besides `type` and `description`. -/
def declaredKeys : Kind → List String
  | boolean => ["default", "const"]
  | integer => ["default", "minimum", "maximum", "enum", "const"]
  | string =>
    ["format", "default", "minLength", "maxLength", "minGraphemes", "maxGraphemes", "enum", "const",
     "knownValues"]
  | bytes => ["minLength", "maxLength"]
  | blob => ["accept", "maxSize"]
  | array => ["items", "minLength", "maxLength"]
  | object => ["required", "nullable", "properties"]
  | union => ["refs", "closed"]
  | ref => ["ref"]
  | record => ["key", "record"]
  | params => ["required", "properties"]
  | query => ["parameters", "output", "errors"]
  | procedure => ["parameters", "input", "output", "errors"]
  | cidLink | token | unknown => []

/-! ### Names -/

theorem ofName?_name (kind : Kind) : ofName? kind.name = some kind := by
  cases kind <;> decide

end Kind

end Lexicon
