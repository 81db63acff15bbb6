import Lexicon.Json.Token

namespace Lexicon

/-!
# Reading JSON text

Tokens are put together by a machine with a stack of the arrays and objects that are still open.

* `Frame`, `Builder` — open containers, and the machine;
* `maxDepth` — how deep containers may nest;
* `Json.parse?` — the value that a text denotes.
-/

/-- A container that is still open. -/
inductive Frame where
  /-- The items so far, last first. -/
  | array (items : List Json)
  /-- The entries so far, and the key whose value is being read. -/
  | object (fields : List (String × Json)) (key : String)

/-- What may come next. -/
inductive Expected where
  | value
  /-- An item, or the end of an array that has none. -/
  | firstItem
  /-- A key, or the end of an object that has none. -/
  | firstKey
  | key
  | colon
  /-- A comma, or the end of the container. -/
  | separator
  /-- Nothing: the text is complete. -/
  | ended
deriving DecidableEq

/-- The open containers, innermost first, and the value once it is complete. -/
structure Builder where
  stack : List Frame
  expected : Expected
  result : Option Json

/-- Containers nest at most this deep. -/
def maxDepth : Nat := 127

namespace Builder

/-- The machine once a value is complete: the value goes into the innermost open container.  A
repeated key keeps its place and takes the later value. -/
def complete (stack : List Frame) (value : Json) : Builder :=
  match stack with
  | [] => ⟨[], .ended, some value⟩
  | .array items :: rest => ⟨.array (value :: items) :: rest, .separator, none⟩
  | .object fields key :: rest =>
    ⟨.object (Assoc.insert fields key value) key :: rest, .separator, none⟩

/-- The machine at the start of a container. -/
def enter? (stack : List Frame) (frame : Frame) (expected : Expected) : Option Builder :=
  if stack.length < maxDepth then some ⟨frame :: stack, expected, none⟩ else none

/-- The value of a token that is a whole value. -/
def scalar? : Token → Option Json
  | .null => some .null
  | .boolean b => some (.boolean b)
  | .number n => some (.number n)
  | .string s => some (.string s)
  | _ => none

/-- The machine where a value begins. -/
def begin? (stack : List Frame) : Token → Option Builder
  | .openArray => enter? stack (.array []) .firstItem
  | .openObject => enter? stack (.object [] "") .firstKey
  | token => (scalar? token).map (complete stack)

/-- The machine after one more token. -/
def step (b : Builder) (token : Token) : Option Builder :=
  match b.expected, token, b.stack with
  | .value, _, stack => begin? stack token
  -- Only directly behind the opening bracket may there be no item, or no entry.
  | .firstItem, .closeArray, .array _ :: rest => some (complete rest (.array []))
  | .firstItem, _, stack => begin? stack token
  | .firstKey, .closeObject, .object _ _ :: rest => some (complete rest (.object []))
  | .firstKey, .string key, .object fields _ :: rest
  | .key, .string key, .object fields _ :: rest =>
    some ⟨.object fields key :: rest, .colon, none⟩
  | .colon, .colon, stack => some ⟨stack, .value, none⟩
  | .separator, .comma, .array items :: rest => some ⟨.array items :: rest, .value, none⟩
  | .separator, .comma, .object fields key :: rest =>
    some ⟨.object fields key :: rest, .key, none⟩
  | .separator, .closeArray, .array items :: rest =>
    some (complete rest (.array items.reverse))
  | .separator, .closeObject, .object fields _ :: rest => some (complete rest (.object fields))
  | _, _, _ => none

end Builder

/-- The value that a text denotes; `none` if the text is not JSON, nests too deep, or holds a number
that is too large. -/
def Json.parse? (text : String) : Option Json := do
  let tokens ← Token.ofText? text.toList
  let builder ← tokens.foldlM Builder.step ⟨[], .value, none⟩
  builder.result

end Lexicon
