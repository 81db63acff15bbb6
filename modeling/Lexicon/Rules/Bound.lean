import Lexicon.Violation

namespace Lexicon

/-!
# Bounds and choices

* `atLeast`, `atMost` — a measure within inclusive bounds;
* `oneOf`, `equalTo` — a value among those allowed.
-/

/-- The outcome of a check. -/
abbrev Check := Except Violation Unit

/-- Passes unless `failed`. -/
def Check.unless (failed : Bool) (violation : Violation) : Check :=
  if failed then .error violation else .ok ()

/-- A measure that is not below its bound, if there is one. -/
def atLeast (bound : Option UInt64) (measure : Nat) (violation : Nat → Violation) : Check :=
  match bound with
  | some min => Check.unless (measure < min.toNat) (violation min.toNat)
  | none => .ok ()

/-- A measure that is not above its bound, if there is one. -/
def atMost (bound : Option UInt64) (measure : Nat) (violation : Nat → Violation) : Check :=
  match bound with
  | some max => Check.unless (max.toNat < measure) (violation max.toNat)
  | none => .ok ()

/-- A value among the allowed ones, if they are listed; `text` writes a value. -/
def oneOf {α : Type} [BEq α] (allowed : Option (List α)) (value : α) (text : α → String) : Check :=
  match allowed with
  | some values => Check.unless (!values.contains value) (.notInEnum (values.map text))
  | none => .ok ()

/-- The one value that is allowed, if there is one. -/
def equalTo {α : Type} [BEq α] (const : Option α) (value : α) (text : α → String) : Check :=
  match const with
  | some expected => Check.unless (value != expected) (.constMismatch (text expected))
  | none => .ok ()

end Lexicon
