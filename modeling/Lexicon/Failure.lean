import Lexicon.Kind
import Lexicon.Reference
import Lexicon.Violation

namespace Lexicon

/-!
# Failures

What can go wrong with documents that have been read.

* `ResolutionError` — a reference leads nowhere;
* `Role` — what a definition is needed as;
* `Failure` — any failure, `Failure.message` the same in words.
-/

/-- Why a reference leads to no definition, or to one of no use. -/
inductive ResolutionError where
  | invalidReference (error : ReferenceError)
  | documentNotFound (id : String)
  | definitionNotFound (id name : String)
  /-- References led to references more often than allowed. -/
  | tooManyHops (max : Nat) (path : Path)
  /-- A definition of a kind that describes no value. -/
  | unexpectedKind (kind : Kind) (path : Path)
deriving DecidableEq, Repr

/-- An error in words. -/
def ResolutionError.message : ResolutionError → String
  | invalidReference error => error.message
  | documentNotFound id => "Lexicon not found: " ++ id
  | definitionNotFound id name => "Definition '" ++ name ++ "' not found in lexicon '" ++ id ++ "'"
  | tooManyHops max path =>
    "Reference resolution depth exceeded (max: " ++ toString max ++ ") at " ++ path
  | unexpectedKind kind path => "Unexpected lexicon type \"" ++ kind.name ++ "\" at " ++ path

/-- What a definition is needed as. -/
inductive Role where
  | record
  /-- A query or a procedure. -/
  | call
  | procedure
deriving DecidableEq, Repr

/-- A role in words. -/
def Role.name : Role → String
  | record => "record"
  | call => "query or procedure"
  | procedure => "procedure"

/-- What can go wrong with documents that have been read. -/
inductive Failure where
  /-- A document with the same identifier is there already. -/
  | alreadyRegistered (id : String)
  | resolution (error : ResolutionError)
  | violation (path : Path) (reason : Violation)
  /-- The definition at an address cannot play the role. -/
  | wrongKind (address : Address) (role : Role)
deriving DecidableEq, Repr

/-- A failure in words; a violation at the root has no path. -/
def Failure.message : Failure → String
  | alreadyRegistered id => "Lexicon " ++ id ++ " already registered"
  | resolution error => error.message
  | violation path reason =>
    if path = "" then reason.message else path ++ " " ++ reason.message
  | wrongKind address role => "Lexicon def " ++ address.render ++ " is not a " ++ role.name

end Lexicon
