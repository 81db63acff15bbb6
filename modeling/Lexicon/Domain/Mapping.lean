import Lexicon.Domain.MappingTable

namespace Lexicon.Domain

open Lexicon.Unicode

/-!
# Mapping of domain names

Before a domain name is looked up, its characters are brought to one form: case and width do not
count, and a few characters do not count at all.

* `Treatment`, `treatment` — what happens to a character;
* `mapName?` — a whole name.
-/

/-- What happens to a character of a domain name. -/
inductive Treatment where
  | valid
  | ignored
  | mapped (targets : List Char)
  | disallowed
deriving DecidableEq, Repr

/-- The replacement of a character by a row of the table. -/
def replacement (c : Char) (row : Row (List Nat)) : List Char :=
  match row.value with
  | [] => []
  | target :: targets => ((target + (c.toNat - row.first)) :: targets).map Char.ofNat

/-- The treatment of a character.  In ASCII, only the case is changed. -/
def treatment (c : Char) : Treatment :=
  if c.toNat < 0x80 then
    if c.isUpper then .mapped [c.toLower] else .valid
  else if validSet.contains c then .valid
  else if ignoredSet.contains c then .ignored
  else
    match mappedTable.row? c with
    | some row => .mapped (replacement c row)
    | none => .disallowed

/-- What a character contributes to the name. -/
def mapChar? (c : Char) : Option (List Char) :=
  match treatment c with
  | .valid => some [c]
  | .ignored => some []
  | .mapped targets => some targets
  | .disallowed => none

/-- The name with every character replaced; `none` if a character is disallowed. -/
def mapName? (cs : List Char) : Option (List Char) :=
  (cs.mapM mapChar?).map List.flatten

end Lexicon.Domain
