import Lexicon.Unicode.Cluster

namespace Lexicon.Text

/-!
# Lengths of strings

* `utf16Length` — in UTF-16 code units;
* `graphemeLength` — in extended grapheme clusters.
-/

/-- The number of UTF-16 code units of a character: two beyond the first plane. -/
def utf16Units (c : Char) : Nat :=
  if c.toNat < 0x10000 then 1 else 2

/-- The length of a string in UTF-16 code units. -/
def utf16Length (s : String) : Nat :=
  s.toList.foldr (fun c units => utf16Units c + units) 0

/-- The length of a string in extended grapheme clusters. -/
def graphemeLength (s : String) : Nat :=
  Unicode.clusterCount s.toList

end Lexicon.Text
