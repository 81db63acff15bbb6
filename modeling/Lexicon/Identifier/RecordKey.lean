namespace Lexicon

/-!
# Keys of records

* `Tid.isValid` — thirteen digits of a base-32 alphabet that sorts as its values do;
* `RecordKey.isValid` — any key that a record may be stored under.
-/

namespace Tid

/-- The digits: `2` to `7`, then the lower-case letters. -/
def isDigit (c : Char) : Bool :=
  ('2' ≤ c && c ≤ '7') || c.isLower

/-- The first digit has only half the values, since a time stamp has 64 bits and the top one is
zero. -/
def isFirstDigit (c : Char) : Bool :=
  ('2' ≤ c && c ≤ '7') || ('a' ≤ c && c ≤ 'j')

/-- Whether a text is a time-stamp identifier. -/
def isValid (s : String) : Bool :=
  let cs := s.toList
  cs.length == 13 && cs.head?.any isFirstDigit && cs.all isDigit

end Tid

namespace RecordKey

/-- The characters of a record key. -/
def isKeyChar (c : Char) : Bool :=
  c.isAlphanum || c == '_' || c == '~' || c == '.' || c == ':' || c == '-'

/-- A record key has at most this many characters. -/
def maxLength : Nat := 512

/-- Whether a text is a record key: the two names that paths give a meaning to are none. -/
def isValid (s : String) : Bool :=
  let cs := s.toList
  s != "." && s != ".." && !cs.isEmpty && cs.length ≤ maxLength && cs.all isKeyChar

end RecordKey

end Lexicon
