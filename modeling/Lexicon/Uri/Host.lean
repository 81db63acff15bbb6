import Lexicon.Domain.Name
import Lexicon.Uri.Ipv4
import Lexicon.Uri.Ipv6

namespace Lexicon.Uri

open Lexicon.Unicode

/-!
# Hosts

* `percentDecode` — the bytes of a text in which some are written as `%41`;
* `bracketed?` — the address between brackets;
* `domainIsValid` — a host of the schemes that resolve names;
* `opaqueIsValid` — a host of any other scheme, which is not looked into.
-/

/-- The bytes of a text whose escapes are resolved; a percent sign without two digits stands for
itself. -/
def percentDecode : List UInt8 → List UInt8
  | 0x25 :: a :: b :: bytes =>
    match hexDigit? (.ofNat a.toNat), hexDigit? (.ofNat b.toNat) with
    | some high, some low => .ofNat (16 * high + low) :: percentDecode bytes
    | _, _ => 0x25 :: percentDecode (a :: b :: bytes)
  | byte :: bytes => byte :: percentDecode bytes
  | [] => []

/-- The text whose escapes are resolved, if it is text at all. -/
def percentDecoded? (cs : List Char) : Option (List Char) :=
  let bytes := percentDecode (String.ofList cs).toUTF8.toList
  (String.fromUTF8? ⟨bytes.toArray⟩).map String.toList

/-- The text between an opening bracket at the start and a closing one at the end. -/
def bracketed? : List Char → Option (List Char)
  | '[' :: cs => if cs.getLast? = some ']' then some cs.dropLast else none
  | _ => none

/-- Whether a text that is no address in brackets is a domain name or a numeric host. -/
def nameIsValid (cs : List Char) : Bool :=
  match (percentDecoded? cs).bind Domain.labels? with
  | none => false
  | some labels =>
    labels != [[]] && (!Ipv4.endsInNumber labels || Ipv4.isValid labels)

/-- Whether a text is a host of a scheme that resolves names. -/
def domainIsValid (cs : List Char) : Bool :=
  if cs.head? = some '[' then (bracketed? cs).any Ipv6.isValid else nameIsValid cs

/-- The characters that end a host or have a meaning around it. -/
def forbiddenInHost : List Char :=
  ['\x00', '\t', '\n', '\r', ' ', '#', '/', ':', '<', '>', '?', '@', '[', '\\', ']', '^', '|']

/-- Whether a text is a host of a scheme that does not resolve names. -/
def opaqueIsValid (cs : List Char) : Bool :=
  if cs.head? = some '[' then (bracketed? cs).any Ipv6.isValid else !cs.any forbiddenInHost.contains

end Lexicon.Uri
