import Lexicon.Unicode.Blank
import Lexicon.Uri.Host

namespace Lexicon.Uri

open Lexicon.Text Lexicon.Unicode

/-!
# Absolute URIs

A URI is a scheme and what the scheme makes of the rest.  Most of what can follow is repaired rather
than refused, so that an address fails only through its scheme, its user information, its host or
its port.

* `cutScheme?` — the scheme and what follows it;
* `SchemeKind` — the three ways of reading what follows;
* `cutUser` — user information in front of a host;
* `cutHost`, `portIsValid` — a host and what follows it;
* `authorityIsValid`, `fileIsValid` — what may follow two slashes;
* `isValid` — whether a text is an absolute URI.
-/

/-! ### Schemes -/

/-- The characters of a scheme after its first letter. -/
def isSchemeChar (c : Char) : Bool :=
  c.isAlphanum || c == '+' || c == '-' || c == '.'

/-- The scheme in front of the first colon, and what follows the colon. -/
def cutScheme? (cs : List Char) : Option (List Char × List Char) :=
  match cutAt? ':' cs with
  | some (scheme, rest) =>
    if scheme.head?.any Char.isAlpha && scheme.all isSchemeChar then some (scheme, rest) else none
  | none => none

/-- The ways in which schemes read what follows them. -/
inductive SchemeKind where
  /-- Files, whose host may be missing. -/
  | file
  /-- Schemes that always have a host, which is looked up by its name. -/
  | network
  /-- All others. -/
  | other
deriving DecidableEq, Repr

/-- The kind of a scheme; case does not count. -/
def SchemeKind.ofScheme (scheme : List Char) : SchemeKind :=
  let name := String.ofList (scheme.map Char.toLower)
  if name = "file" then .file
  else if ["http", "https", "ws", "wss", "ftp"].contains name then .network
  else .other

/-- Whether a backslash counts as a slash, as it does where names are looked up. -/
def SchemeKind.isSlash (kind : SchemeKind) (c : Char) : Bool :=
  c == '/' || (kind != .other && c == '\\')

/-- Whether a character ends the authority of an address. -/
def SchemeKind.endsAuthority (kind : SchemeKind) (c : Char) : Bool :=
  kind.isSlash c || c == '?' || c == '#'

/-! ### User information -/

/-- The text before and the text after the last `@` of a text. -/
def cutAtLast? (cs : List Char) : Option (List Char × List Char) :=
  match cs.reverse.span (· != '@') with
  | (after, _ :: before) => some (before.reverse, after.reverse)
  | (_, []) => none

/-- The user information of an authority, if it has some, and what follows it. -/
def cutUser (kind : SchemeKind) (cs : List Char) : Option (List Char) × List Char :=
  let (authority, rest) := cs.span fun c => !kind.endsAuthority c
  match cutAtLast? authority with
  | some (user, host) => (some user, host ++ rest)
  | none => (none, cs)

/-- Whether user information names a user or has a password; a colon alone does neither. -/
def namesUser (user : List Char) : Bool :=
  user != [] && user != [':']

/-! ### Hosts and ports -/

/-- The host in front of a colon or the end of the authority, and the rest; colons between brackets
belong to the host. -/
def cutHost (kind : SchemeKind) : (inBrackets : Bool) → List Char → List Char × List Char
  | _, [] => ([], [])
  | inBrackets, c :: cs =>
    if kind.endsAuthority c || (c == ':' && !inBrackets) then ([], c :: cs)
    else
      let inBrackets := c == '[' || (inBrackets && c != ']')
      let (host, rest) := cutHost kind inBrackets cs
      (c :: host, rest)

/-- Whether what follows a host is no port, or a number of 16 bits up to the end of the
authority. -/
def portIsValid : List Char → Bool
  | ':' :: cs =>
    let (digits, rest) := cs.span Char.isDigit
    digits.foldl (fun n c => 10 * n + (c.toNat - '0'.toNat)) 0 ≤ 65535 &&
      rest.head?.all fun c => c == '/' || c == '\\' || c == '?' || c == '#'
  | _ => true

/-! ### What follows a scheme -/

/-- Whether a text after two slashes has a proper user, host and port.  Only a scheme that does not
look names up may leave the host empty, and then there is neither a user nor a port. -/
def authorityIsValid (kind : SchemeKind) (cs : List Char) : Bool :=
  let (user, cs) := cutUser kind cs
  let (host, rest) := cutHost kind false cs
  if host.isEmpty then
    kind == .other && rest.head? != some ':' &&
      match user with
      | none => true
      | some user => !namesUser user && (!user.isEmpty || rest.isEmpty)
  else (if kind = .other then opaqueIsValid host else domainIsValid host) && portIsValid rest

/-- Whether a text is a letter with the mark of a disk drive. -/
def isDrive : List Char → Bool
  | [letter, mark] => letter.isAlpha && (mark == ':' || mark == '|')
  | _ => false

/-- Whether a text after the scheme of files names a file: a host, if there is one, follows two
slashes, and is not a drive. -/
def fileIsValid : List Char → Bool
  | a :: b :: cs =>
    if SchemeKind.file.isSlash a && SchemeKind.file.isSlash b then
      let host := cs.takeWhile fun c => !SchemeKind.file.endsAuthority c
      host.isEmpty || isDrive host || domainIsValid host
    else true
  | _ => true

/-- Whether a text may follow a scheme. -/
def restIsValid (kind : SchemeKind) (cs : List Char) : Bool :=
  match kind with
  | .file => fileIsValid cs
  -- However many slashes there are, a host follows.
  | .network => authorityIsValid kind (cs.dropWhile kind.isSlash)
  | .other =>
    match cs with
    | '/' :: '/' :: cs => authorityIsValid kind cs
    | _ => true

/-- Control characters and blanks at the ends of an address do not count. -/
def trim (cs : List Char) : List Char :=
  let isTrimmed := fun c : Char => c.toNat ≤ 0x20
  ((cs.dropWhile isTrimmed).reverse.dropWhile isTrimmed).reverse

/-- Whether a text is an absolute URI.  No blank may occur in it. -/
def isValid (s : String) : Bool :=
  !s.toList.any isBlank &&
    (cutScheme? (trim s.toList)).any fun (scheme, rest) => restIsValid (.ofScheme scheme) rest

end Lexicon.Uri
