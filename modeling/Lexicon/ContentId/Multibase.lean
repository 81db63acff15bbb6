import Lexicon.ContentId.Digits

namespace Lexicon.ContentId

/-!
# Multibase

A multibase text starts with a character that says how the rest denotes bytes.

* `Encoding` — the ways in which a text denotes bytes;
* `Encoding.ofCode?` — the encoding that a first character announces;
* `Encoding.decode?`, `multibase?` — the bytes of a text.
-/

/-! ### Alphabets -/

/-- The digits 0 to 9. -/
def decimalDigits : List Char := "0123456789".toList

/-- The lower-case letters. -/
def lowerLetters : List Char := "abcdefghijklmnopqrstuvwxyz".toList

/-- An alphabet with its letters in upper case. -/
def upper (alphabet : List Char) : List Char := alphabet.map Char.toUpper

/-- Base 16. -/
def base16 : List Char := decimalDigits ++ lowerLetters.take 6

/-- Base 32: the letters and the digits from 2 to 7. -/
def base32 : List Char := lowerLetters ++ "234567".toList

/-- Base 32 in the order of values: the digits and the letters up to `v`. -/
def base32Hex : List Char := decimalDigits ++ lowerLetters.take 22

/-- Base 32 with an alphabet made for reading aloud. -/
def base32Human : List Char := "ybndrfg8ejkmcpqxot1uwisza345h769".toList

/-- Base 36. -/
def base36 : List Char := decimalDigits ++ lowerLetters

/-- Base 45: the characters of the alphanumeric mode of QR codes. -/
def base45 : List Char := decimalDigits ++ upper lowerLetters ++ " $%*+-./:".toList

/-- Base 58, upper-case letters first; the look-alikes `0`, `O`, `I` and `l` are left out. -/
def base58 : List Char := "123456789ABCDEFGHJKLMNPQRSTUVWXYZabcdefghijkmnopqrstuvwxyz".toList

/-- Base 58, lower-case letters first. -/
def base58Lower : List Char := "123456789abcdefghijkmnopqrstuvwxyzABCDEFGHJKLMNPQRSTUVWXYZ".toList

/-- Base 64. -/
def base64 : List Char := upper lowerLetters ++ lowerLetters ++ decimalDigits ++ ['+', '/']

/-- Base 64 with characters that need no escape in addresses. -/
def base64Url : List Char := upper lowerLetters ++ lowerLetters ++ decimalDigits ++ ['-', '_']

/-- Base 256: one emoji for every byte. -/
def emoji : List Char :=
  ("🚀🪐☄🛰🌌🌑🌒🌓🌔🌕🌖🌗🌘🌍🌏🌎🐉☀💻🖥💾💿😂❤😍🤣😊🙏💕😭😘👍😅👏😁🔥🥰💔💖💙" ++
   "😢🤔😆🙄💪😉☺👌🤗💜😔😎😇🌹🤦🎉💞✌✨🤷😱😌🌸🙌😋💗💚😏💛🙂💓🤩😄😀🖤😃💯🙈👇🎶" ++
   "😒🤭❣😜💋👀😪😑💥🙋😞😩😡🤪👊🥳😥🤤👉💃😳✋😚😝😴🌟😬🙃🍀🌷😻😓⭐✅🥺🌈😈🤘💦✔" ++
   "😣🏃💐☹🎊💘😠☝😕🌺🎂🌻😐🖕💝🙊😹🗣💫💀👑🎵🤞😛🔴😤🌼😫⚽🤙☕🏆🤫👈😮🙆🍻🍃🐶💁" ++
   "😲🌿🧡🎁⚡🌞🎈❌✊👋😰🤨😶🤝🚶💰🍓💢🤟🙁🚨💨🤬✈🎀🍺🤓😙💟🌱😖👶🥴▶➡❓💎💸⬇😨" ++
   "🌚🦋😷🕺⚠🙅😟😵👎🤲🤠🤧📌🔵💅🧐🐾🍒😗🤑🌊🤯🐷☎💧😯💆👆🎤🙇🍑❄🌴💣🐸💌📍🥀🤢👅" ++
   "💡💩👐📸👻🤐🤮🎼🥵🚩🍎🍊👼💍📣🥂").toList

/-! ### Encodings -/

/-- The ways in which a text denotes bytes. -/
inductive Encoding where
  /-- The bytes are those of the text itself. -/
  | identity
  /-- Groups of `width` bits. -/
  | bits (width : Nat) (alphabet : List Char)
  /-- Groups of `width` bits in blocks of `size` characters. -/
  | paddedBits (width size : Nat) (alphabet : List Char)
  /-- One number. -/
  | radix (alphabet : List Char)
  /-- Three digits for two bytes. -/
  | triples (alphabet : List Char)
  /-- An encoding in lower-case letters, any of which may be written in upper case too. -/
  | anyCase (encoding : Encoding)

namespace Encoding

/-- The encoding that the first character of a multibase text announces. -/
def ofCode? : Char → Option Encoding
  | '\x00' => some .identity
  | '0' => some (.bits 1 (decimalDigits.take 2))
  | '7' => some (.bits 3 (decimalDigits.take 8))
  | '9' => some (.radix decimalDigits)
  | 'f' | 'F' => some (.anyCase (.bits 4 base16))
  | 'b' | 'B' => some (.anyCase (.bits 5 base32))
  | 'c' | 'C' => some (.anyCase (.paddedBits 5 8 base32))
  | 'v' | 'V' => some (.anyCase (.bits 5 base32Hex))
  | 't' | 'T' => some (.anyCase (.paddedBits 5 8 base32Hex))
  | 'h' => some (.bits 5 base32Human)
  | 'k' | 'K' => some (.anyCase (.radix base36))
  | 'R' => some (.triples base45)
  | 'z' => some (.radix base58)
  | 'Z' => some (.radix base58Lower)
  | 'm' => some (.bits 6 base64)
  | 'M' => some (.paddedBits 6 4 base64)
  | 'u' => some (.bits 6 base64Url)
  | 'U' => some (.paddedBits 6 4 base64Url)
  | '🚀' => some (.bits 8 emoji)
  | _ => none

/-- The bytes that a text denotes. -/
def decode? : Encoding → List Char → Option (List UInt8)
  | identity, cs => some (String.ofList cs).toUTF8.toList
  | bits width alphabet, cs => ofBits? width alphabet cs
  | paddedBits width size alphabet, cs => ofPaddedBits? width size alphabet cs
  | radix alphabet, cs => ofRadix? alphabet cs
  | triples alphabet, cs => (digits? alphabet cs).bind (ofTriples? alphabet.length)
  | anyCase encoding, cs => encoding.decode? (cs.map Char.toLower)

end Encoding

/-- The bytes of a multibase text. -/
def multibase? : List Char → Option (List UInt8)
  | [] => none
  | code :: cs => (Encoding.ofCode? code).bind (·.decode? cs)

end Lexicon.ContentId
