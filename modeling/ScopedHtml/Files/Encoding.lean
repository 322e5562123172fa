import ScopedHtml.Files.Fault

/-!
# ScopedHtml.Files.Encoding

Texts as sequences of code points, and their bytes.

A text may hold surrogates, which are code points but no characters, each for
itself. UTF-8 has no bytes for them: a text that holds one cannot be encoded, and
the fault names the first run of them.
-/

namespace ScopedHtml.Files

/-- A code point of a text. -/
inductive CodePoint
  | character (c : Char)
  /-- The surrogate this far behind the first one, U+D800. -/
  | surrogate (offset : Fin 0x800)
  deriving DecidableEq, Repr, Inhabited

namespace CodePoint

/-- The number of a code point. -/
def number : CodePoint → Nat
  | character c => c.toNat
  | surrogate offset => 0xD800 + offset

/-- Whether a code point is no character. -/
def isSurrogate : CodePoint → Bool
  | character _ => false
  | surrogate _ => true

/-- The code point where only characters have a place: the replacement character stands
for surrogates. -/
def shown : CodePoint → Char
  | character c => c
  | surrogate _ => '\ufffd'

end CodePoint

/-- The code points of a text without surrogates. -/
def codePoints (text : String) : List CodePoint := text.toList.map .character

/-- The bytes in UTF-8 of the part of a text that begins at a position. -/
def encodedFrom (position : Nat) : List CodePoint → Except Fault (List UInt8)
  | [] => .ok []
  | .character c :: rest => return String.utf8EncodeChar c ++ (← encodedFrom (position + 1) rest)
  | .surrogate offset :: rest =>
      let others := rest.takeWhile CodePoint.isSurrogate
      .error (.unencodable (CodePoint.surrogate offset).number position (position + others.length))

/-- The bytes of a text in UTF-8. -/
def encoded (text : List CodePoint) : Except Fault (List UInt8) := encodedFrom 0 text

end ScopedHtml.Files
