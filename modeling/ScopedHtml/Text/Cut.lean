/-!
# ScopedHtml.Text.Cut

Texts that are cut to a number of bytes.

Some messages show only the first bytes of a text. The characters that fit
stand as they are. A character that begins before the limit and ends behind it is
broken: either the replacement character remains of it (`cut`), or nothing
remains of the whole text (`cutOrNothing`). A text within the limit is not
changed by either.
-/

namespace ScopedHtml.Text

/-- The number of bytes of characters in a row. -/
def byteCount : List Char → Nat
  | [] => 0
  | c :: rest => c.utf8Size + byteCount rest

/-- The characters that fit into `limit` bytes, and the mark of a broken one. -/
def cutChars (limit : Nat) : List Char → List Char
  | [] => []
  | c :: rest =>
      if c.utf8Size ≤ limit then c :: cutChars (limit - c.utf8Size) rest
      else if limit = 0 then []
      else ['\uFFFD']

/-- The text, or as much of it as fits into `limit` bytes. -/
def cut (limit : Nat) (text : String) : String := String.ofList (cutChars limit text.toList)

/-- Whether `limit` bytes end inside one of these characters. -/
def breaks (limit : Nat) : List Char → Bool
  | [] => false
  | c :: rest =>
      if c.utf8Size ≤ limit then breaks (limit - c.utf8Size) rest else limit ≠ 0

/-- The text, or as much of it as fits into `limit` bytes; nothing if they end
inside a character. -/
def cutOrNothing (limit : Nat) (text : String) : String :=
  if breaks limit text.toList then "" else cut limit text

theorem cutChars_of_le {limit : Nat} {chars : List Char} (h : byteCount chars ≤ limit) :
    cutChars limit chars = chars := by
  induction chars generalizing limit with
  | nil => rfl
  | cons c rest ih =>
    rw [byteCount] at h
    have fits : c.utf8Size ≤ limit := by omega
    have below : byteCount rest ≤ limit - c.utf8Size := by omega
    simp [cutChars, fits, ih below]

/-- A text within the limit stays as it is. -/
theorem cut_of_le {limit : Nat} {text : String} (h : byteCount text.toList ≤ limit) :
    cut limit text = text := by
  simp [cut, cutChars_of_le h]

end ScopedHtml.Text
