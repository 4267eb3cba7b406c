import CommonChangelog.Text.Ranges

/-!
# Blanks

A blank is a character with the Unicode property `White_Space`. Trimming, and every "spaces may
stand here" of the line formats, is about these twenty-five characters; the zero-width space is
not one of them.
-/

namespace CommonChangelog.Text

/-- The code points with the property `White_Space`. -/
def blankRanges : Ranges :=
  [(0x9, 0xd), (0x20, 0x20), (0x85, 0x85), (0xa0, 0xa0), (0x1680, 0x1680), (0x2000, 0x200a),
   (0x2028, 0x2029), (0x202f, 0x202f), (0x205f, 0x205f), (0x3000, 0x3000)]

/-- White space of any script. -/
def isBlank (c : Char) : Bool := blankRanges.has c

/-- The text after its leading blanks. -/
def trimStart (s : Text) : Text := s.dropWhile isBlank

/-- The text before its trailing blanks. -/
def trimEnd (s : Text) : Text := (s.reverse.dropWhile isBlank).reverse

/-- The text between its leading and its trailing blanks. -/
def trim (s : Text) : Text := trimEnd (trimStart s)

/-- The text holds nothing but blanks. -/
def allBlank (s : Text) : Bool := s.all isBlank

end CommonChangelog.Text
