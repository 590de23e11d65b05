/-!
# Blank characters

`isBlank` holds of the white space of Unicode and of the four information separators
`U+001C` to `U+001F`; a zero-width space is no blank. `strip` takes blanks off both ends.
-/

namespace RaceBook.Text

/-- The blanks outside ASCII. -/
def isWideBlank (c : Char) : Bool :=
  let n := c.toNat
  n = 0x85 || n = 0xA0 || n = 0x1680 || (0x2000 ≤ n && n ≤ 0x200A) || n = 0x2028 || n = 0x2029 ||
    n = 0x202F || n = 0x205F || n = 0x3000

/-- White space that a typewriter knows: tabs, line and page ends and the blank itself. -/
def isPlainBlank (c : Char) : Bool :=
  let n := c.toNat
  (0x09 ≤ n && n ≤ 0x0D) || n = 0x20

def isBlank (c : Char) : Bool :=
  isPlainBlank c || (0x1C ≤ c.toNat && c.toNat ≤ 0x1F) || isWideBlank c

/-- Takes the characters of a class off both ends. -/
def trim (blank : Char → Bool) (cs : List Char) : List Char :=
  ((cs.dropWhile blank).reverse.dropWhile blank).reverse

def strip (s : String) : String := String.ofList (trim isBlank s.toList)

end RaceBook.Text
