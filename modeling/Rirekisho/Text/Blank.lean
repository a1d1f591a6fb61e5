namespace Rirekisho.Text

/-- White space of any script: the characters with the property White_Space. -/
def isWhite (c : Char) : Bool :=
  let n := c.toNat
  (0x09 ≤ n && n ≤ 0x0d) || n == 0x20 || n == 0x85 || n == 0xa0 || n == 0x1680 ||
    (0x2000 ≤ n && n ≤ 0x200a) || n == 0x2028 || n == 0x2029 || n == 0x202f || n == 0x205f ||
    n == 0x3000

/-- White space, and the four information separators of ASCII. -/
def isBlank (c : Char) : Bool :=
  isWhite c || (0x1c ≤ c.toNat && c.toNat ≤ 0x1f)

/-- The list without its last members that satisfy the test. -/
def dropWhileEnd {α : Type} (p : α → Bool) (xs : List α) : List α :=
  (xs.reverse.dropWhile p).reverse

/-- The text without the blanks at its ends. -/
def strip (cs : List Char) : List Char := dropWhileEnd isBlank (cs.dropWhile isBlank)

/-- The text without the white space at its ends. -/
def trim (cs : List Char) : List Char := dropWhileEnd isWhite (cs.dropWhile isWhite)

example : strip " \t a b\x1c\n".toList = "a b".toList := by decide
example : strip " \u3000 ".toList = [] := by decide

end Rirekisho.Text
