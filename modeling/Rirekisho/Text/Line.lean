namespace Rirekisho.Text

/-- The character ends a line. -/
def isBoundary (c : Char) : Bool :=
  let n := c.toNat
  (0x0a ≤ n && n ≤ 0x0d) || (0x1c ≤ n && n ≤ 0x1e) || n == 0x85 || n == 0x2028 || n == 0x2029

/-- The lines of a text, without their ends. -/
def lines : List Char → List (List Char)
  | [] => []
  | '\r' :: '\n' :: rest => [] :: lines rest
  | c :: rest =>
    if isBoundary c then [] :: lines rest
    else match lines rest with
      | [] => [[c]]
      | line :: more => (c :: line) :: more

/-- The parts of a text between the occurrences of a separator: always one more than those. -/
def split (separator : Char) : List Char → List (List Char)
  | [] => [[]]
  | c :: rest =>
    if c = separator then [] :: split separator rest
    else match split separator rest with
      | [] => [[c]]
      | part :: more => (c :: part) :: more

/-- Every end of a line written as a line feed: a carriage return, alone or before one, becomes it. -/
def unifyNewlines : List Char → List Char
  | [] => []
  | '\r' :: '\n' :: rest => '\n' :: unifyNewlines rest
  | c :: rest => (if c = '\r' then '\n' else c) :: unifyNewlines rest

example : lines "a\r\nb\rc\u2028\n".toList = ["a".toList, "b".toList, "c".toList, []] := by decide
example : split ',' "a,,b".toList = ["a".toList, [], "b".toList] := by decide
example : unifyNewlines "a\r\n\rb".toList = "a\n\nb".toList := by decide

theorem split_ne_nil (separator : Char) (cs : List Char) : split separator cs ≠ [] := by
  cases cs with
  | nil => simp [split]
  | cons c rest =>
    simp only [split]
    split
    · simp
    · split <;> simp

end Rirekisho.Text
