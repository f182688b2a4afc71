/-! Blanks around texts, and names that refine other names. -/
namespace IdlLint.Text

/-- White space of any script, the information separators included. -/
def isBlank (c : Char) : Bool :=
  let n := c.toNat
  (9 ≤ n && n ≤ 13) || (28 ≤ n && n ≤ 32) || n == 133 || n == 160 || n == 5760 ||
    (8192 ≤ n && n ≤ 8202) || n == 8232 || n == 8233 || n == 8239 || n == 8287 || n == 12288

/-- The text without the blanks at its ends. -/
def trim (text : List Char) : List Char :=
  ((text.dropWhile isBlank).reverse.dropWhile isBlank).reverse

/-- Whether `text` is `start` or continues it after a full stop. -/
def refines (text start : String) : Bool :=
  text == start || (start.toList ++ ['.']).isPrefixOf text.toList

end IdlLint.Text
