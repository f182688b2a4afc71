/-! Texts as lists of code points. Unlike a string, such a list may hold halves of surrogate pairs. -/
namespace IdlLint

/-- The code point of a character, or of one half of a surrogate pair. -/
abbrev CodePoint := Fin 0x110000

abbrev CodeText := List CodePoint

namespace Text

def point (c : Char) : CodePoint :=
  ⟨c.toNat, c.valid.elim (fun small => Nat.lt_trans small (by decide)) (·.2)⟩

def points (text : String) : CodeText :=
  text.toList.map point

end Text

end IdlLint
