/-!
# ASCII letter case

Keywords and type names are compared without regard to the case of the ASCII letters.
Letters outside ASCII keep their case, so no other text is taken for a keyword.
-/

set_option autoImplicit false

namespace ForeignTable.Text

/-- Turns the ASCII capital letters into small ones and keeps everything else. -/
def lower (text : List Char) : List Char := text.map Char.toLower

def sameLetters (left right : List Char) : Bool := lower left == lower right

end ForeignTable.Text
