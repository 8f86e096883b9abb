import CitedAnswers.Text.Utf8

/-! # Character sets

Octets may come with the name of a character set, and are read by that set.  Which names there are
and how each set is read is left open: `Charsets` is any table of sets of which two things hold.
Nothing is read of no octets, and octets without a name are UTF-8, unless they begin with a byte
order mark.
-/

namespace CitedAnswers.Text

/-- Whether octets begin with a byte order mark, of UTF-8 or of UTF-16 in either order. -/
def isMarked : List UInt8 → Bool
  | 0xEF :: 0xBB :: 0xBF :: _ => true
  | 0xFF :: 0xFE :: _ => true
  | 0xFE :: 0xFF :: _ => true
  | _ => false

/-- How octets are read that come with the name of a character set, or without one. -/
structure Charsets where
  read : (name : Option String) → List UInt8 → String
  read_nil : ∀ name, read name [] = ""
  read_unmarked : ∀ bytes, isMarked bytes = false → read none bytes = lossy bytes

/-- The table without any names: all octets are UTF-8. -/
def Charsets.utf8Only : Charsets where
  read _ := lossy
  read_nil _ := rfl
  read_unmarked _ _ := rfl

end CitedAnswers.Text
