/-! # Lower case for ASCII patterns

Patterns such as names of settings and fragments of replies are matched against text in lower case.
Their letters are ASCII, so of the full Unicode mapping only what ends in an ASCII letter can take
part in a match: the ASCII capitals, the Kelvin sign, which becomes `k`, and the capital I with dot
above, which becomes `i` and a combining dot.  Every other character is left as it is.
-/

namespace CitedAnswers.Text

/-- The lower-case form of a character, as far as it has ASCII letters. -/
def lowerChar (c : Char) : List Char :=
  if c.toNat = 0x212A then ['k']
  else if c.toNat = 0x130 then ['i', Char.ofNat 0x307]
  else [c.toLower]

def lower (cs : List Char) : List Char :=
  cs.flatMap lowerChar

def occursIn (pattern : List Char) : List Char → Bool
  | [] => pattern.isEmpty
  | c :: cs => pattern.isPrefixOf (c :: cs) || occursIn pattern cs

end CitedAnswers.Text
