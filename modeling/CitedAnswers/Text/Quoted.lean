import CitedAnswers.Text.Invisible

/-! # Quoted text

Error messages show text between double quotes in a form that can be read on one line
(`quoted`): quotes, backslashes, tabs, line ends and NUL have short escapes, and any other character
without a shape of its own is written by its number in hexadecimal.
-/

namespace CitedAnswers.Text

/-- A character as it is written between the quotes. -/
def quoteChar (c : Char) : List Char :=
  if c = '"' then ['\\', '"']
  else if c = '\\' then ['\\', '\\']
  else if c = '\t' then ['\\', 't']
  else if c = '\r' then ['\\', 'r']
  else if c = '\n' then ['\\', 'n']
  else if c.toNat = 0 then ['\\', '0']
  else if isInvisible c then ['\\', 'u', '\x7b'] ++ Nat.toDigits 16 c.toNat ++ ['\x7d']
  else [c]

def quoted (text : String) : String :=
  String.ofList ('"' :: text.toList.flatMap quoteChar ++ ['"'])

end CitedAnswers.Text
