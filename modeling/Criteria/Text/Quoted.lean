import Criteria.Text.HiddenTable

/-!
# Quoted text

A text in double quotes, for messages: quotes and backslashes are
escaped, the common controls have letters of their own, and every other
character that cannot be seen is named by its code point.
-/

namespace Criteria.Text

/-- The digits of `n` in base sixteen, small letters, no padding. -/
def hex (n : Nat) : List Char := Nat.toDigits 16 n

def quoteChar (c : Char) : List Char :=
  if c = '"' then ['\\', '"']
  else if c = '\\' then ['\\', '\\']
  else if c = '\n' then ['\\', 'n']
  else if c = '\r' then ['\\', 'r']
  else if c = '\t' then ['\\', 't']
  else if c.toNat = 0 then ['\\', '0']
  else if hidden.contains c then ['\\', 'u', '\x7b'] ++ hex c.toNat ++ ['\x7d']
  else [c]

def quoted (s : String) : String :=
  String.ofList ('"' :: s.toList.flatMap quoteChar ++ ['"'])

end Criteria.Text
