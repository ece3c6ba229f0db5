import EventTickets.Text.Unprintable

/-!
# Texts quoted in messages

A text put into a message stands in double quotes. Quotes and backslashes in it get a backslash,
tab, carriage return, newline and NUL their letters, and other unprintable characters their code
point in hexadecimal.
-/

namespace EventTickets.Text

def quoteChar (c : Char) : List Char :=
  if c = '"' then ['\\', '"']
  else if c = '\\' then ['\\', '\\']
  else if c = '\t' then ['\\', 't']
  else if c = '\r' then ['\\', 'r']
  else if c = '\n' then ['\\', 'n']
  else if c.toNat = 0 then ['\\', '0']
  else if isUnprintable c then ['\\', 'u', '\x7b'] ++ Nat.toDigits 16 c.toNat ++ ['\x7d']
  else [c]

def quoted (s : String) : String := String.ofList ('"' :: s.toList.flatMap quoteChar ++ ['"'])

end EventTickets.Text
