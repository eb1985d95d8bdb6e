import Freshness.Text.Extending
import Freshness.Text.Hidden

/-!
# Quoted text for diagnostics

Names and messages appear in diagnostics between double quotes, so that every character of them
can be seen.

* `hex` : lower-case hexadecimal digits of a number;
* `quoteChar` : one character between the quotes. NUL, tab, line feed, carriage return, the quote
  and the backslash have an escape of two characters; what would combine with its neighbour or
  show nothing is written by its code point; all else stands for itself;
* `quoted` : the whole text.
-/

namespace Freshness.Text

def hex (n : Nat) : List Char := Nat.toDigits 16 n

def byCodePoint (c : Char) : List Char := ['\\', 'u', '\x7b'] ++ hex c.toNat ++ ['\x7d']

def quoteChar (c : Char) : List Char :=
  if c = '\x00' then ['\\', '0']
  else if c = '\t' then ['\\', 't']
  else if c = '\n' then ['\\', 'n']
  else if c = '\r' then ['\\', 'r']
  else if c = '"' then ['\\', '"']
  else if c = '\\' then ['\\', '\\']
  else if isExtending c || isHidden c then byCodePoint c
  else [c]

def quoted (s : String) : String :=
  String.ofList ('"' :: s.toList.flatMap quoteChar ++ ['"'])

end Freshness.Text
