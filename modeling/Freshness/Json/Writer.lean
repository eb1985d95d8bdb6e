import Freshness.Json.Basic
import Freshness.Text.Quoted

/-!
# JSON text written

* `Json.escaped` : a text between quotes. The quote, the backslash and the control characters are
  escaped, five of the latter by a letter; all else stands for itself;
* `Json.compact` : a value without blanks;
* `Json.pretty` : a value over several lines, two spaces for each level. Empty lists and objects
  stay on one line.
-/

namespace Freshness.Json

def escapeChar (c : Char) : List Char :=
  if c = '"' then ['\\', '"']
  else if c = '\\' then ['\\', '\\']
  else if c = '\x08' then ['\\', 'b']
  else if c = '\x0c' then ['\\', 'f']
  else if c = '\n' then ['\\', 'n']
  else if c = '\r' then ['\\', 'r']
  else if c = '\t' then ['\\', 't']
  else if c.toNat < 0x20 then
    ['\\', 'u', '0', '0', Nat.digitChar (c.toNat / 16), Nat.digitChar (c.toNat % 16)]
  else [c]

def escaped (s : String) : String := String.ofList ('"' :: s.toList.flatMap escapeChar ++ ['"'])

def escapedName (name : Option String) : String := escaped (name.getD "")

def scalar : Json → String
  | bool true => "true"
  | bool false => "false"
  | int n => toString n
  | real w => w
  | str s => escaped s
  | _ => "null"

mutual

def compact : Json → String
  | arr xs => "[" ++ compactItems xs ++ "]"
  | obj ms => "\x7b" ++ compactMembers ms ++ "\x7d"
  | j => scalar j

def compactItems : List Json → String
  | [] => ""
  | [j] => compact j
  | j :: js => compact j ++ "," ++ compactItems js

def compactMembers : List (Option String × Json) → String
  | [] => ""
  | [(k, j)] => escapedName k ++ ":" ++ compact j
  | (k, j) :: ms => escapedName k ++ ":" ++ compact j ++ "," ++ compactMembers ms

end

def indent (level : Nat) : String := String.ofList ('\n' :: List.replicate (2 * level) ' ')

mutual

/-- A value over several lines, at a level. -/
def prettyAt (level : Nat) : Json → String
  | arr [] => "[]"
  | arr (j :: js) =>
    "[" ++ indent (level + 1) ++ prettyAt (level + 1) j ++ prettyItems (level + 1) js ++
      indent level ++ "]"
  | obj [] => "\x7b\x7d"
  | obj ((k, j) :: ms) =>
    "\x7b" ++ indent (level + 1) ++ escapedName k ++ ": " ++ prettyAt (level + 1) j ++
      prettyMembers (level + 1) ms ++ indent level ++ "\x7d"
  | j => scalar j

def prettyItems (level : Nat) : List Json → String
  | [] => ""
  | j :: js => "," ++ indent level ++ prettyAt level j ++ prettyItems level js

def prettyMembers (level : Nat) : List (Option String × Json) → String
  | [] => ""
  | (k, j) :: ms =>
    "," ++ indent level ++ escapedName k ++ ": " ++ prettyAt level j ++ prettyMembers level ms

end

def pretty (j : Json) : String := prettyAt 0 j

end Freshness.Json
