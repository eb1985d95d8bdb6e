/-!
# Blanks, breaks and comments in TOML

* `isSpace`, `skipSpace` : blanks within a line;
* `dropBreak?` : a line break, which is a line feed with or without a carriage return;
* `isPlain` : the characters of comments, and those that stand for themselves in texts;
* `skipLines` : blanks, breaks and comments;
* `dropLineEnd?` : what is left of a line after its last word, with its break.
-/

namespace Freshness.Toml

def isSpace (c : Char) : Bool := c == ' ' || c == '\t'

def skipSpace (cs : List Char) : List Char := cs.dropWhile isSpace

def dropBreak? : List Char → Option (List Char)
  | '\n' :: rest => some rest
  | '\r' :: '\n' :: rest => some rest
  | _ => none

def isPlain (c : Char) : Bool := c == '\t' || (0x20 ≤ c.toNat && c.toNat != 0x7F)

def skipLines : (inComment : Bool) → List Char → List Char
  | _, [] => []
  | _, '\n' :: rest => skipLines false rest
  | _, '\r' :: '\n' :: rest => skipLines false rest
  | true, c :: rest => if isPlain c then skipLines true rest else c :: rest
  | false, '#' :: rest => skipLines true rest
  | false, c :: rest => if isSpace c then skipLines false rest else c :: rest

/-- The rest after the end of a line, where only blanks and a comment may stand. The text may end
in place of the break. -/
def dropLineEnd? (cs : List Char) : Option (List Char) :=
  let rest := match skipSpace cs with
    | '#' :: rest => rest.dropWhile isPlain
    | rest => rest
  if rest.isEmpty then some [] else dropBreak? rest

@[simp] theorem dropLineEnd?_newline (rest : List Char) :
    dropLineEnd? ('\n' :: rest) = some rest := by
  simp [dropLineEnd?, skipSpace, isSpace, dropBreak?]

end Freshness.Toml
