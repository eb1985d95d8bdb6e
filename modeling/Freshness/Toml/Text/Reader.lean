import Freshness.Text.Digits
import Freshness.Toml.Blank

/-!
# TOML texts read

A text has one of four forms. Between single marks it stays within a line, between threefold ones it
may have several; between quotes a backslash starts an escape, between apostrophes nothing does.

* `readBasic`, `readLiteral` : texts within a line, after the opening mark;
* `readLongBasic`, `readLongLiteral` : texts of several lines. Up to two marks may stand right
  before the closing three; a line break is read as a line feed, and one right after the opening
  marks is left out;
* `readText?` : a text in any form.
-/

namespace Freshness.Toml

/-- One more character in front of a text that is read. -/
def andChar (c : Char) (read : Option (List Char × List Char)) : Option (List Char × List Char) :=
  read.map fun (cs, rest) => (c :: cs, rest)

@[simp] theorem andChar_some (c : Char) (cs rest : List Char) :
    andChar c (some (cs, rest)) = some (c :: cs, rest) := rfl

/-- The character with the number that hexadecimal digits stand for. -/
def ofHex? (ds : List Char) : Option Char :=
  (Text.ofDigits? 16 ds).bind fun n => if n.isValidChar then some (Char.ofNat n) else none

/-- The character behind an escape of one letter. -/
def ofLetter? : Char → Option Char
  | 'b' => some '\x08'
  | 't' => some '\t'
  | 'n' => some '\n'
  | 'f' => some '\x0c'
  | 'r' => some '\r'
  | '"' => some '"'
  | '\\' => some '\\'
  | _ => none

def readBasic : List Char → Option (List Char × List Char)
  | [] => none
  | '"' :: rest => some ([], rest)
  | '\\' :: 'u' :: a :: b :: c :: d :: rest =>
    (ofHex? [a, b, c, d]).bind fun x => andChar x (readBasic rest)
  | '\\' :: 'U' :: a :: b :: c :: d :: e :: f :: g :: h :: rest =>
    (ofHex? [a, b, c, d, e, f, g, h]).bind fun x => andChar x (readBasic rest)
  | '\\' :: e :: rest => (ofLetter? e).bind fun x => andChar x (readBasic rest)
  | c :: rest => if isPlain c ∧ c ≠ '\\' then andChar c (readBasic rest) else none

/-- A text of several lines, after its quotes. A backslash at the end of a line joins it with the
next word: while `joining`, blanks and breaks are left out. -/
def readLongBasic : (joining : Bool) → List Char → Option (List Char × List Char)
  | _, [] => none
  | true, ' ' :: rest => readLongBasic true rest
  | true, '\t' :: rest => readLongBasic true rest
  | true, '\n' :: rest => readLongBasic true rest
  | true, '\r' :: '\n' :: rest => readLongBasic true rest
  | _, '"' :: '"' :: '"' :: '"' :: '"' :: rest => some (['"', '"'], rest)
  | _, '"' :: '"' :: '"' :: '"' :: rest => some (['"'], rest)
  | _, '"' :: '"' :: '"' :: rest => some ([], rest)
  | _, '\n' :: rest => andChar '\n' (readLongBasic false rest)
  | _, '\r' :: '\n' :: rest => andChar '\n' (readLongBasic false rest)
  | _, '\\' :: 'u' :: a :: b :: c :: d :: rest =>
    (ofHex? [a, b, c, d]).bind fun x => andChar x (readLongBasic false rest)
  | _, '\\' :: 'U' :: a :: b :: c :: d :: e :: f :: g :: h :: rest =>
    (ofHex? [a, b, c, d, e, f, g, h]).bind fun x => andChar x (readLongBasic false rest)
  | _, '\\' :: e :: rest =>
    match ofLetter? e with
    | some x => andChar x (readLongBasic false rest)
    | none => if (dropBreak? (skipSpace (e :: rest))).isSome then readLongBasic true rest else none
  | _, c :: rest => if isPlain c ∧ c ≠ '\\' then andChar c (readLongBasic false rest) else none

def readLiteral : List Char → Option (List Char × List Char)
  | [] => none
  | '\'' :: rest => some ([], rest)
  | c :: rest => if isPlain c then andChar c (readLiteral rest) else none

def readLongLiteral : List Char → Option (List Char × List Char)
  | [] => none
  | '\'' :: '\'' :: '\'' :: '\'' :: '\'' :: rest => some (['\'', '\''], rest)
  | '\'' :: '\'' :: '\'' :: '\'' :: rest => some (['\''], rest)
  | '\'' :: '\'' :: '\'' :: rest => some ([], rest)
  | '\n' :: rest => andChar '\n' (readLongLiteral rest)
  | '\r' :: '\n' :: rest => andChar '\n' (readLongLiteral rest)
  | c :: rest => if isPlain c then andChar c (readLongLiteral rest) else none

def skipBreak (cs : List Char) : List Char := (dropBreak? cs).getD cs

def readText? : List Char → Option (List Char × List Char)
  | '"' :: '"' :: '"' :: rest => readLongBasic false (skipBreak rest)
  | '"' :: rest => readBasic rest
  | '\'' :: '\'' :: '\'' :: rest => readLongLiteral (skipBreak rest)
  | '\'' :: rest => readLiteral rest
  | _ => none

end Freshness.Toml
