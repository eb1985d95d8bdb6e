/-!
# TOML texts written

* `Form`, `formOf` : the form that a text is written in, which is the plainest that can hold it;
* `writeText` : the text in that form.

A text with control characters other than tab and line feed is written with escapes. Any other is
written without, but for tabs, if quotes, apostrophes, threefold quotes or threefold apostrophes can
stand around it, tried in this order.
-/

namespace Freshness.Toml

inductive Form where
  | basic
  | literal
  | longBasic
  | longLiteral
deriving DecidableEq, Repr

/-- A control character that only an escape can stand for. -/
def isCode (c : Char) : Bool := (c.toNat < 0x20 && c != '\t' && c != '\n') || c.toNat == 0x7F

def hasThree (mark : Char) : List Char → Bool
  | a :: b :: c :: rest => (a == mark && b == mark && c == mark) || hasThree mark (b :: c :: rest)
  | _ => false

def formOf (cs : List Char) : Form :=
  let codes := cs.any isCode
  let slash := cs.contains '\\'
  let lines := cs.contains '\n'
  if !codes && !slash && !lines && !cs.contains '"' then .basic
  else if !codes && !lines && !cs.contains '\'' then .literal
  else if !codes && !slash && !hasThree '"' cs then .longBasic
  else if !codes && !hasThree '\'' cs then .longLiteral
  else if lines then .longBasic
  else .basic

def hexChar (d : Nat) : Char := (Nat.digitChar d).toUpper

def writeChar (c : Char) : List Char :=
  if c = '\\' then ['\\', '\\']
  else if c = '"' then ['\\', '"']
  else if c = '\t' then ['\\', 't']
  else if c = '\n' then ['\\', 'n']
  else if c = '\x08' then ['\\', 'b']
  else if c = '\x0c' then ['\\', 'f']
  else if c = '\r' then ['\\', 'r']
  else if isCode c then
    ['\\', 'u', '0', '0', hexChar (c.toNat / 16), hexChar (c.toNat % 16)]
  else [c]

def writeBasic (cs : List Char) : List Char := cs.flatMap writeChar

/-- A text between threefold quotes, after `quotes` quotes in a row: the third one is escaped. -/
def writeLongBasic : (quotes : Nat) → List Char → List Char
  | _, [] => []
  | quotes, c :: cs =>
    if c = '"' ∧ quotes < 2 then '"' :: writeLongBasic (quotes + 1) cs
    else if c = '\n' then '\n' :: writeLongBasic 0 cs
    else writeChar c ++ writeLongBasic 0 cs

/-- The line break that opens a text of several lines. -/
def openingBreak (cs : List Char) : List Char := if cs.contains '\n' then ['\n'] else []

def writeAs (cs : List Char) : Form → List Char
  | .basic => '"' :: writeBasic cs ++ ['"']
  | .literal => '\'' :: cs ++ ['\'']
  | .longBasic =>
    ['"', '"', '"'] ++ openingBreak cs ++ writeLongBasic 0 cs ++ ['"', '"', '"']
  | .longLiteral =>
    ['\'', '\'', '\''] ++ openingBreak cs ++ cs ++ ['\'', '\'', '\'']

def writeText (cs : List Char) : List Char := writeAs cs (formOf cs)

example : writeText "it's".toList = "\"it's\"".toList := by decide +kernel
example : writeText "a\\b".toList = "'a\\b'".toList := by decide +kernel
example : writeText "a\nb".toList = "\"\"\"\na\nb\"\"\"".toList := by decide +kernel
example : writeText "a\x7f".toList = "\"a\\u007F\"".toList := by decide +kernel

end Freshness.Toml
