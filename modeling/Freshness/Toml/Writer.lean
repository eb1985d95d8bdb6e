import Freshness.Toml.Number
import Freshness.Toml.Text.Writer

/-!
# TOML documents written

A document is written as tables with headers, whose values have no parts and whose names are bare.

* `Section` : a table;
* `writeScalar`, `writeSection`, `writeSections` : a value, a table, and tables with a blank line
  between them;
* `render?` : the document, `none` if an integer is out of range.
-/

namespace Freshness.Toml

/-- A table whose values have no parts. -/
structure Section where
  name : String
  entries : List (String × Scalar)
deriving DecidableEq, Repr

def writeScalar : Scalar → List Char
  | .text s => writeText s.toList
  | .integer n => writeInteger n
  | .real written | .moment written => written.toList
  | .boolean b => (if b then "true" else "false").toList

def writeEntry (e : String × Scalar) : List Char :=
  e.1.toList ++ " = ".toList ++ writeScalar e.2 ++ ['\n']

def writeSection (s : Section) : List Char :=
  '[' :: s.name.toList ++ [']', '\n'] ++ s.entries.flatMap writeEntry

def writeSections (ss : List Section) : List Char := ['\n'].intercalate (ss.map writeSection)

def Scalar.isWritable : Scalar → Bool
  | .integer n => integerFits n
  | _ => true

def render? (ss : List Section) : Option String :=
  if ss.all (·.entries.all (·.2.isWritable)) then some (String.ofList (writeSections ss)) else none

end Freshness.Toml
