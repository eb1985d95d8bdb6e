import Freshness.Toml.Moment
import Freshness.Toml.Number
import Freshness.Toml.Text.Reader
import Freshness.Toml.Tree

/-!
# TOML documents read

Like the readers for the parts of a document, these work on what is left of the text.

* `readKey` : a key, with one unit of fuel for each of its names, of which it may have `keyNames`;
* `readValue` : a value, with one unit of fuel for each array or table around it, of which there may
  be `valueDepth`; `readItems` and `readPairs` take the reader for what is inside;
* `readLines` : the lines of a document;
* `Toml.parse?` : the table that a document defines.
-/

namespace Freshness.Toml

/-! ## Keys -/

def keyNames : Nat := 79

/-- A character of a name that needs no marks around it. -/
def isBare (c : Char) : Bool := c.isAlphanum || c == '-' || c == '_'

/-- A name: between quotes, between apostrophes, or bare. -/
def readName? : List Char → Option (String × List Char)
  | '"' :: rest => (readBasic rest).map fun (cs, rest) => (String.ofList cs, rest)
  | '\'' :: rest => (readLiteral rest).map fun (cs, rest) => (String.ofList cs, rest)
  | cs =>
    let name := cs.takeWhile isBare
    if name.isEmpty then none else some (String.ofList name, cs.dropWhile isBare)

/-- A key with blanks around its names, and what follows the last of them. -/
def readKey : (fuel : Nat) → List Char → Option (Key × List Char)
  | 0, _ => none
  | fuel + 1, cs => do
    let (name, rest) ← readName? (skipSpace cs)
    match skipSpace rest with
    | '.' :: rest => do
      let (key, rest) ← readKey fuel rest
      some (⟨name :: key.parents, key.last⟩, rest)
    | rest => some (⟨[], name⟩, rest)

/-! ## Values -/

def valueDepth : Nat := 79

/-- The items of an array, after its bracket or a comma. Breaks and comments may stand between them,
and a comma after the last. -/
def readItems (readOne : List Char → Option (Toml × List Char)) :
    (fuel : Nat) → List Char → Option (List Toml × List Char)
  | 0, _ => none
  | fuel + 1, cs =>
    match skipLines false cs with
    | ']' :: rest => some ([], rest)
    | rest => do
      let (v, rest) ← readOne rest
      match skipLines false rest with
      | ']' :: rest => some ([v], rest)
      | ',' :: rest => do
        let (vs, rest) ← readItems readOne fuel rest
        some (v :: vs, rest)
      | _ => none

def readPair (readOne : List Char → Option (Toml × List Char)) (cs : List Char) :
    Option ((Key × Toml) × List Char) := do
  let (key, rest) ← readKey keyNames cs
  let rest ← dropMark? '=' rest
  let (v, rest) ← readOne (skipSpace rest)
  some ((key, v), rest)

/-- At least one key with its value, and what follows the closing brace. -/
def readPairs (readOne : List Char → Option (Toml × List Char)) :
    (fuel : Nat) → List Char → Option (List (Key × Toml) × List Char)
  | 0, _ => none
  | fuel + 1, cs => do
    let (p, rest) ← readPair readOne cs
    match skipSpace rest with
    | '\x7d' :: rest => some ([p], rest)
    | ',' :: rest => do
      let (ps, rest) ← readPairs readOne fuel rest
      some (p :: ps, rest)
    | _ => none

/-- A value without parts that is no text. -/
def readPlain? : List Char → Option (Scalar × List Char)
  | 't' :: 'r' :: 'u' :: 'e' :: rest => some (.boolean true, rest)
  | 'f' :: 'a' :: 'l' :: 's' :: 'e' :: rest => some (.boolean false, rest)
  | cs => if startsMoment cs then readMoment? cs else readNumber? cs

def readScalar? (cs : List Char) : Option (Scalar × List Char) :=
  match cs with
  | '"' :: _ | '\'' :: _ => (readText? cs).map fun (s, rest) => (.text (String.ofList s), rest)
  | _ => readPlain? cs

def ofReadPairs? (read : Option (List (Key × Toml) × List Char)) : Option (Toml × List Char) :=
  read.bind fun (ps, rest) => (ofPairs? ps).map (·, rest)

def readValue : (depth : Nat) → List Char → Option (Toml × List Char)
  | depth + 1, '[' :: rest =>
    (readItems (readValue depth) (rest.length + 1) rest).map fun (vs, rest) => (.array vs, rest)
  | depth + 1, '\x7b' :: rest =>
    match skipSpace rest with
    | '\x7d' :: rest => some (.table [], rest)
    | rest => ofReadPairs? (readPairs (readValue depth) (rest.length + 1) rest)
  | _, cs => (readScalar? cs).map fun (v, rest) => (.scalar v, rest)

/-! ## Documents -/

/-- A line that defines something, after the blanks in front of it. -/
def readLine? : List Char → Option (Line × List Char)
  | '[' :: '[' :: rest => do
    let (key, rest) ← readKey keyNames rest
    let rest ← dropMark? ']' (← dropMark? ']' rest)
    some (.item key, ← dropLineEnd? rest)
  | '[' :: rest => do
    let (key, rest) ← readKey keyNames rest
    some (.header key, ← dropLineEnd? (← dropMark? ']' rest))
  | cs => do
    let ((key, v), rest) ← readPair (readValue valueDepth) cs
    some (.value key v, ← dropLineEnd? rest)

def readLines : (fuel : Nat) → List Char → Option (List Line)
  | 0, _ => none
  | fuel + 1, cs =>
    match skipLines false cs with
    | [] => some []
    | rest => do
      let (line, rest) ← readLine? rest
      let lines ← readLines fuel rest
      some (line :: lines)

/-- The characters of a document, without a mark of the byte order in front. -/
def documentChars (s : String) : List Char :=
  match s.toList with
  | '\uFEFF' :: cs => cs
  | cs => cs

def parse? (s : String) : Option Toml :=
  let cs := documentChars s
  (readLines (cs.length + 1) cs).bind ofLines?

end Freshness.Toml
