import Freshness.Json.Basic
import Freshness.Text.Digits

/-!
# JSON text read

The reader works on what is left of the text and hands back the rest.

* `Json.readText` : a text after its opening quote, as characters and halves of surrogate pairs,
  which `Json.joinHalves` puts together;
* `Json.readNumber` : a number. An integer without fraction and exponent is exact, but `-0` is not
  an integer;
* `Json.readValue`, `Json.readItems`, `Json.readMembers` : values, with one unit of fuel for each
  step down or to the side, of which a text needs at most two for each character;
* `Json.parse?` : a whole text, with blanks allowed around the value.
-/

namespace Freshness.Json

def isSpace (c : Char) : Bool := c == ' ' || c == '\t' || c == '\n' || c == '\r'

def skipSpace (cs : List Char) : List Char := cs.dropWhile isSpace

/-! ## Texts -/

/-- The character behind an escape of one letter. -/
def letterEscape? : Char → Option Char
  | '"' => some '"'
  | '\\' => some '\\'
  | '/' => some '/'
  | 'b' => some '\x08'
  | 'f' => some '\x0c'
  | 'n' => some '\n'
  | 'r' => some '\r'
  | 't' => some '\t'
  | _ => none

/-- A code unit by its number: half of a surrogate pair, or a character. -/
def ofUnit (n : Nat) : Char ⊕ Nat :=
  if 0xD800 ≤ n ∧ n < 0xE000 then .inr n else .inl (Char.ofNat n)

/-- A text after its opening quote, and what follows the closing one. -/
def readText : List Char → Option (List (Char ⊕ Nat) × List Char)
  | [] => none
  | '"' :: rest => some ([], rest)
  | '\\' :: 'u' :: a :: b :: c :: d :: rest => do
    let n ← Text.ofDigits? 16 [a, b, c, d]
    let (units, rest) ← readText rest
    some (ofUnit n :: units, rest)
  | '\\' :: e :: rest => do
    let c ← letterEscape? e
    let (units, rest) ← readText rest
    some (.inl c :: units, rest)
  | c :: rest =>
    if c.toNat < 0x20 ∨ c = '\\' then none
    else do
      let (units, rest) ← readText rest
      some (.inl c :: units, rest)

/-- The characters of a text, if no half of a surrogate pair stands alone. -/
def joinHalves : List (Char ⊕ Nat) → Option (List Char)
  | [] => some []
  | .inl c :: units => (joinHalves units).map (c :: ·)
  | .inr high :: .inr low :: units =>
    if high < 0xDC00 ∧ 0xDC00 ≤ low then
      (joinHalves units).map (Char.ofNat (0x10000 + (high - 0xD800) * 0x400 + (low - 0xDC00)) :: ·)
    else none
  | .inr _ :: _ => none

/-- A text after its opening quote, `none` inside if it stands for no characters. -/
def readString (cs : List Char) : Option (Option String × List Char) :=
  (readText cs).map fun (units, rest) => ((joinHalves units).map String.ofList, rest)

/-! ## Numbers -/

def spanDigits (cs : List Char) : List Char × List Char :=
  (cs.takeWhile Char.isDigit, cs.dropWhile Char.isDigit)

def readFraction : List Char → Option (List Char × List Char)
  | '.' :: rest =>
    match spanDigits rest with
    | ([], _) => none
    | (ds, rest) => some ('.' :: ds, rest)
  | rest => some ([], rest)

def readExponentDigits (mark : List Char) (cs : List Char) : Option (List Char × List Char) :=
  match spanDigits cs with
  | ([], _) => none
  | (ds, rest) => some (mark ++ ds, rest)

def readExponent : List Char → Option (List Char × List Char)
  | e :: rest =>
    if e = 'e' ∨ e = 'E' then
      match rest with
      | '+' :: rest => readExponentDigits [e, '+'] rest
      | '-' :: rest => readExponentDigits [e, '-'] rest
      | rest => readExponentDigits [e] rest
    else some ([], e :: rest)
  | [] => some ([], [])

/-- A number after its sign. -/
def readUnsigned (negative : Bool) (cs : List Char) : Option (Json × List Char) :=
  match spanDigits cs with
  | ([], _) => none
  | (ds, rest) =>
    if ds.head? = some '0' ∧ ds.length ≠ 1 then none
    else do
      let (fraction, rest) ← readFraction rest
      let (exponent, rest) ← readExponent rest
      let sign := if negative then ['-'] else []
      let n := Nat.ofDigitChars 10 ds 0
      if fraction.isEmpty && exponent.isEmpty && !(negative && n == 0) then
        some (int (if negative then -n else n), rest)
      else some (real (String.ofList (sign ++ ds ++ fraction ++ exponent)), rest)

def readNumber : List Char → Option (Json × List Char)
  | '-' :: rest => readUnsigned true rest
  | cs => readUnsigned false cs

/-! ## Values -/

def ofString? : Option String → Json
  | some s => str s
  | none => unreadable

mutual

def readValue : (fuel : Nat) → List Char → Option (Json × List Char)
  | 0, _ => none
  | fuel + 1, cs =>
    match cs with
    | 'n' :: 'u' :: 'l' :: 'l' :: rest => some (null, rest)
    | 't' :: 'r' :: 'u' :: 'e' :: rest => some (bool true, rest)
    | 'f' :: 'a' :: 'l' :: 's' :: 'e' :: rest => some (bool false, rest)
    | '"' :: rest => (readString rest).map fun (s, rest) => (ofString? s, rest)
    | '[' :: rest =>
      match skipSpace rest with
      | ']' :: rest => some (arr [], rest)
      | rest => (readItems fuel rest).map fun (xs, rest) => (arr xs, rest)
    | '\x7b' :: rest =>
      match skipSpace rest with
      | '\x7d' :: rest => some (obj [], rest)
      | rest => (readMembers fuel rest).map fun (ms, rest) => (obj ms, rest)
    | cs => readNumber cs

def readItems : (fuel : Nat) → List Char → Option (List Json × List Char)
  | 0, _ => none
  | fuel + 1, cs => do
    let (x, rest) ← readValue fuel cs
    match skipSpace rest with
    | ']' :: rest => some ([x], rest)
    | ',' :: rest => do
      let (xs, rest) ← readItems fuel (skipSpace rest)
      some (x :: xs, rest)
    | _ => none

def readMembers : (fuel : Nat) → List Char → Option (List (Option String × Json) × List Char)
  | 0, _ => none
  | fuel + 1, cs =>
    match cs with
    | '"' :: rest => do
      let (name, rest) ← readString rest
      match skipSpace rest with
      | ':' :: rest => do
        let (x, rest) ← readValue fuel (skipSpace rest)
        match skipSpace rest with
        | '\x7d' :: rest => some ([(name, x)], rest)
        | ',' :: rest => do
          let (ms, rest) ← readMembers fuel (skipSpace rest)
          some ((name, x) :: ms, rest)
        | _ => none
      | _ => none
    | _ => none

end

def parse? (s : String) : Option Json :=
  let cs := s.toList
  match readValue (2 * cs.length + 2) (skipSpace cs) with
  | some (j, rest) => if (skipSpace rest).isEmpty then some j else none
  | none => none

end Freshness.Json
