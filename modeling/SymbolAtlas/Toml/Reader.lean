import SymbolAtlas.Toml.Moment
import SymbolAtlas.Toml.Numeral
import SymbolAtlas.Toml.Tree

/-!
# Reading TOML documents

A document is a sequence of lines: a key with its value, a header that starts a table, or nothing
but a comment. `parse?` gives the entries of the document, or nothing if any line is malformed or
defines something twice.
-/

namespace SymbolAtlas.Toml

open Settings (Value)

/-- How deeply lists and inline tables may nest, and how many parts a key may have. -/
def depthLimit : Nat := 80

/-! ### Keys -/

/-- A character of a bare key. -/
def isBareChar (c : Char) : Bool := c.isAlphanum || c == '_' || c == '-'

/-- One part of a key: bare or quoted. -/
def simpleKey? (cs : List Char) : Option (String × List Char) :=
  match cs with
  | '"' :: _ | '\x27' :: _ => lineString? cs
  | _ =>
    let bare := cs.takeWhile isBareChar
    if bare.isEmpty then none else some (String.ofList bare, cs.dropWhile isBareChar)

/-- The parts of a key, with points between them and blanks around each. -/
def keyParts? : (fuel : Nat) → List Char → Option (List String × List Char)
  | 0, _ => none
  | fuel + 1, cs => do
    let (part, rest) ← simpleKey? (skipBlanks cs)
    match skipBlanks rest with
    | '.' :: more =>
      let (parts, rest) ← keyParts? fuel more
      some (part :: parts, rest)
    | rest => some ([part], rest)

/-- A key: the path to its table and its name there. -/
def key? (cs : List Char) : Option ((List String × String) × List Char) := do
  let (parts, rest) ← keyParts? (cs.length + 1) cs
  if depthLimit ≤ parts.length then none
  let name ← parts.getLast?
  some ((parts.dropLast, name), rest)

/-! ### Values -/

/-- What follows a comment up to the end of its line. -/
def skipComment (cs : List Char) : List Char :=
  match cs with
  | '#' :: rest => rest.dropWhile isTextChar
  | _ => cs

/-- What follows blanks, line breaks and comments; `fuel` bounds the number of lines. -/
def skipLines : (fuel : Nat) → List Char → List Char
  | 0, cs => cs
  | fuel + 1, cs =>
    let rest := skipComment (skipBlanks cs)
    match newline? rest with
    | some rest => skipLines fuel rest
    | none => rest

/-- What follows blanks, line breaks and comments. -/
def skipAll (cs : List Char) : List Char := skipLines (cs.length + 1) cs

/-- A value that holds no others. -/
def scalar (cs : List Char) : Option (Value × List Char) :=
  match cs with
  | '"' :: _ | '\x27' :: _ => (string? cs).map fun (s, rest) => (.str s, rest)
  | 't' :: 'r' :: 'u' :: 'e' :: rest => some (.bool true, rest)
  | 'f' :: 'a' :: 'l' :: 's' :: 'e' :: rest => some (.bool false, rest)
  | _ => match moment? cs with
    | some (text, rest) => some (.str (String.ofList text), rest)
    | none => number? cs

mutual

/-- A value; `depth` counts the lists and inline tables around it. -/
def value? (fuel depth : Nat) (cs : List Char) : Option (Value × List Char) :=
  match fuel with
  | 0 => none
  | fuel + 1 => match cs with
    | '[' :: rest =>
      if depthLimit ≤ depth + 1 then none
      else (items? fuel (depth + 1) rest).map fun (items, rest) => (.arr items, rest)
    | '\x7b' :: rest =>
      if depthLimit ≤ depth + 1 then none
      else match skipBlanks rest with
        | '\x7d' :: rest => some (.table [], rest)
        | rest => (pairs? fuel (depth + 1) .defined rest).map fun (t, rest) => (t.toValue, rest)
    | _ => scalar cs

/-- The items of a list up to its closing bracket. -/
def items? (fuel depth : Nat) (cs : List Char) : Option (List Value × List Char) :=
  match fuel with
  | 0 => none
  | fuel + 1 => match skipAll cs with
    | ']' :: rest => some ([], rest)
    | rest => do
      let (item, rest) ← value? fuel depth rest
      match skipAll rest with
      | ',' :: rest =>
        let (items, rest) ← items? fuel depth rest
        some (item :: items, rest)
      | ']' :: rest => some ([item], rest)
      | _ => none

/-- The pairs of an inline table up to its closing brace, added to a table. -/
def pairs? (fuel depth : Nat) (t : Table) (cs : List Char) : Option (Table × List Char) :=
  match fuel with
  | 0 => none
  | fuel + 1 => do
    let ((path, name), rest) ← key? cs
    let rest ← after? '=' rest
    let (value, rest) ← value? fuel depth (skipBlanks rest)
    let t ← t.add path name value
    match skipBlanks rest with
    | ',' :: rest => pairs? fuel depth t rest
    | '\x7d' :: rest => some (t, rest)
    | _ => none

end

/-! ### Documents -/

/-- What has been read so far: the document and the path of the table that receives keys. -/
structure Draft where
  document : Table
  current : List String

/-- What follows the end of a line. -/
def lineEnd? (cs : List Char) : Option (List Char) :=
  match skipComment (skipBlanks cs) with
  | [] => some []
  | rest => newline? rest

/-- Takes in a key with its value. -/
def pairLine? (d : Draft) (cs : List Char) : Option (Draft × List Char) := do
  let ((path, name), rest) ← key? cs
  let rest ← after? '=' rest
  let (value, rest) ← value? (cs.length + 1) 0 (skipBlanks rest)
  let document ← d.document.within d.current (Table.add path name value)
  some ({ d with document }, rest)

/-- Takes in a header in one or two brackets. -/
def headerLine? (d : Draft) (cs : List Char) : Option (Draft × List Char) :=
  match cs with
  | '[' :: rest => do
    let ((path, name), rest) ← key? rest
    let rest ← after? ']' (← after? ']' rest)
    some (⟨← d.document.append path name, path ++ [name]⟩, rest)
  | _ => do
    let ((path, name), rest) ← key? cs
    let rest ← after? ']' rest
    some (⟨← d.document.define path name, path ++ [name]⟩, rest)

/-- Takes in the lines of a document; `fuel` bounds their number. -/
def lines? : (fuel : Nat) → Draft → List Char → Option Table
  | 0, _, _ => none
  | fuel + 1, d, cs =>
    match skipBlanks cs with
    | [] => some d.document
    | '[' :: rest => do
      let (d, rest) ← headerLine? d rest
      lines? fuel d (← lineEnd? rest)
    | c :: rest =>
      if c = '#' ∨ c = '\n' ∨ c = '\r' then do
        lines? fuel d (← lineEnd? (c :: rest))
      else do
        let (d, rest) ← pairLine? d (c :: rest)
        lines? fuel d (← lineEnd? rest)

/-- The entries of a document. A byte order mark before it is passed over. -/
def parse? (text : List Char) : Option (List (String × Value)) := do
  let cs := match text with
    | '\ufeff' :: rest => rest
    | _ => text
  let document ← lines? (cs.length + 2) ⟨.defined, []⟩ cs
  return entryValues document.entries

end SymbolAtlas.Toml
