/-!
# Quoted text in TOML

Basic strings know escapes, literal strings do not; either comes in a form for one line and a form
for several lines. In the latter a line break right after the opening is dropped and every line
break reads as a line feed.
-/

namespace SymbolAtlas.Toml

/-- Blanks within a line. -/
def isBlank (c : Char) : Bool := c == ' ' || c == '\t'

/-- What follows blanks. -/
def skipBlanks (cs : List Char) : List Char := cs.dropWhile isBlank

/-- What follows a line break. -/
def newline? : List Char → Option (List Char)
  | '\n' :: rest => some rest
  | '\r' :: '\n' :: rest => some rest
  | _ => none

/-- A character that may stand in text: no control but the tab. -/
def isTextChar (c : Char) : Bool := c == '\t' || (0x20 ≤ c.toNat && c.toNat != 0x7F)

/-- The value of a hexadecimal digit. -/
def hexDigit? (c : Char) : Option Nat :=
  if '0' ≤ c ∧ c ≤ '9' then some (c.toNat - 0x30)
  else if 'a' ≤ c ∧ c ≤ 'f' then some (c.toNat - 0x57)
  else if 'A' ≤ c ∧ c ≤ 'F' then some (c.toNat - 0x37)
  else none

/-- The character whose number is given by so many hexadecimal digits. -/
def scalar? (count : Nat) (cs : List Char) : Option (Char × List Char) := do
  let digits := cs.take count
  if digits.length < count then none
  let n := (← digits.mapM hexDigit?).foldl (fun n d => 16 * n + d) 0
  if n.isValidChar then some (Char.ofNat n, cs.drop count) else none

/-- The character that the escape after a backslash stands for. -/
def escape? : List Char → Option (Char × List Char)
  | 'b' :: rest => some ('\x08', rest)
  | 't' :: rest => some ('\t', rest)
  | 'n' :: rest => some ('\n', rest)
  | 'f' :: rest => some ('\x0c', rest)
  | 'r' :: rest => some ('\r', rest)
  | '"' :: rest => some ('"', rest)
  | '\\' :: rest => some ('\\', rest)
  | 'u' :: rest => scalar? 4 rest
  | 'U' :: rest => scalar? 8 rest
  | _ => none

/-- The rest of a string on one line, up to its closing mark. -/
def lineTail? (escapes : Bool) (mark : Char) :
    (fuel : Nat) → List Char → Option (List Char × List Char)
  | fuel + 1, c :: cs =>
    if c = mark then some ([], cs)
    else if escapes && c == '\\' then do
      let (d, rest) ← escape? cs
      let (ds, rest) ← lineTail? escapes mark fuel rest
      some (d :: ds, rest)
    else if isTextChar c then do
      let (ds, rest) ← lineTail? escapes mark fuel cs
      some (c :: ds, rest)
    else none
  | _, _ => none

/-- Skips blanks and line breaks; `fuel` bounds the number of breaks. -/
def skipBreaks : (fuel : Nat) → List Char → List Char
  | 0, cs => cs
  | fuel + 1, cs => match newline? (skipBlanks cs) with
    | some rest => skipBreaks fuel rest
    | none => skipBlanks cs

/-- What follows a backslash that ends a line: line breaks and blanks after it are skipped. -/
def joined? (cs : List Char) : Option (List Char) := do
  let rest ← newline? (skipBlanks cs)
  return skipBreaks rest.length rest

/-- The rest of a string on several lines. A run of three to five marks ends it; the marks before
the last three belong to the text. -/
def blockTail? (escapes : Bool) (mark : Char) :
    (fuel : Nat) → List Char → Option (List Char × List Char)
  | fuel + 1, c :: cs =>
    if c = mark then
      let run := min 5 ((c :: cs).takeWhile (· == mark)).length
      if 3 ≤ run then some (List.replicate (run - 3) mark, (c :: cs).drop run)
      else do
        let (ds, rest) ← blockTail? escapes mark fuel cs
        some (c :: ds, rest)
    else match newline? (c :: cs) with
      | some rest => do
        let (ds, rest) ← blockTail? escapes mark fuel rest
        some ('\n' :: ds, rest)
      | none =>
        if escapes && c == '\\' then
          match joined? cs with
          | some rest => blockTail? escapes mark fuel rest
          | none => do
            let (d, rest) ← escape? cs
            let (ds, rest) ← blockTail? escapes mark fuel rest
            some (d :: ds, rest)
        else if isTextChar c then do
          let (ds, rest) ← blockTail? escapes mark fuel cs
          some (c :: ds, rest)
        else none
  | _, _ => none

/-- A string on one line. -/
def lineString? : List Char → Option (String × List Char)
  | c :: cs =>
    if c = '"' ∨ c = '\x27' then
      (lineTail? (c == '"') c (cs.length + 1) cs).map fun (s, rest) => (String.ofList s, rest)
    else none
  | [] => none

/-- A string of either form. -/
def string? (cs : List Char) : Option (String × List Char) :=
  match cs with
  | a :: b :: c :: rest =>
    if a = b ∧ b = c then
      let body := (newline? rest).getD rest
      (blockTail? (a == '"') a (body.length + 1) body).map fun (s, rest) =>
        (String.ofList s, rest)
    else lineString? cs
  | _ => lineString? cs

end SymbolAtlas.Toml
