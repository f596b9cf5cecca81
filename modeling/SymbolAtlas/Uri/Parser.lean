import SymbolAtlas.Uri
import SymbolAtlas.Uri.Host

/-!
# Reading identifiers

`Uri.parse?` reads a text and gives the identifier in normal form: the scheme in lower case, dot
segments resolved, characters that a part may not show written by their number. A text without a
scheme, or with a bad host or port, is no identifier.
-/

namespace SymbolAtlas.Uri

/-- How a scheme is read. -/
inductive SchemeKind where
  /-- Local files: a host is optional and mostly absent. -/
  | file
  /-- The schemes of the web, which always have a host; the port is the usual one, if any. -/
  | special (port : Option Nat)
  /-- Every other scheme. -/
  | plain
  deriving DecidableEq

/-- The kind of a scheme in lower case. -/
def SchemeKind.of (scheme : List Char) : SchemeKind :=
  match String.ofList scheme with
  | "file" => .file
  | "http" | "ws" => .special (some 80)
  | "https" | "wss" => .special (some 443)
  | "ftp" => .special (some 21)
  | _ => .plain

/-- The kind reads a backslash as a slash. -/
def SchemeKind.isSpecial (k : SchemeKind) : Bool := k != .plain

/-- A slash, or what the kind reads as one. -/
def SchemeKind.isSlash (k : SchemeKind) (c : Char) : Bool := c == '/' || (k.isSpecial && c == '\\')

/-- A letter with a colon or a bar, which names a drive. -/
def isDrive : List Char → Bool
  | [a, b] => a.isAlpha && (b == ':' || b == '|')
  | _ => false

/-- A letter with a colon. -/
def isNormalDrive : List Char → Bool
  | [a, b] => a.isAlpha && b == ':'
  | _ => false

/-- A segment that stays where it is: one dot, plain or encoded. -/
def isDot (segment : List Char) : Bool :=
  segment.map Char.toLower ∈ [['.'], ['%', '2', 'e']]

/-- A segment that goes up: two dots, plain or encoded. -/
def isDotDot (segment : List Char) : Bool :=
  segment.map Char.toLower ∈
    [['.', '.'], ['%', '2', 'e', '.'], ['.', '%', '2', 'e'], ['%', '2', 'e', '%', '2', 'e']]

/-- Cuts a path into the segments between its slashes. -/
def SchemeKind.cut (k : SchemeKind) : List Char → List (List Char)
  | [] => [[]]
  | c :: cs =>
    if k.isSlash c then [] :: k.cut cs
    else match k.cut cs with
      | [] => [[c]]
      | s :: ss => (c :: s) :: ss

/-- The path without its last segment; a drive is not removed from a file path. -/
def SchemeKind.shorten (k : SchemeKind) (path : List (List Char)) : List (List Char) :=
  match k, path with
  | .file, [drive] => if isNormalDrive drive then path else []
  | _, _ => path.dropLast

/-- Appends encoded segments to a path, resolving the dot segments on the way. -/
def SchemeKind.resolve (k : SchemeKind) : List (List Char) → List (List Char) → List (List Char)
  | path, [] => path
  | path, segment :: rest =>
    if isDotDot segment then
      let shorter := k.shorten path
      k.resolve (if rest.isEmpty then shorter ++ [[]] else shorter) rest
    else if isDot segment then
      k.resolve (if rest.isEmpty then path ++ [[]] else path) rest
    else match k, path, segment with
      | .file, [], [a, '|'] =>
        k.resolve [if a.isAlpha then [a, ':'] else segment] rest
      | _, _, _ => k.resolve (path ++ [segment]) rest

/-- In a file path, a drive ends its segment. -/
def SchemeKind.splitDrive (k : SchemeKind) (segments : List (List Char)) : List (List Char) :=
  match k, segments with
  | .file, (a :: ':' :: c :: cs) :: rest =>
    if a.isAlpha then [a, ':'] :: (c :: cs) :: rest else segments
  | _, _ => segments

/-- A path with a leading slash, from the text after that slash. File paths start with exactly one
slash. -/
def SchemeKind.rooted (k : SchemeKind) (cs : List Char) : List Char :=
  let segments := k.resolve [] (k.splitDrive ((k.cut cs).map (encode pathSet)))
  let path := Text.joinWith '/' segments
  '/' :: (if k = .file then path.dropWhile (· == '/') else path)

/-- The texts before and after the first character that `stop` holds of. -/
def cutAt (stop : Char → Bool) (cs : List Char) : List Char × List Char :=
  (cs.takeWhile (!stop ·), cs.dropWhile (!stop ·))

/-- Query and fragment, each with its mark. -/
def tail (k : SchemeKind) (cs : List Char) : List Char :=
  let set := if k.isSpecial then specialQuerySet else querySet
  let (query, rest) := match cs with
    | '?' :: after =>
      let (query, rest) := cutAt (· == '#') after
      ('?' :: encode set query, rest)
    | _ => ([], cs)
  let fragment := match rest with
    | '#' :: after => '#' :: encode fragmentSet after
    | _ => []
  query ++ fragment

/-- The path of an identifier with an authority, from the text after it. -/
def pathAfterAuthority (k : SchemeKind) (cs : List Char) : List Char :=
  match cs with
  | [] => if k.isSpecial then ['/'] else []
  | c :: rest => k.rooted (if k.isSlash c then rest else cs)

/-- User name and password with their mark, from the text before the last at sign. -/
def userInfo (cs : List Char) : List Char :=
  let (name, password) := cutAt (· == ':') cs
  let password := encode userInfoSet (password.drop 1)
  let written := encode userInfoSet name ++ (if password.isEmpty then [] else ':' :: password)
  if written.isEmpty then [] else written ++ ['@']

/-- A port with its colon: the usual port of a scheme is not written. -/
def port? (usual : Option Nat) (cs : List Char) : Option (List Char) :=
  match cs with
  | [] => some []
  | digits => do
    if !digits.all Char.isDigit then none
    let n ← digits? 10 digits
    if 65535 < n then none
    else if some n = usual then some []
    else some (':' :: Nat.toDigits 10 n)

/-- Host and port of an authority, cut at the colon before the port. -/
def cutPort : List Char → List Char × List Char
  | '[' :: cs =>
    let (inner, rest) := cutAt (· == ']') cs
    ('[' :: inner ++ rest.take 1 ++ (rest.drop 1).takeWhile (· != ':'),
      ((rest.drop 1).dropWhile (· != ':')).drop 1)
  | cs => (cs.takeWhile (· != ':'), (cs.dropWhile (· != ':')).drop 1)

/-- An authority in normal form. -/
def authority? (k : SchemeKind) (cs : List Char) : Option (List Char) := do
  let parts := Text.splitOn '@' cs
  let info := userInfo (Text.joinWith '@' parts.dropLast)
  let (hostText, portText) := cutPort (parts.getLastD [])
  match k with
  | .special usual =>
    let host ← specialHost? hostText
    return info ++ host ++ (← port? usual portText)
  | _ =>
    if hostText.isEmpty ∧ !(info.isEmpty ∧ portText.isEmpty) then none
    let host ← plainHost? hostText
    return info ++ host ++ (← port? none portText)

/-- The part of a local file identifier after the scheme. -/
def fileRest? (cs : List Char) : Option (List Char) :=
  let k := SchemeKind.file
  let finish (host : List Char) (rest : List Char) :=
    let (path, tailText) := cutAt endsPath rest
    let rooted := k.rooted (match path with
      | c :: more => if k.isSlash c then more else path
      | [] => [])
    '/' :: '/' :: host ++ rooted ++ tail k tailText
  match cs with
  | a :: b :: rest =>
    if k.isSlash a && k.isSlash b then
      let (host, after) := cutAt (fun c => endsAuthority c || c == '\\') rest
      if host.isEmpty then some (finish [] after)
      else if isDrive host then some (finish [] rest)
      else (specialHost? host).map fun name =>
        let first := (after.drop 1).takeWhile fun c => !(endsAuthority c || c == '\\')
        finish (if String.ofList name = "localhost" ∨ isDrive first then [] else name) after
    else some (finish [] cs)
  | _ => some (finish [] cs)

/-- The part after a scheme of the web: any number of slashes, then the authority. -/
def specialRest? (k : SchemeKind) (cs : List Char) : Option (List Char) := do
  let (authorityText, after) :=
    cutAt (fun c => endsAuthority c || c == '\\') (cs.dropWhile k.isSlash)
  let authority ← authority? k authorityText
  let (path, tailText) := cutAt endsPath after
  return '/' :: '/' :: authority ++ pathAfterAuthority k path ++ tail k tailText

/-- The part after any other scheme: with an authority, with a rooted path, or a text that is kept
nearly as it is. -/
def plainRest? (cs : List Char) : Option (List Char) :=
  match cs with
  | '/' :: '/' :: rest => do
    let (authorityText, after) := cutAt endsAuthority rest
    let authority ← authority? .plain authorityText
    let (path, tailText) := cutAt endsPath after
    return '/' :: '/' :: authority ++ pathAfterAuthority .plain path ++ tail .plain tailText
  | '/' :: rest =>
    let (path, tailText) := cutAt endsPath rest
    let rooted := SchemeKind.plain.rooted path
    let shielded := match rooted with
      | '/' :: '/' :: _ => '/' :: '.' :: rooted
      | _ => rooted
    some (shielded ++ tail .plain tailText)
  | _ =>
    let (path, tailText) := cutAt endsPath cs
    some (encode controls path ++ tail .plain tailText)

/-- The scheme in lower case and what follows its colon. -/
def scheme? (cs : List Char) : Option (List Char × List Char) :=
  let (name, rest) := cutAt (· == ':') cs
  match name, rest with
  | c :: more, _ :: after =>
    if c.isAlpha && more.all (fun d => d.isAlphanum || d == '+' || d == '-' || d == '.') then
      some (name.map Char.toLower, after)
    else none
  | _, _ => none

/-- The text that is read: without controls and blanks around it and without line ends and tabs
inside. -/
def cleaned (text : String) : List Char :=
  let outer (c : Char) : Bool := c.toNat ≤ 0x20
  let start := text.toList.dropWhile outer
  let trimmed := (start.reverse.dropWhile outer).reverse
  trimmed.filter fun c => !(c == '\t' || c == '\n' || c == '\r')

/-- Reads an identifier and brings it into normal form. -/
def parse? (text : String) : Option Uri := do
  let (scheme, rest) ← scheme? (cleaned text)
  let k := SchemeKind.of scheme
  let after ← match k with
    | .file => fileRest? rest
    | .special _ => specialRest? k rest
    | .plain => plainRest? rest
  return ⟨String.ofList (scheme ++ ':' :: after)⟩

end SymbolAtlas.Uri
