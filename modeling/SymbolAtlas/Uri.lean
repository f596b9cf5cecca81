import SymbolAtlas.Text.Lines

/-!
# Resource identifiers

A `Uri` is kept as its normal form, which reading it has produced: equality, order and display are
those of that text. The parts of an identifier are found again in the text, which is possible
because the normal form writes each part in one way only.
-/

namespace SymbolAtlas

/-- A resource identifier in normal form. -/
structure Uri where
  text : String
  deriving DecidableEq, Repr, Inhabited, Hashable

namespace Uri

instance : ToString Uri := ⟨Uri.text⟩

/-- The order of identifiers is the order of their texts. -/
instance : LT Uri := ⟨fun a b => a.text < b.text⟩

instance (a b : Uri) : Decidable (a < b) := inferInstanceAs (Decidable (a.text < b.text))

/-- What follows the scheme and its colon. -/
def afterScheme (u : Uri) : List Char := (u.text.toList.dropWhile (· != ':')).drop 1

/-- The scheme, in lower case. -/
def scheme (u : Uri) : String := String.ofList (u.text.toList.takeWhile (· != ':'))

/-- The characters that end the authority. -/
def endsAuthority (c : Char) : Bool := c == '/' || c == '?' || c == '#'

/-- The characters that end the path. -/
def endsPath (c : Char) : Bool := c == '?' || c == '#'

/-- The authority, if the identifier has one, and the text that follows it. -/
def authority (u : Uri) : Option (List Char) × List Char :=
  match u.afterScheme with
  | '/' :: '/' :: rest =>
    (some (rest.takeWhile (!endsAuthority ·)), rest.dropWhile (!endsAuthority ·))
  | '/' :: '.' :: '/' :: '/' :: rest => (none, '/' :: '/' :: rest)
  | rest => (none, rest)

/-- The path, without query and fragment. -/
def pathChars (u : Uri) : List Char := u.authority.2.takeWhile (!endsPath ·)

/-- The path, without query and fragment. -/
def path (u : Uri) : String := String.ofList u.pathChars

/-- The host inside an authority: without user information and port. -/
def hostOf (authority : List Char) : List Char :=
  let host := match Text.splitOn '@' authority with
    | [_] => authority
    | parts => parts.getLastD []
  match host with
  | '[' :: _ => host.takeWhile (· != ']') ++ [']']
  | _ => host.takeWhile (· != ':')

/-- The host; an empty one counts as none. -/
def host? (u : Uri) : Option (List Char) :=
  match u.authority.1 with
  | none => none
  | some authority => match hostOf authority with
    | [] => none
    | host => some host

/-- The segments of a path that starts with a slash. -/
def segments? (u : Uri) : Option (List (List Char)) :=
  match u.pathChars with
  | '/' :: rest => some (Text.splitOn '/' rest)
  | _ => none

end Uri

end SymbolAtlas
