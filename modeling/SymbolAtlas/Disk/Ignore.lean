import SymbolAtlas.Disk.Glob
import SymbolAtlas.Text.Blank

/-!
# Ignore rules

A directory can hold files of rules that say which entries below it are left out. A rule is a line
with a glob; one that starts with an exclamation mark takes entries back in. The last rule that
applies to an entry decides.
-/

namespace SymbolAtlas.Disk

/-- What a rule says about an entry. -/
inductive Verdict where
  | ignored
  | kept
  deriving DecidableEq, Repr

/-- A line of a file of rules. -/
structure Rule where
  glob : Glob
  verdict : Verdict
  /-- The rule is about directories only. -/
  directoriesOnly : Bool
  deriving DecidableEq, Repr

namespace Rule

/-- The line without the blanks at its end, unless the last of them is escaped. -/
def trimLine (line : List Char) : List Char :=
  if line.reverse.take 2 = [' ', '\\'] then line
  else (line.reverse.dropWhile Text.isBlank).reverse

/-- The mark at the start of a rule: what it says, whether the rule is bound to the directory of its
file, and the rest. -/
def mark : List Char → Verdict × Bool × List Char
  | '\\' :: '!' :: line => (.ignored, false, '!' :: line)
  | '\\' :: '#' :: line => (.ignored, false, '#' :: line)
  | '!' :: '/' :: line => (.kept, true, line)
  | '!' :: line => (.kept, false, line)
  | '/' :: line => (.ignored, true, line)
  | line => (.ignored, false, line)

/-- The line without the slash at its end, and whether there was one. -/
def finalSlash (line : List Char) : Bool × List Char :=
  match line.reverse with
  | '/' :: '\\' :: rest => (true, rest.reverse)
  | '/' :: rest => (true, rest.reverse)
  | _ => (false, line)

/-- A rule without a slash applies in all directories below. -/
def floating (anchored : Bool) (line : List Char) : List Char :=
  if anchored || line.contains '/' || line == ['*', '*'] then line else '*' :: '*' :: '/' :: line

/-- A rule for everything inside a directory does not apply to the directory. -/
def insideOnly (line : List Char) : List Char :=
  if line.reverse.take 3 = ['*', '*', '/'] then line ++ ['/', '*'] else line

/-- The rule on a line, if there is one: comments, blank lines and malformed globs say nothing. -/
def ofLine? (line : List Char) : Option Rule := do
  if line.head? = some '#' then none
  let line := trimLine line
  if line.isEmpty then none
  let (verdict, anchored, line) := mark line
  let (directoriesOnly, line) := finalSlash line
  let glob ← Glob.parse? (insideOnly (floating anchored line))
  return ⟨glob, verdict, directoriesOnly⟩

/-- A rule applies to an entry, whose path is given from the directory of the rule's file. -/
def applies (r : Rule) (path : List UInt8) (isDirectory : Bool) : Bool :=
  (!r.directoriesOnly || isDirectory) && r.glob.accepts path

/-- A line without the carriage return at its end. -/
def dropReturn (line : List UInt8) : List UInt8 :=
  if line.getLast? = some 0x0D then line.dropLast else line

/-- The lines of a file, as far as its bytes spell text. A carriage return before a line feed
belongs to the line end. -/
def readLines (content : List UInt8) : List (List Char) :=
  let pieces := Text.splitOn 0x0A content
  let lines := (pieces.dropLast.map dropReturn ++ pieces.getLast?.toList).map Text.ofUtf8?
  (lines.takeWhile Option.isSome).filterMap id

/-- The first line does not start with byte order marks. -/
def dropMarks : List (List Char) → List (List Char)
  | [] => []
  | first :: lines => first.dropWhile (· == '\ufeff') :: lines

/-- The rules of a file. -/
def ofFile (content : List UInt8) : List Rule :=
  (dropMarks (readLines content)).filterMap ofLine?

/-- What the rules of a file say about an entry: the last one that applies decides. -/
def verdict? (rules : List Rule) (path : List UInt8) (isDirectory : Bool) : Option Verdict :=
  (rules.reverse.find? fun r => r.applies path isDirectory).map Rule.verdict

end Rule

end SymbolAtlas.Disk
