import SymbolAtlas.Number.Width
import SymbolAtlas.Uri

/-!
# Declarations

A declaration site is an identifier, the kind of thing it declares, the file it stands in and the
position of its first character. Identifiers are filed under a key that carries a marker, so that
no identifier can be confused with a word of another vocabulary.

The position is where the identifier stands, in a text of any length. What is compared with the
position of a cursor, and shown to an editor, is the location: the position in two numbers of 32
bits. In a text of less than `2 ^ 32` code units it is the position.
-/

namespace SymbolAtlas

/-- What a declaration declares. -/
inductive Kind where
  | classLike | interface | variable | function | typeName
  deriving DecidableEq, Repr, Inhabited

/-- The word for a kind. -/
def Kind.label : Kind → String
  | .classLike => "class"
  | .interface => "interface"
  | .variable => "variable"
  | .function => "function"
  | .typeName => "type"

/-- The kind that a word names. -/
def Kind.ofLabel? (label : String) : Option Kind :=
  [Kind.classLike, .interface, .variable, .function, .typeName].find? (·.label == label)

/-- The number of a kind in the vocabulary of editors. -/
def Kind.symbolNumber : Kind → Nat
  | .classLike => 5
  | .interface => 11
  | .variable => 13
  | .function => 12
  | .typeName => 26

/-- The marker before every key. -/
def keyMarker : String := "__SCALA_SYMBOL__"

/-- The key that an identifier is filed under. -/
def symbolKey (identifier : String) : String := keyMarker ++ identifier

/-- A zero-based line and a column in UTF-16 units. -/
structure Position where
  line : Nat
  character : Nat
  deriving DecidableEq, Repr, Inhabited

/-- The position in two numbers of 32 bits. What does not fit into them is cut off. -/
def Position.stored (p : Position) : Position :=
  ⟨p.line % Number.words32, p.character % Number.words32⟩

/-- A position whose numbers fit is stored as it is. -/
theorem Position.stored_eq_self {p : Position} (hline : p.line < Number.words32)
    (hcharacter : p.character < Number.words32) : p.stored = p := by
  rw [stored, Nat.mod_eq_of_lt hline, Nat.mod_eq_of_lt hcharacter]

/-- A file as declarations refer to it. -/
structure SourceFile where
  uri : Uri
  relativePath : String
  deriving DecidableEq, Repr, Inhabited

/-- One declaration site. -/
structure Declaration where
  identifier : String
  kind : Kind
  file : SourceFile
  position : Position
  deriving DecidableEq, Repr, Inhabited

namespace Declaration

/-- The file's identifier. -/
abbrev uri (d : Declaration) : Uri := d.file.uri

/-- The key that the declaration is filed under. -/
abbrev key (d : Declaration) : String := symbolKey d.identifier

/-- The location that is kept of the declaration's position. -/
abbrev location (d : Declaration) : Position := d.position.stored

/-- The order of the index: by file, then by the column, then by the line of the location. What a
long text declares at one location is in the order of its positions. -/
def indexLE (a b : Declaration) : Bool :=
  if a.uri ≠ b.uri then decide (a.uri < b.uri)
  else if a.location.character ≠ b.location.character then
    decide (a.location.character < b.location.character)
  else if a.location.line ≠ b.location.line then decide (a.location.line < b.location.line)
  else if a.position.character ≠ b.position.character then
    decide (a.position.character < b.position.character)
  else decide (a.position.line ≤ b.position.line)

/-- The order of reading: by file, then by the line, then by the column of the location. What a long
text declares at one location is in the order of its positions. -/
def readingLE (a b : Declaration) : Bool :=
  if a.uri ≠ b.uri then decide (a.uri < b.uri)
  else if a.location.line ≠ b.location.line then decide (a.location.line < b.location.line)
  else if a.location.character ≠ b.location.character then
    decide (a.location.character < b.location.character)
  else if a.position.line ≠ b.position.line then decide (a.position.line < b.position.line)
  else decide (a.position.character ≤ b.position.character)

end Declaration

end SymbolAtlas
