import SymbolAtlas.Disk.Path

/-!
# Globs

A glob describes paths. It is read as text and compared with bytes: a question mark stands for one
byte and a star for any number of them, but neither for a slash. Two stars that stand alone between
slashes cross any number of directories. Brackets list bytes, and braces hold alternatives, which
may be nested; an empty alternative does not count.

A glob is a list of alternatives without braces. Comparing it with a path takes the tokens one after
the other and keeps what may be left of the path.
-/

namespace SymbolAtlas.Disk

/-- A token of a glob. -/
inductive Token where
  | byte (b : UInt8)
  /-- One byte other than a slash. -/
  | any
  /-- Bytes other than slashes. -/
  | stretch
  /-- Any directories at the start, or none. -/
  | anywhere
  /-- A slash and anything after it. -/
  | below
  /-- A slash, or two with anything between them. -/
  | between
  /-- One byte in one of the ranges, or in none of them. -/
  | oneOf (negated : Bool) (ranges : List (UInt8 × UInt8))
  /-- Anything. -/
  | anything
  deriving DecidableEq, Repr

/-! ### Comparing -/

/-- All ends of a sequence, the longest first. -/
def tails : List UInt8 → List (List UInt8)
  | [] => [[]]
  | b :: bs => (b :: bs) :: tails bs

/-- What follows each of the slashes. -/
def afterSlashes : List UInt8 → List (List UInt8)
  | [] => []
  | b :: bs => if b = slash then bs :: afterSlashes bs else afterSlashes bs

/-- The ends that start no later than after the first slash-free stretch. -/
def stretchTails : List UInt8 → List (List UInt8)
  | [] => [[]]
  | b :: bs => (b :: bs) :: if b = slash then [] else stretchTails bs

/-- What may be left of a path after a token. -/
def Token.remainders : Token → List UInt8 → List (List UInt8)
  | .byte b, c :: bs => if b = c then [bs] else []
  | .any, c :: bs => if c = slash then [] else [bs]
  | .stretch, bs => stretchTails bs
  | .anywhere, bs => bs :: afterSlashes bs
  | .below, c :: bs => if c = slash then tails bs else []
  | .between, c :: bs => if c = slash then bs :: afterSlashes bs else []
  | .oneOf negated ranges, c :: bs =>
    if (ranges.any fun r => r.1 ≤ c && c ≤ r.2) != negated then [bs] else []
  | .anything, bs => tails bs
  | .byte _, [] | .any, [] | .below, [] | .between, [] | .oneOf .., [] => []

/-- What may be left of any of the paths after all the tokens. -/
def remaindersAfter : List Token → List (List UInt8) → List (List UInt8)
  | [], rests => rests
  | t :: ts, rests => remaindersAfter ts (rests.flatMap t.remainders).eraseDups

/-! ### Reading -/

/-- A token, or what stands between braces: its alternatives that are not empty. -/
inductive Item where
  | token (t : Token)
  | choice (alternatives : List (List Token))
  deriving DecidableEq, Repr

/-- The alternatives that a sequence of items stands for. -/
def Item.expand : List Item → List (List Token)
  | [] => [[]]
  | .token t :: items => (expand items).map (t :: ·)
  | .choice [] :: items => expand items
  | .choice (a :: as) :: items =>
    let rest := expand items
    (a :: as).flatMap fun alternative => rest.map (alternative ++ ·)

/-- An open brace: the items before it and its finished alternatives, the latest first. -/
structure Brace where
  before : List Item
  branches : List (List Item)

/-- The item for a closed brace, whose alternatives are given with their items reversed. -/
def Brace.close (branches : List (List Item)) : Item :=
  .choice ((branches.flatMap fun branch => Item.expand branch.reverse).filter (!·.isEmpty))

/-- The items for a character that stands for itself, last byte first. -/
def literal (c : Char) : List Item :=
  (String.utf8EncodeChar c).reverse.map fun b => .token (.byte b)

/-- The items after two stars. `now` holds the items before them, last first, and the result says
whether the next character belongs to the stars. -/
def twoStars (inBrace : Bool) (now : List Item) (prev next : Option Char) : List Item × Bool :=
  let plain := (.token .stretch :: .token .stretch :: now, false)
  let merged (t : Token) : List Item := match now with
    | .token .anywhere :: rest => .token .anywhere :: rest
    | .token .below :: rest => .token .below :: rest
    | _ :: rest => .token t :: rest
    | [] => [.token t]
  if now.isEmpty then
    if next = none ∨ next = some '/' then ([.token .anywhere], true) else plain
  else if prev ≠ some '/' ∧ ¬(inBrace ∧ (prev = some ',' ∨ prev = some '\x7b')) then plain
  else if next = none then (merged .below, false)
  else if inBrace ∧ (next = some ',' ∨ next = some '\x7d') then (merged .below, false)
  else if next = some '/' then (merged .between, true)
  else plain

/-- The ranges of characters in brackets; `last` is the range before the given characters. -/
def classRanges (last : Char × Char) : List Char → Option (List (Char × Char))
  | [] => some [last]
  | ['-'] => some [last, ('-', '-')]
  | '-' :: c :: cs => if c < last.1 then none else classRanges (last.1, c) cs
  | c :: cs => (classRanges (c, c) cs).map (last :: ·)

/-- A range of characters as ranges of bytes: the bytes count one by one, and only the two that
meet span a range. -/
def byteRanges (r : Char × Char) : List (UInt8 × UInt8) :=
  let low := String.utf8EncodeChar r.1
  let high := String.utf8EncodeChar r.2
  let single (bs : List UInt8) := bs.map fun b => (b, b)
  if r.1 = r.2 then single low
  else single low.dropLast ++ [(low.getLastD 0, high.headD 0)] ++ single (high.drop 1)

/-- The characters in brackets and what follows the closing one. A closing bracket that comes first
is one of the characters. -/
def classBody? : List Char → Option (Char × List Char × List Char)
  | [] => none
  | first :: cs =>
    match cs.dropWhile (· != ']') with
    | [] => none
    | _ :: rest => some (first, cs.takeWhile (· != ']'), rest)

theorem length_classBody? {cs : List Char} {first : Char} {body rest : List Char}
    (h : classBody? cs = some (first, body, rest)) : rest.length < cs.length := by
  cases cs with
  | nil => simp [classBody?] at h
  | cons c cs =>
    simp only [classBody?] at h
    split at h
    · simp at h
    · rename_i heq
      simp only [Option.some.injEq, Prod.mk.injEq] at h
      obtain ⟨-, -, rfl⟩ := h
      have hle := (List.dropWhile_sublist (· != ']') (l := cs)).length_le
      rw [heq] at hle
      simp only [List.length_cons] at hle ⊢
      omega

/-- Brackets without the sign that turns them around, and whether it is there. -/
def classSign : List Char → Bool × List Char
  | '!' :: cs | '^' :: cs => (true, cs)
  | cs => (false, cs)

theorem length_classSign (cs : List Char) : (classSign cs).2.length ≤ cs.length := by
  unfold classSign
  split <;> simp

/-- Reads the items of a glob. `braces` are the open braces, the innermost first, `now` holds the
items since the last brace or comma, last first, and `prev` is the character just read. -/
def readItems (braces : List Brace) (now : List Item) (prev : Option Char) :
    List Char → Option (List Item)
  | [] => if braces.isEmpty then some now.reverse else none
  | '?' :: cs => readItems braces (.token .any :: now) (some '?') cs
  | '*' :: '*' :: cs =>
    let step := twoStars (!braces.isEmpty) now prev cs.head?
    match cs with
    | c :: rest =>
      if step.2 then readItems braces step.1 (some c) rest
      else readItems braces step.1 (some '*') (c :: rest)
    | [] => readItems braces step.1 (some '*') []
  | '*' :: cs => readItems braces (.token .stretch :: now) (some '*') cs
  | '[' :: cs =>
    match h : classBody? (classSign cs).2 with
    | none => readItems braces (literal '[' ++ now) (some '[') cs
    | some (first, body, rest) =>
      have : rest.length < cs.length :=
        Nat.lt_of_lt_of_le (length_classBody? h) (length_classSign cs)
      match classRanges (first, first) body with
      | none => none
      | some ranges =>
        let t := Token.oneOf (classSign cs).1 (ranges.flatMap byteRanges)
        readItems braces (.token t :: now) (some ']') rest
  | '\x7b' :: cs => readItems (⟨now, []⟩ :: braces) [] (some '\x7b') cs
  | '\x7d' :: cs =>
    match braces with
    | [] => none
    | brace :: outer =>
      readItems outer (Brace.close (brace.branches.reverse ++ [now]) :: brace.before)
        (some '\x7d') cs
  | ',' :: cs =>
    match braces with
    | [] => readItems [] (literal ',' ++ now) (some ',') cs
    | brace :: outer =>
      readItems (⟨brace.before, now :: brace.branches⟩ :: outer) [] (some ',') cs
  | ['\\'] => none
  | '\\' :: c :: cs => readItems braces (literal c ++ now) (some c) cs
  | c :: cs => readItems braces (literal c ++ now) (some c) cs
termination_by cs => cs.length

/-- A glob: its alternatives, and whether it passes over names that end in a point. -/
structure Glob where
  alternatives : List (List Token)
  skipsFinalPoint : Bool
  deriving DecidableEq, Repr

namespace Glob

/-- The byte that an item stands for. -/
def literalByte? : Item → Option UInt8
  | .token (.byte b) => some b
  | _ => none

/-- A glob that ends in a point is compared by the ending of the last name, and a name that ends in
a point counts as having none. This does not concern globs that spell out more than one name. -/
def endsInPoint (items : List Item) : Bool :=
  let spelled := items.filterMap literalByte?
  let inDirectory := items.head? == some (.token .anywhere) && spelled.contains slash
  items.getLast? == some (.token (.byte 0x2E)) && spelled.length != items.length
    && !(inDirectory && spelled.length + 1 == items.length)

/-- Reads a glob. -/
def parse? (cs : List Char) : Option Glob := do
  let items ← readItems [] [] none cs
  if items = [.token .anywhere] then return ⟨[[.anything]], false⟩
  return ⟨Item.expand items, endsInPoint items⟩

/-- The glob describes the path. -/
def accepts (g : Glob) (path : List UInt8) : Bool :=
  !(g.skipsFinalPoint && path.getLast? == some 0x2E)
    && g.alternatives.any fun tokens => (remaindersAfter tokens [path]).contains []

end Glob

end SymbolAtlas.Disk
