import SymbolAtlas.Text.Cluster.Table

/-!
# Grapheme clusters

What a reader takes for one character may be several code points: a letter with its accents, the
syllables of Hangul, a flag, a family of pictographs. `clusterHeads` keeps the first code point of
each extended grapheme cluster, which is all that name matching looks at.
-/

namespace SymbolAtlas.Text

/-- The classes of code points that the boundary rules tell apart. -/
inductive ClusterClass where
  | carriageReturn | lineFeed | control | extend | joiner | spacingMark | prepend | regional
  | leadingJamo | vowelJamo | trailingJamo | openSyllable | closedSyllable | pictograph | other
  deriving DecidableEq

/-- The class of a character. -/
def clusterClass (c : Char) : ClusterClass :=
  let n := c.toNat
  if n = 0xD then .carriageReturn
  else if n = 0xA then .lineFeed
  else if n < 0x20 then .control
  else if n < 0x7F then .other
  else if n = 0x200D then .joiner
  else if 0x1F1E6 ≤ n ∧ n ≤ 0x1F1FF then .regional
  else if (0x1100 ≤ n ∧ n ≤ 0x115F) ∨ (0xA960 ≤ n ∧ n ≤ 0xA97C) then .leadingJamo
  else if (0x1160 ≤ n ∧ n ≤ 0x11A7) ∨ (0xD7B0 ≤ n ∧ n ≤ 0xD7C6) then .vowelJamo
  else if (0x11A8 ≤ n ∧ n ≤ 0x11FF) ∨ (0xD7CB ≤ n ∧ n ≤ 0xD7FB) then .trailingJamo
  else if 0xAC00 ≤ n ∧ n ≤ 0xD7A3 then
    if (n - 0xAC00) % 28 = 0 then .openSyllable else .closedSyllable
  else if controlSet.has c then .control
  else if extendSet.has c then .extend
  else if spacingMarkSet.has c then .spacingMark
  else if prependSet.has c then .prepend
  else if pictographSet.has c then .pictograph
  else .other

/-- What the rules remember of the text before a possible boundary. -/
structure ClusterContext where
  /-- The class of the character just before. -/
  last : ClusterClass
  /-- An odd number of regional indicators ends here. -/
  oddRegional : Bool
  /-- A pictograph, followed by extending marks only, ends here or just before a joiner. -/
  pictographBefore : Bool
  /-- A consonant, followed by marks of its conjunct only, ends here. -/
  consonantBefore : Bool
  /-- One of these marks was a virama. -/
  linked : Bool

/-- The context after the character `c` at the start of a text or a cluster sequence. -/
def ClusterContext.start (c : Char) : ClusterContext where
  last := clusterClass c
  oddRegional := clusterClass c = .regional
  pictographBefore := clusterClass c = .pictograph
  consonantBefore := conjunctConsonantSet.has c
  linked := false

/-- The context after one more character. -/
def ClusterContext.push (k : ClusterContext) (c : Char) : ClusterContext :=
  let cls := clusterClass c
  let marks := cls = .extend ∨ cls = .joiner
  { last := cls
    oddRegional := cls = .regional && !(k.last = .regional && k.oddRegional)
    pictographBefore :=
      cls = .pictograph || (k.pictographBefore && (k.last ≠ .joiner && marks))
    consonantBefore := conjunctConsonantSet.has c || (k.consonantBefore && marks)
    linked := !conjunctConsonantSet.has c && marks && k.consonantBefore
      && (k.linked || linkerSet.has c) }

/-- No boundary stands between the context and the character `c`. -/
def ClusterContext.joins (k : ClusterContext) (c : Char) : Bool :=
  let cls := clusterClass c
  match k.last, cls with
  | .carriageReturn, .lineFeed => true
  | .carriageReturn, _ | .lineFeed, _ | .control, _ => false
  | _, .carriageReturn | _, .lineFeed | _, .control => false
  | .leadingJamo, .leadingJamo | .leadingJamo, .vowelJamo | .leadingJamo, .openSyllable
  | .leadingJamo, .closedSyllable => true
  | .openSyllable, .vowelJamo | .openSyllable, .trailingJamo => true
  | .vowelJamo, .vowelJamo | .vowelJamo, .trailingJamo => true
  | .closedSyllable, .trailingJamo | .trailingJamo, .trailingJamo => true
  | _, .extend | _, .joiner | _, .spacingMark => true
  | .prepend, _ => true
  | .regional, .regional => k.oddRegional
  | .joiner, .pictograph => k.pictographBefore
  | _, _ => k.linked && conjunctConsonantSet.has c

/-- What stands for the cluster that starts with `c`: a carriage return with its line feed counts
as the line feed, every other cluster as its first code point. -/
def clusterHead (c : Char) (next : List Char) : Char :=
  if c = '\r' ∧ next.head? = some '\n' then '\n' else c

/-- The heads of the clusters that start after the context. -/
def clusterHeadsFrom (k : ClusterContext) : List Char → List Char
  | [] => []
  | c :: cs =>
    if k.joins c then clusterHeadsFrom (k.push c) cs
    else clusterHead c cs :: clusterHeadsFrom (k.push c) cs

/-- The head of every extended grapheme cluster. -/
def clusterHeads : List Char → List Char
  | [] => []
  | c :: cs => clusterHead c cs :: clusterHeadsFrom (.start c) cs

end SymbolAtlas.Text
