import Mathlib.Data.Nat.Basic
import Mathlib.Order.Basic
import SymbolAtlas.Editor.Parameters
import SymbolAtlas.Editor.View
import SymbolAtlas.Proofs.Occurrence

/-!
# Text edits as an editor applies them

An editor cuts a document into lines at line feeds, and a carriage return before a line feed belongs
to the line end and not to the text of the line. Columns count code units of that text, and a column
past its end stands for its end. This module says what text edits mean to such an editor: where
positions are, what a list of edits makes of a document, and which edits an action carries.

Cut at line feeds alone, a document has the same lines, with the carriage returns left at the ends
of their texts; `DocumentLine.piece` is a line in that sense.

## Main results

* `flatMap_chars_documentLines`: the lines are the document.
* `not_mem_text_of_mem_documentLines`: a document whose carriage returns are all followed by line
  feeds has none in the texts of its lines.
* `replace_line`, `exists_edited`: an edit of a whole line, and several of them.
* `read_organizeAction`: what an editor reads from the action that sorts imports.
-/

namespace SymbolAtlas.Editor

/-! ### Lines -/

/-- How a line of a document ends. -/
inductive LineEnding where
  | lf | crlf | none
  deriving DecidableEq, Repr

/-- The characters at the end of a line. -/
def LineEnding.chars : LineEnding → List Char
  | .lf => ['\n']
  | .crlf => ['\r', '\n']
  | .none => []

/-- The carriage return at the end of a line, if there is one. -/
def LineEnding.carriage : LineEnding → List Char
  | .crlf => ['\r']
  | .lf | .none => []

/-- A line of a document. -/
structure DocumentLine where
  text : List Char
  ending : LineEnding
  deriving DecidableEq, Repr

namespace DocumentLine

/-- The line with its end. -/
def chars (l : DocumentLine) : List Char := l.text ++ l.ending.chars

/-- The line up to its line feed. -/
def piece (l : DocumentLine) : List Char := l.text ++ l.ending.carriage

/-- The line that consists of the characters before a line feed. -/
def closed (cs : List Char) : DocumentLine :=
  if cs.getLast? = some '\r' then ⟨cs.dropLast, .crlf⟩ else ⟨cs, .lf⟩

/-- The lines that end at line feeds, and the last one. -/
def ofPieces : List (List Char) → List DocumentLine
  | [] => []
  | [piece] => [⟨piece, .none⟩]
  | piece :: next :: pieces => closed piece :: ofPieces (next :: pieces)

theorem closed_concat (cs : List Char) : closed (cs ++ ['\r']) = ⟨cs, .crlf⟩ := by
  simp [closed]

theorem closed_of_ne {cs : List Char} (h : cs.getLast? ≠ some '\r') : closed cs = ⟨cs, .lf⟩ :=
  if_neg h

/-- A carriage return at the end belongs to the line end. -/
theorem closed_cases (cs : List Char) :
    (∃ text, cs = text ++ ['\r'] ∧ closed cs = ⟨text, .crlf⟩) ∨
      cs.getLast? ≠ some '\r' ∧ closed cs = ⟨cs, .lf⟩ := by
  by_cases h : cs.getLast? = some '\r'
  · obtain ⟨text, rfl⟩ := List.getLast?_eq_some_iff.mp h
    exact .inl ⟨text, rfl, closed_concat text⟩
  · exact .inr ⟨h, closed_of_ne h⟩

@[simp] theorem piece_closed (cs : List Char) : (closed cs).piece = cs := by
  obtain ⟨text, rfl, hclosed⟩ | ⟨-, hclosed⟩ := closed_cases cs
  · rw [hclosed]
    rfl
  · rw [hclosed]
    exact List.append_nil cs

/-- Any other character in front belongs to the text. -/
theorem closed_cons {c : Char} (hc : c ≠ '\r') (cs : List Char) :
    closed (c :: cs) = ⟨c :: (closed cs).text, (closed cs).ending⟩ := by
  obtain ⟨text, rfl, hclosed⟩ | ⟨hlast, hclosed⟩ := closed_cases cs
  · rw [hclosed]
    exact closed_concat (c :: text)
  · rw [hclosed]
    refine closed_of_ne ?_
    cases cs with
    | nil => simpa using hc
    | cons d cs => rwa [List.getLast?_cons_cons]

theorem ofPieces_cons {pieces : List (List Char)} (hne : pieces ≠ []) (piece : List Char) :
    ofPieces (piece :: pieces) = closed piece :: ofPieces pieces := by
  cases pieces with
  | nil => exact absurd rfl hne
  | cons next pieces => rfl

/-- Up to their line feeds the lines are the pieces. -/
@[simp] theorem map_piece_ofPieces (pieces : List (List Char)) :
    (ofPieces pieces).map piece = pieces := by
  induction pieces with
  | nil => rfl
  | cons first pieces ih =>
      cases pieces with
      | nil => simp [ofPieces, piece, LineEnding.carriage]
      | cons next pieces => simp [ofPieces, ih]

/-! ### Lines that are put together again -/

/-- Every line but the last one ends in a line feed. -/
def Closes : List LineEnding → Prop
  | [] => False
  | [e] => e = .none
  | e :: next :: es => e ≠ .none ∧ Closes (next :: es)

theorem closed_ending_ne (cs : List Char) : (closed cs).ending ≠ .none := by
  obtain ⟨text, -, hclosed⟩ | ⟨-, hclosed⟩ := closed_cases cs <;> simp [hclosed]

theorem closes_ofPieces {pieces : List (List Char)} (hne : pieces ≠ []) :
    Closes ((ofPieces pieces).map (·.ending)) := by
  induction pieces with
  | nil => exact absurd rfl hne
  | cons piece pieces ih =>
      cases pieces with
      | nil => rfl
      | cons next pieces =>
          have hrest := ih (List.cons_ne_nil _ _)
          rw [ofPieces_cons (List.cons_ne_nil _ _)]
          cases hlines : ofPieces (next :: pieces) with
          | nil => rw [hlines] at hrest; exact hrest.elim
          | cons l ls =>
              rw [hlines] at hrest
              exact ⟨closed_ending_ne piece, hrest⟩

variable {l : DocumentLine} {ls : List DocumentLine}

/-- A line that is not the last one is its piece and a line feed. -/
theorem chars_of_ending_ne (h : l.ending ≠ .none) : l.chars = l.piece ++ ['\n'] := by
  obtain ⟨text, ending⟩ := l
  cases ending with
  | lf => simp [chars, piece, LineEnding.chars, LineEnding.carriage]
  | crlf => simp [chars, piece, LineEnding.chars, LineEnding.carriage]
  | none => exact absurd rfl h

/-- Lines that end in line feeds are their pieces joined by line feeds. -/
theorem flatMap_chars_of_closes (h : Closes (ls.map (·.ending))) :
    ls.flatMap chars = Text.joinWith '\n' (ls.map piece) := by
  induction ls with
  | nil => exact h.elim
  | cons l ls ih =>
      cases ls with
      | nil =>
          obtain ⟨text, ending⟩ := l
          obtain rfl : ending = .none := h
          simp [chars, piece, LineEnding.chars, LineEnding.carriage, Text.joinWith]
      | cons next ls =>
          obtain ⟨hl, hls⟩ := h
          have hjoin : Text.joinWith '\n' ((l :: next :: ls).map piece) =
              l.piece ++ '\n' :: Text.joinWith '\n' ((next :: ls).map piece) := rfl
          rw [List.flatMap_cons, ih hls, chars_of_ending_ne hl, hjoin, List.append_assoc]
          rfl

/-- A line is found again if its end is. -/
theorem closed_piece_of_ending (h : (closed l.piece).ending = l.ending) : closed l.piece = l := by
  obtain ⟨text, ending⟩ := l
  cases ending with
  | crlf => exact closed_concat text
  | none => exact absurd h (closed_ending_ne _)
  | lf =>
      obtain ⟨text', -, hclosed⟩ | ⟨-, hclosed⟩ := closed_cases (piece ⟨text, .lf⟩)
      · rw [hclosed] at h
        cases h
      · rw [hclosed]
        simp [piece, LineEnding.carriage]

/-- A line whose text has no carriage return is found again. -/
theorem closed_piece_of_not_mem (hne : l.ending ≠ .none) (h : '\r' ∉ l.text) :
    closed l.piece = l := by
  obtain ⟨text, ending⟩ := l
  cases ending with
  | crlf => exact closed_concat text
  | none => exact absurd rfl hne
  | lf =>
      have hpiece : piece ⟨text, .lf⟩ = text := List.append_nil text
      rw [hpiece]
      exact closed_of_ne fun hlast => h (List.mem_of_getLast? hlast)

/-- The text of a line without carriage return, read off its piece. -/
theorem text_closed_piece (h : '\r' ∉ l.text) : (closed l.piece).text = l.text := by
  by_cases hne : l.ending = .none
  · obtain ⟨text, ending⟩ := l
    subst hne
    have hpiece : piece ⟨text, .none⟩ = text := List.append_nil text
    rw [hpiece, closed_of_ne fun hlast => h (List.mem_of_getLast? hlast)]
  · rw [closed_piece_of_not_mem hne h]

/-- Lines are found again if their ends are. -/
theorem ofPieces_map_piece (hcloses : Closes (ls.map (·.ending)))
    (h : ∀ l ∈ ls, l.ending ≠ .none → closed l.piece = l) : ofPieces (ls.map piece) = ls := by
  induction ls with
  | nil => exact hcloses.elim
  | cons l ls ih =>
      obtain ⟨hl, hls⟩ := List.forall_mem_cons.mp h
      cases ls with
      | nil =>
          obtain ⟨text, ending⟩ := l
          obtain rfl : ending = .none := hcloses
          simp [ofPieces, piece, LineEnding.carriage]
      | cons next ls =>
          have hrest := ih hcloses.2 hls
          rw [List.map_cons, ofPieces_cons (by simp), hrest, hl hcloses.1]

/-- The pieces of lines have the same ends only if they are the lines. -/
theorem eq_of_endings_eq (hcloses : Closes (ls.map (·.ending)))
    (h : (ofPieces (ls.map piece)).map (·.ending) = ls.map (·.ending)) :
    ofPieces (ls.map piece) = ls := by
  induction ls with
  | nil => exact hcloses.elim
  | cons l ls ih =>
      cases ls with
      | nil =>
          obtain ⟨text, ending⟩ := l
          obtain rfl : ending = .none := hcloses
          simp [ofPieces, piece, LineEnding.carriage]
      | cons next ls =>
          obtain ⟨hl, hls⟩ : (closed l.piece).ending = l.ending ∧
              (ofPieces ((next :: ls).map piece)).map (·.ending) = (next :: ls).map (·.ending) :=
            List.cons.inj h
          rw [List.map_cons, ofPieces_cons (by simp), ih hcloses.2 hls, closed_piece_of_ending hl]

end DocumentLine

/-- The lines of a document. -/
def documentLines (cs : List Char) : List DocumentLine :=
  DocumentLine.ofPieces (Text.splitOn '\n' cs)

/-- Up to their line feeds the lines of a document are what it is cut into at line feeds. -/
theorem map_piece_documentLines (cs : List Char) :
    (documentLines cs).map DocumentLine.piece = Text.splitOn '\n' cs :=
  DocumentLine.map_piece_ofPieces _

theorem piece_mem_splitOn {cs : List Char} {l : DocumentLine} (h : l ∈ documentLines cs) :
    l.piece ∈ Text.splitOn '\n' cs := by
  rw [← map_piece_documentLines]
  exact List.mem_map_of_mem h

theorem length_documentLines (cs : List Char) :
    (documentLines cs).length = (Text.splitOn '\n' cs).length := by
  rw [← map_piece_documentLines, List.length_map]

theorem closes_documentLines (cs : List Char) :
    DocumentLine.Closes ((documentLines cs).map (·.ending)) :=
  DocumentLine.closes_ofPieces (Text.splitOn_ne_nil _ _)

/-- **The lines with their ends** are the document. -/
theorem flatMap_chars_documentLines (cs : List Char) :
    (documentLines cs).flatMap DocumentLine.chars = cs := by
  rw [DocumentLine.flatMap_chars_of_closes (closes_documentLines cs), map_piece_documentLines,
    Text.joinWith_splitOn]

/-- A line feed ends a line. -/
theorem documentLines_lf (cs : List Char) :
    documentLines ('\n' :: cs) = ⟨[], .lf⟩ :: documentLines cs := by
  simp only [documentLines, Text.splitOn, if_true]
  exact DocumentLine.ofPieces_cons (Text.splitOn_ne_nil _ _) []

/-- A carriage return and a line feed end a line. -/
theorem documentLines_crlf (cs : List Char) :
    documentLines ('\r' :: '\n' :: cs) = ⟨[], .crlf⟩ :: documentLines cs := by
  simp only [documentLines, Text.splitOn, if_true]
  exact DocumentLine.ofPieces_cons (Text.splitOn_ne_nil _ _) ['\r']

/-- Any other character belongs to the text of its line. -/
theorem documentLines_cons {c : Char} (hlf : c ≠ '\n') (hcr : c ≠ '\r') (cs : List Char) :
    ∃ l ls, documentLines cs = l :: ls ∧
      documentLines (c :: cs) = ⟨c :: l.text, l.ending⟩ :: ls := by
  simp only [documentLines, Text.splitOn, if_neg hlf]
  cases hs : Text.splitOn '\n' cs with
  | nil => exact absurd hs (Text.splitOn_ne_nil _ _)
  | cons piece pieces =>
      cases pieces with
      | nil => exact ⟨_, _, rfl, rfl⟩
      | cons next pieces =>
          refine ⟨_, _, rfl, ?_⟩
          simp only [DocumentLine.ofPieces, DocumentLine.closed_cons hcr]

/-- Every carriage return is followed by a line feed. -/
def EndsLines (cs : List Char) : Prop := ∀ i, cs[i]? = some '\r' → cs[i + 1]? = some '\n'

instance (cs : List Char) : Decidable (EndsLines cs) :=
  decidable_of_iff (∀ i < cs.length, cs[i]? = some '\r' → cs[i + 1]? = some '\n')
    ⟨fun h i hi => h i (List.getElem?_eq_some_iff.mp hi).1 hi, fun h i _ => h i⟩

theorem EndsLines.tail {c : Char} {cs : List Char} (h : EndsLines (c :: cs)) : EndsLines cs :=
  fun i hi => h (i + 1) hi

/-- **No text of a line has a carriage return** if all of them are followed by line feeds. -/
theorem not_mem_text_of_mem_documentLines {cs : List Char} (h : EndsLines cs) :
    ∀ l ∈ documentLines cs, '\r' ∉ l.text := by
  induction cs with
  | nil => simp [documentLines, Text.splitOn, DocumentLine.ofPieces]
  | cons c cs ih =>
      have hrest := ih h.tail
      by_cases hlf : c = '\n'
      · subst hlf
        rw [documentLines_lf]
        exact List.forall_mem_cons.mpr ⟨List.not_mem_nil, hrest⟩
      · by_cases hcr : c = '\r'
        · subst hcr
          obtain ⟨rest, rfl⟩ : ∃ rest, cs = '\n' :: rest := by
            have hnext : cs[0]? = some '\n' := h 0 rfl
            cases cs with
            | nil => cases hnext
            | cons d rest => exact ⟨rest, by rw [Option.some.inj hnext]⟩
          rw [documentLines_lf] at hrest
          rw [documentLines_crlf]
          exact List.forall_mem_cons.mpr ⟨List.not_mem_nil, (List.forall_mem_cons.mp hrest).2⟩
        · obtain ⟨l, ls, hls, hcons⟩ := documentLines_cons hlf hcr cs
          rw [hls] at hrest
          rw [hcons]
          obtain ⟨hl, hls⟩ := List.forall_mem_cons.mp hrest
          refine List.forall_mem_cons.mpr ⟨?_, hls⟩
          simp [Ne.symm hcr, hl]

/-! ### Positions -/

/-- How many characters of a text are before a column. A column inside of a character is taken for
the one before it, a column past the end for the end. -/
def columnOffset : List Char → Nat → Nat
  | [], _ => 0
  | c :: cs, n =>
    if Text.unitWidth c ≤ n then columnOffset cs (n - Text.unitWidth c) + 1 else 0

/-- How many characters of a document are before a position. -/
def offset (lines : List DocumentLine) (p : Position) : Nat :=
  ((lines.take p.line).flatMap DocumentLine.chars).length +
    (lines[p.line]?.map fun l => columnOffset l.text p.character).getD 0

@[simp] theorem columnOffset_zero (cs : List Char) : columnOffset cs 0 = 0 := by
  cases cs with
  | nil => rfl
  | cons c cs =>
      have hc := Text.unitWidth_pos c
      rw [columnOffset, if_neg (by omega)]

theorem columnOffset_le (cs : List Char) (n : Nat) : columnOffset cs n ≤ cs.length := by
  induction cs generalizing n with
  | nil => exact le_rfl
  | cons c cs ih =>
      rw [columnOffset]
      split
      · exact Nat.succ_le_succ (ih _)
      · exact Nat.zero_le _

/-- A column is at the end of a text that is at most as wide. -/
theorem drop_columnOffset_eq_nil_iff {cs : List Char} {n : Nat} :
    cs.drop (columnOffset cs n) = [] ↔ Text.unitCount cs ≤ n := by
  induction cs generalizing n with
  | nil => simp [columnOffset, Text.unitCount]
  | cons c cs ih =>
      rw [columnOffset, Text.unitCount]
      split
      next hc =>
        rw [List.drop_succ_cons, ih]
        omega
      next hc =>
        simp only [List.drop_zero, List.cons_ne_nil, false_iff]
        omega

/-- A position in a line of a document. -/
theorem offset_append (before after : List DocumentLine) (l : DocumentLine) (n : Nat) :
    offset (before ++ l :: after) ⟨before.length, n⟩ =
      (before.flatMap DocumentLine.chars).length + columnOffset l.text n := by
  simp [offset]

/-! ### Edits -/

/-- The first position is not after the second one. -/
def notAfter (p q : Position) : Bool :=
  p.line < q.line || p.line == q.line && p.character ≤ q.character

theorem notAfter_iff {p q : Position} :
    notAfter p q = true ↔ p.line < q.line ∨ p.line = q.line ∧ p.character ≤ q.character := by
  simp [notAfter]

/-- Replaces what is between two positions. -/
structure TextEdit where
  start : Position
  finish : Position
  newText : String
  deriving DecidableEq, Repr

/-- The characters after an edit, whose positions are those of the given lines. -/
def replace (lines : List DocumentLine) (e : TextEdit) (cs : List Char) : List Char :=
  cs.take (offset lines e.start) ++ e.newText.toList ++ cs.drop (offset lines e.finish)

/-- The document after edits, which all refer to it as it is before. They may be listed in any
order, and none may start before another one ends. The last one is applied first, so that the
positions of the others still hold. -/
def applyEdits? (contents : String) (edits : List TextEdit) : Option String :=
  let sorted := edits.mergeSort fun d e => notAfter d.start e.start
  if sorted.Pairwise (fun d e => notAfter d.finish e.start) then
    some (String.ofList (sorted.foldr (replace (documentLines contents.toList)) contents.toList))
  else none

/-- **An edit of a line** from its start up to a column replaces the text before that column. -/
theorem replace_line (before after : List DocumentLine) (l : DocumentLine) (n : Nat)
    (newText : String) (rest : List Char) :
    replace (before ++ l :: after) ⟨⟨before.length, 0⟩, ⟨before.length, n⟩, newText⟩
        (before.flatMap DocumentLine.chars ++ (l.chars ++ rest)) =
      before.flatMap DocumentLine.chars ++
        (newText.toList ++ l.text.drop (columnOffset l.text n) ++ l.ending.chars ++ rest) := by
  have hcolumn : columnOffset l.text n ≤ l.text.length := columnOffset_le _ _
  have hdrop : (l.chars ++ rest).drop (columnOffset l.text n) =
      l.text.drop (columnOffset l.text n) ++ l.ending.chars ++ rest := by
    rw [DocumentLine.chars, List.append_assoc, List.drop_append_of_le_length hcolumn,
      List.append_assoc]
  rw [replace, offset_append, offset_append, columnOffset_zero, Nat.add_zero, List.take_left,
    ← List.drop_drop, List.drop_left, hdrop]
  simp only [List.append_assoc]

/-- An edit of a whole line, as an editor reads it. -/
def wholeLine (e : LineEdit) : TextEdit := ⟨⟨e.line, 0⟩, ⟨e.line, lineEnd⟩, e.newText⟩

/-- Edits of whole lines in the order of the lines are applied as they are listed. -/
theorem applyEdits?_wholeLine {edits : List LineEdit} (contents : String)
    (h : edits.Pairwise fun d e => d.line < e.line) :
    applyEdits? contents (edits.map wholeLine) = some (String.ofList
      ((edits.map wholeLine).foldr (replace (documentLines contents.toList)) contents.toList)) := by
  have hstart : (edits.map wholeLine).Pairwise fun d e => notAfter d.start e.start = true :=
    List.pairwise_map.mpr (h.imp fun hlt => by simp [wholeLine, notAfter, hlt])
  have hfinish : (edits.map wholeLine).Pairwise fun d e => notAfter d.finish e.start = true :=
    List.pairwise_map.mpr (h.imp fun hlt => by simp [wholeLine, notAfter, hlt])
  simp only [applyEdits?, List.mergeSort_of_pairwise hstart]
  exact if_pos hfinish

/-- Edits of whole lines are applied in the order of the lines, and only if no two are of one
line. -/
theorem exists_sorted_of_applyEdits? {edits : List LineEdit} {contents after : String}
    (h : applyEdits? contents (edits.map wholeLine) = some after) :
    ∃ sorted : List LineEdit, sorted.Perm edits ∧ (sorted.Pairwise fun d e => d.line < e.line) ∧
      after = String.ofList
        ((sorted.map wholeLine).foldr (replace (documentLines contents.toList))
          contents.toList) := by
  let sorted := edits.mergeSort fun d e => notAfter (wholeLine d).start (wholeLine e).start
  have hsorted : sorted.map wholeLine =
      (edits.map wholeLine).mergeSort fun d e => notAfter d.start e.start :=
    List.map_mergeSort fun _ _ _ _ => rfl
  simp only [applyEdits?, ← hsorted] at h
  split at h
  next hfinish =>
    refine ⟨sorted, List.mergeSort_perm _ _, (List.pairwise_map.mp hfinish).imp ?_,
      (Option.some.inj h).symm⟩
    intro d e hbefore
    rcases notAfter_iff.mp hbefore with hlt | ⟨-, hend⟩
    · exact hlt
    · exact absurd hend (show ¬lineEnd ≤ 0 by decide)
  next => cases h

/-- What an editor makes of a line whose text is replaced, up to the greatest column. -/
def overwritten (l : DocumentLine) (new : List Char) : DocumentLine :=
  ⟨new ++ l.text.drop (columnOffset l.text lineEnd), l.ending⟩

/-- Edits make the second listing of lines out of the first one, which starts with the given line
number: each edit overwrites its line, and all other lines stay. -/
structure Edited (n : Nat) (edits : List LineEdit) (old new : List DocumentLine) : Prop where
  endings : new.map (·.ending) = old.map (·.ending)
  kept : ∀ i l, old[i]? = some l → (∀ e ∈ edits, e.line ≠ n + i) → new[i]? = some l
  replaced : ∀ e ∈ edits, ∃ i l, e.line = n + i ∧ old[i]? = some l ∧
    new[i]? = some (overwritten l e.newText.toList)

variable {n : Nat} {edits : List LineEdit} {old new : List DocumentLine}

/-- All edits are of later lines. -/
theorem Edited.cons_kept (h : Edited (n + 1) edits old new) (l : DocumentLine) :
    Edited n edits (l :: old) (l :: new) := by
  refine ⟨congrArg (l.ending :: ·) h.endings, ?_, ?_⟩
  · rintro (_ | i) l' hl' hne
    · exact hl'
    · refine h.kept i l' hl' fun e he => ?_
      have hne := hne e he
      omega
  · intro e he
    obtain ⟨i, l', hnumber, hold, hnew⟩ := h.replaced e he
    exact ⟨i + 1, l', by omega, hold, hnew⟩

/-- The first edit is of the first line, and all others are of later lines. -/
theorem Edited.cons_replaced (h : Edited (n + 1) edits old new) {e : LineEdit} (he : e.line = n)
    (l : DocumentLine) :
    Edited n (e :: edits) (l :: old) (overwritten l e.newText.toList :: new) := by
  refine ⟨congrArg (l.ending :: ·) h.endings, ?_, ?_⟩
  · rintro (_ | i) l' hl' hother
    · exact absurd he (hother e List.mem_cons_self)
    · refine h.kept i l' hl' fun d hd => ?_
      have hne := hother d (List.mem_cons_of_mem e hd)
      omega
  · refine List.forall_mem_cons.mpr ⟨⟨0, l, he, rfl, rfl⟩, fun d hd => ?_⟩
    obtain ⟨i, l', hnumber, hold, hnew⟩ := h.replaced d hd
    exact ⟨i + 1, l', by omega, hold, hnew⟩

/-- **The edits of whole lines**, in the order of the lines. The edits of the later lines have been
applied when the edit of a line is; what is before it is still as it was. -/
theorem exists_edited (before old : List DocumentLine) {edits : List LineEdit}
    (hsorted : edits.Pairwise fun d e => d.line < e.line)
    (hrange : ∀ e ∈ edits, before.length ≤ e.line ∧ e.line < before.length + old.length) :
    ∃ new, (edits.map wholeLine).foldr (replace (before ++ old))
        ((before ++ old).flatMap DocumentLine.chars) = (before ++ new).flatMap DocumentLine.chars ∧
      Edited before.length edits old new := by
  induction old generalizing before edits with
  | nil =>
      have hnone : edits = [] := by
        refine List.eq_nil_iff_forall_not_mem.mpr fun e he => ?_
        obtain ⟨hle, hlt⟩ := hrange e he
        rw [List.length_nil] at hlt
        omega
      subst hnone
      exact ⟨[], rfl, rfl, nofun, nofun⟩
  | cons l old ih =>
      have hlength : (before ++ [l]).length = before.length + 1 := by simp
      rw [List.length_cons] at hrange
      have hlater {edits : List LineEdit} (hsorted : edits.Pairwise fun d e => d.line < e.line)
          (hrange : ∀ e ∈ edits,
            before.length < e.line ∧ e.line < before.length + (old.length + 1)) :
          ∃ new, (edits.map wholeLine).foldr (replace (before ++ l :: old))
              ((before ++ l :: old).flatMap DocumentLine.chars) =
                (before ++ l :: new).flatMap DocumentLine.chars ∧
            Edited (before.length + 1) edits old new := by
        have hnext := ih (before ++ [l]) hsorted fun e he => by
          have hboth := hrange e he
          omega
        simpa only [hlength, List.append_assoc, List.singleton_append] using hnext
      by_cases hhead : ∃ e ∈ edits.head?, e.line = before.length
      · obtain ⟨e, hfirst, he⟩ := hhead
        obtain ⟨later, rfl⟩ : ∃ later, edits = e :: later := List.head?_eq_some_iff.mp hfirst
        obtain ⟨hfront, hafter⟩ := List.pairwise_cons.mp hsorted
        obtain ⟨new, hfoldr, hedited⟩ := hlater hafter fun d hd => by
          have hlt := hfront d hd
          have hboth := hrange d (List.mem_cons_of_mem e hd)
          omega
        refine ⟨overwritten l e.newText.toList :: new, ?_, hedited.cons_replaced he l⟩
        have hreplace := replace_line before old l lineEnd e.newText
          (new.flatMap DocumentLine.chars)
        rw [List.map_cons, List.foldr_cons, hfoldr, wholeLine, he]
        simpa [overwritten, DocumentLine.chars] using hreplace
      · have hpast : ∀ e ∈ edits, before.length < e.line := by
          cases edits with
          | nil => exact nofun
          | cons e later =>
              have hne : e.line ≠ before.length := fun heq => hhead ⟨e, rfl, heq⟩
              have hle := (hrange e List.mem_cons_self).1
              have hfirst : before.length < e.line := by omega
              refine List.forall_mem_cons.mpr ⟨hfirst, fun d hd => ?_⟩
              exact hfirst.trans (List.rel_of_pairwise_cons hsorted hd)
        obtain ⟨new, hfoldr, hedited⟩ :=
          hlater hsorted fun e he => ⟨hpast e he, (hrange e he).2⟩
        exact ⟨l :: new, hfoldr, hedited.cons_kept l⟩

/-! ### Actions -/

namespace Reader

/-- An edit of a document. -/
def textEdit : Reader TextEdit := fun j => do
  let r ← Record.ofObject j
  let (start, finish) ← r.field "range" range
  some ⟨start, finish, ← r.field "newText" text⟩

/-- The edits of a document that an action makes. -/
def actionEdits (u : Uri) : Reader (List TextEdit) := fun j => do
  let action ← Record.ofObject j
  let edit ← action.field "edit" Record.ofObject
  let changes ← edit.field "changes" Record.ofObject
  changes.field u.text (list textEdit)

end Reader

theorem field?_first {m n : String} (h : m ≠ n) (a b : Json) :
    (Json.obj [(m, a), (n, b)]).field? m = some a := by
  simp [Json.field?, Ne.symm h]

theorem field?_second (m n : String) (a b : Json) :
    (Json.obj [(m, a), (n, b)]).field? n = some b := by
  simp [Json.field?]

theorem read_nat (n : Nat) :
    Reader.word (.nat n) = if n < Number.words32 then some n else none := by
  simp [Reader.word, Json.nat, Json.natBelow?]

/-- A position is read from its two numbers. -/
theorem read_position (line character : Json) :
    Reader.position (.obj [("line", line), ("character", character)]) =
      (Reader.word line).bind fun m => (Reader.word character).map fun n => ⟨m, n⟩ := by
  have hline := field?_first (show "line" ≠ "character" by decide) line character
  have hcharacter := field?_second "line" "character" line character
  simp only [Reader.position, Record.ofSize, Option.bind_eq_bind, Option.bind_some, Record.get,
    Record.value?, hline, hcharacter]
  cases Reader.word line <;> cases Reader.word character <;> rfl

/-- A range is read from its two positions. -/
theorem read_range (start finish : Json) :
    Reader.range (range start finish) =
      (Reader.position start).bind fun p => (Reader.position finish).map fun q => (p, q) := by
  have hstart := field?_first (show "start" ≠ "end" by decide) start finish
  have hfinish := field?_second "start" "end" start finish
  simp only [Reader.range, range, Record.ofSize, Option.bind_eq_bind, Option.bind_some, Record.get,
    Record.value?, hstart, hfinish]
  cases Reader.position start <;> cases Reader.position finish <;> rfl

/-- An edit is read from its range and its text. -/
theorem read_edit (place : Json) (newText : String) :
    Reader.textEdit (.obj [("range", place), ("newText", .str newText)]) =
      (Reader.range place).map fun r => ⟨r.1, r.2, newText⟩ := by
  have hrange := field?_first (show "range" ≠ "newText" by decide) place (.str newText)
  have htext := field?_second "range" "newText" place (.str newText)
  simp only [Reader.textEdit, Record.ofObject, Option.bind_eq_bind, Option.bind_some, Record.field,
    Record.get, Record.value?, hrange, htext]
  cases Reader.range place <;> rfl

/-- The edit of a line is read as an edit of the whole line, if the line number is a word. -/
theorem read_lineEdit (e : LineEdit) :
    Reader.textEdit (textEdit e) =
      if e.line < Number.words32 then some (wholeLine e) else none := by
  have hzero : Reader.word (.nat 0) = some 0 := by rw [read_nat, if_pos (by decide)]
  have hend : Reader.word (.nat lineEnd) = some lineEnd := by rw [read_nat, if_pos (by decide)]
  rw [textEdit, read_edit, read_range, position, position, read_position, read_position, hzero,
    hend, read_nat]
  split <;> rfl

/-- The edits of lines are read as edits of whole lines, if the line numbers are words. -/
theorem read_lineEdits (edits : List LineEdit) :
    (edits.map textEdit).mapM Reader.textEdit =
      if ∀ e ∈ edits, e.line < Number.words32 then some (edits.map wholeLine) else none := by
  induction edits with
  | nil => rfl
  | cons e edits ih =>
      have hall : (∀ d ∈ e :: edits, d.line < Number.words32) ↔
          e.line < Number.words32 ∧ ∀ d ∈ edits, d.line < Number.words32 := List.forall_mem_cons
      rw [List.map_cons, List.mapM_cons, ih, read_lineEdit]
      by_cases he : e.line < Number.words32
      · by_cases hedits : ∀ d ∈ edits, d.line < Number.words32
        · rw [if_pos he, if_pos hedits, if_pos (hall.mpr ⟨he, hedits⟩)]
          rfl
        · rw [if_pos he, if_neg hedits, if_neg (mt (fun h => (hall.mp h).2) hedits)]
          rfl
      · rw [if_neg he, if_neg (mt (fun h => (hall.mp h).1) he)]
        rfl

/-- **What an editor reads** from the action that sorts imports. -/
theorem read_organizeAction {u : Uri} {edits : List LineEdit} {action : Json}
    (h : organizeAction? u edits = some action) :
    Reader.actionEdits u action =
      if ∀ e ∈ edits, e.line < Number.words32 then some (edits.map wholeLine) else none := by
  rw [organizeAction?] at h
  split at h
  · cases h
  · cases h
    rw [← read_lineEdits]
    simp [Reader.actionEdits, Record.ofObject, Record.field, Record.get, Record.value?,
      Json.field?, Reader.list, Json.arr?]

/-- The document after an action, or after none. -/
def afterAction? (u : Uri) (contents : String) : Option Json → Option String
  | none => some contents
  | some action => (Reader.actionEdits u action).bind (applyEdits? contents)

end SymbolAtlas.Editor
