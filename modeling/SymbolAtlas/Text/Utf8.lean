/-!
# UTF-8

Reading bytes as text, strictly and with replacement. A strict reading fails on the first byte that
does not belong; a lenient one puts a replacement character for every maximal piece of a broken
sequence and goes on after it.
-/

namespace SymbolAtlas.Text

/-- The bytes of a text. -/
def toUtf8 (cs : List Char) : List UInt8 := cs.flatMap String.utf8EncodeChar

/-- What a leading byte asks for: its share of the code point, the range of the second byte, and
the number of further bytes after that. -/
def leadingByte (b : UInt8) : Option (Nat × UInt8 × UInt8 × Nat) :=
  let n := b.toNat
  if 0xC2 ≤ n ∧ n ≤ 0xDF then some (n - 0xC0, 0x80, 0xBF, 0)
  else if n = 0xE0 then some (0, 0xA0, 0xBF, 1)
  else if n = 0xED then some (0xD, 0x80, 0x9F, 1)
  else if 0xE1 ≤ n ∧ n ≤ 0xEF then some (n - 0xE0, 0x80, 0xBF, 1)
  else if n = 0xF0 then some (0, 0x90, 0xBF, 2)
  else if 0xF1 ≤ n ∧ n ≤ 0xF3 then some (n - 0xF0, 0x80, 0xBF, 2)
  else if n = 0xF4 then some (4, 0x80, 0x8F, 2)
  else none

/-- Reads continuation bytes: `more` of them after the next, which lies between `low` and `high`.
The second component is what follows the bytes that belong. -/
def continuation (acc : Nat) (low high : UInt8) :
    (more : Nat) → List UInt8 → Option Nat × List UInt8
  | _, [] => (none, [])
  | more, b :: bs =>
    if low ≤ b ∧ b ≤ high then
      let acc' := acc * 64 + (b.toNat - 0x80)
      match more with
      | 0 => (some acc', bs)
      | m + 1 => continuation acc' 0x80 0xBF m bs
    else (none, b :: bs)

/-- Reads one character from the bytes `b :: bs`; `none` stands for a broken sequence. -/
def utf8Step (b : UInt8) (bs : List UInt8) : Option Char × List UInt8 :=
  if b < 0x80 then (some (Char.ofNat b.toNat), bs)
  else match leadingByte b with
    | none => (none, bs)
    | some (acc, low, high, more) =>
      let (value, rest) := continuation acc low high more bs
      (value.map Char.ofNat, rest)

theorem length_continuation_le (acc : Nat) (low high : UInt8) (more : Nat) (bs : List UInt8) :
    (continuation acc low high more bs).2.length ≤ bs.length := by
  induction bs generalizing acc low high more with
  | nil => simp [continuation]
  | cons b bs ih =>
    rw [continuation]
    split
    · cases more with
      | zero => simp
      | succ m => exact Nat.le_succ_of_le (ih _ _ _ m)
    · simp

theorem length_utf8Step_le (b : UInt8) (bs : List UInt8) :
    (utf8Step b bs).2.length ≤ bs.length := by
  unfold utf8Step
  split
  · simp
  · split
    · simp
    · exact length_continuation_le _ _ _ _ _

/-- The characters of a byte sequence, with `none` for every broken piece. -/
def utf8Pieces : List UInt8 → List (Option Char)
  | [] => []
  | b :: bs =>
    let step := utf8Step b bs
    step.1 :: utf8Pieces step.2
termination_by bs => bs.length
decreasing_by exact Nat.lt_succ_of_le (length_utf8Step_le b bs)

/-- The text that the bytes spell, if they spell one. -/
def ofUtf8? (bs : List UInt8) : Option (List Char) := (utf8Pieces bs).mapM id

/-- The text that the bytes spell, with U+FFFD for every broken piece. -/
def ofUtf8Lossy (bs : List UInt8) : List Char :=
  (utf8Pieces bs).map fun piece => piece.getD '\ufffd'

end SymbolAtlas.Text
