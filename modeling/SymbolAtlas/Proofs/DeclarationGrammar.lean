import SymbolAtlas.Proofs.ShortTexts

/-!
# Declarations by their grammar

`StandsAt keyword line column identifier` says that the line reads, from the column on, the keyword,
one space and the identifier, which is a letter and at least one more character of identifiers and
as long as it can be. `occurrences` lists all places of a line where this is so, also those that
overlap, and `pickApart` goes through them from left to right and passes over what starts before the
end of the last pick. The extraction does both at once and looks at no place inside a pick.

Two occurrences of one keyword overlap in one way only. The later one cannot start in the keyword of
the earlier one or at the space after it, and it cannot end before the identifier does, for there is
a space behind it; so it is the end of the identifier. This is all that the extraction passes over.

## Main results

* `mem_occurrences`, `pairwise_occurrences`: the listing has all occurrences, from left to right.
* `picks_eq`: the extraction picks occurrences that do not overlap.
* `StandsAt.suffix_of_overlap`: how occurrences overlap.
* `declarations_follow_grammar`: the declarations of a file, and what is left out.
-/

namespace SymbolAtlas

/-! ### The grammar -/

/-- A letter and at least one more character of identifiers. -/
def IsIdentifier (cs : List Char) : Prop :=
  ∃ c d rest, cs = c :: d :: rest ∧ c.isAlpha = true ∧ ∀ x ∈ d :: rest, isTermChar x = true

/-- The line reads, from the column on, the keyword, one space and the identifier, and the
identifier does not go on. -/
def StandsAt (keyword line : List Char) (column : Nat) (identifier : List Char) : Prop :=
  ∃ before after, line = before ++ (keyword ++ ' ' :: identifier) ++ after ∧
    Text.unitCount before = column ∧ IsIdentifier identifier ∧
    ∀ c ∈ after.head?, isTermChar c = false

theorem IsIdentifier.isTermChar {cs : List Char} (h : IsIdentifier cs) :
    ∀ c ∈ cs, isTermChar c = true := by
  obtain ⟨c, d, rest, rfl, hc, hrest⟩ := h
  have hterm : SymbolAtlas.isTermChar c = true := by
    simp [SymbolAtlas.isTermChar, Char.isAlphanum, hc]
  exact List.forall_mem_cons.mpr ⟨hterm, hrest⟩

/-- **An identifier is found** at the start of a text exactly if the text starts with one that does
not go on. -/
theorem identifier?_eq_some_iff {cs identifier : List Char} :
    identifier? cs = some identifier ↔ ∃ after, cs = identifier ++ after ∧
      IsIdentifier identifier ∧ ∀ c ∈ after.head?, isTermChar c = false := by
  constructor
  · intro h
    obtain ⟨after, hsplit, -, hword, hafter⟩ := identifier?_eq_some h
    refine ⟨after, hsplit, ?_, hafter⟩
    unfold identifier? at h
    split at h
    case h_2 => cases h
    case h_1 c d rest =>
      split at h
      case isFalse => cases h
      case isTrue hhead =>
        cases h
        exact ⟨c, d, _, rfl, (Bool.and_eq_true_iff.mp hhead).1,
          fun x hx => hword x (List.mem_cons_of_mem _ hx)⟩
  · rintro ⟨after, rfl, ⟨c, d, rest, rfl, hc, hrest⟩, hafter⟩
    obtain ⟨hd, hrest⟩ := List.forall_mem_cons.mp hrest
    have htake := takeWhile_append_of_stop hrest hafter
    simp only [List.cons_append, identifier?, hc, hd, htake, Bool.and_self, if_true]

/-- A keyword declares something at the start of a text exactly if the text reads so. -/
theorem declared?_eq_some_iff {keyword cs identifier : List Char} :
    declared? keyword cs = some identifier ↔
      ∃ after, cs = (keyword ++ ' ' :: identifier) ++ after ∧ IsIdentifier identifier ∧
        ∀ c ∈ after.head?, isTermChar c = false := by
  constructor
  · intro h
    obtain ⟨after, hcs, hfound⟩ := declared?_eq_some h
    obtain ⟨after', hsplit, hident, hafter⟩ := identifier?_eq_some_iff.mp hfound
    rw [← List.append_cancel_left hsplit] at hafter
    exact ⟨after, hcs, hident, hafter⟩
  · rintro ⟨after, rfl, hident, hafter⟩
    have hprefix : (keyword ++ [' ']).isPrefixOf ((keyword ++ ' ' :: identifier) ++ after) = true :=
      List.isPrefixOf_iff_prefix.mpr ⟨identifier ++ after, by simp⟩
    have hdrop : ((keyword ++ ' ' :: identifier) ++ after).drop (keyword.length + 1) =
        identifier ++ after := by
      rw [List.append_assoc, ← List.drop_drop, List.drop_left]
      rfl
    rw [declared?, if_pos hprefix, hdrop]
    exact identifier?_eq_some_iff.mpr ⟨after, rfl, hident, hafter⟩

/-- An occurrence starts at the first character of a line or lies on the rest of it. -/
theorem standsAt_cons_iff {keyword rest : List Char} {c : Char} {column : Nat}
    {identifier : List Char} :
    StandsAt keyword (c :: rest) column identifier ↔
      (column = 0 ∧ declared? keyword (c :: rest) = some identifier) ∨
        ∃ column', column = Text.unitWidth c + column' ∧
          StandsAt keyword rest column' identifier := by
  constructor
  · rintro ⟨before, after, hline, rfl, hident, hafter⟩
    cases before with
    | nil => exact .inl ⟨rfl, declared?_eq_some_iff.mpr ⟨after, hline, hident, hafter⟩⟩
    | cons c' before =>
        obtain ⟨rfl, hrest⟩ := List.cons.inj hline
        exact .inr ⟨_, rfl, before, after, hrest, rfl, hident, hafter⟩
  · rintro (⟨rfl, hdeclared⟩ | ⟨column', rfl, before, after, hrest, rfl, hident, hafter⟩)
    · obtain ⟨after, hline, hident, hafter⟩ := declared?_eq_some_iff.mp hdeclared
      exact ⟨[], after, hline, rfl, hident, hafter⟩
    · exact ⟨c :: before, after, by rw [hrest]; rfl, rfl, hident, hafter⟩

/-! ### All occurrences -/

/-- The occurrences of a keyword on the rest of a line, with the columns of the keyword. `column` is
where the rest starts. -/
def occurrencesFrom (keyword : List Char) (column : Nat) : List Char → List (Nat × List Char)
  | [] => []
  | c :: rest =>
    let others := occurrencesFrom keyword (column + Text.unitWidth c) rest
    match declared? keyword (c :: rest) with
    | some identifier => (column, identifier) :: others
    | none => others

/-- The occurrences of a keyword on a line, from left to right. -/
def occurrences (keyword line : List Char) : List (Nat × List Char) :=
  occurrencesFrom keyword 0 line

theorem occurrencesFrom_of_some {keyword rest : List Char} {c : Char} {identifier : List Char}
    (h : declared? keyword (c :: rest) = some identifier) (column : Nat) :
    occurrencesFrom keyword column (c :: rest) =
      (column, identifier) :: occurrencesFrom keyword (column + Text.unitWidth c) rest := by
  simp only [occurrencesFrom, h]

theorem occurrencesFrom_of_none {keyword rest : List Char} {c : Char}
    (h : declared? keyword (c :: rest) = none) (column : Nat) :
    occurrencesFrom keyword column (c :: rest) =
      occurrencesFrom keyword (column + Text.unitWidth c) rest := by
  simp only [occurrencesFrom, h]

/-- What is listed is what stands on the rest of the line. -/
theorem mem_occurrencesFrom {keyword line : List Char} {start column : Nat}
    {identifier : List Char} :
    (column, identifier) ∈ occurrencesFrom keyword start line ↔
      ∃ column', column = start + column' ∧ StandsAt keyword line column' identifier := by
  induction line generalizing start with
  | nil =>
      constructor
      · intro h
        cases h
      · rintro ⟨column', -, before, after, hline, -⟩
        simp at hline
  | cons c rest ih =>
      have hrest : (column, identifier) ∈ occurrencesFrom keyword (start + Text.unitWidth c) rest ↔
          ∃ column', column = start + (Text.unitWidth c + column') ∧
            StandsAt keyword rest column' identifier := by
        simp only [ih, Nat.add_assoc]
      cases hdeclared : declared? keyword (c :: rest) with
      | none =>
          rw [occurrencesFrom_of_none hdeclared, hrest]
          simp only [standsAt_cons_iff, hdeclared]
          grind
      | some found =>
          rw [occurrencesFrom_of_some hdeclared, List.mem_cons, hrest]
          simp only [standsAt_cons_iff, hdeclared, Prod.mk.injEq]
          grind

/-- **The listing has all occurrences** of a line and nothing else. -/
theorem mem_occurrences {keyword line : List Char} {column : Nat} {identifier : List Char} :
    (column, identifier) ∈ occurrences keyword line ↔
      StandsAt keyword line column identifier := by
  simp [occurrences, mem_occurrencesFrom]

theorem le_of_mem_occurrencesFrom {keyword line : List Char} {start : Nat} {o : Nat × List Char}
    (h : o ∈ occurrencesFrom keyword start line) : start ≤ o.1 := by
  obtain ⟨column, hcolumn, -⟩ := mem_occurrencesFrom.mp h
  omega

theorem pairwise_occurrencesFrom (keyword : List Char) (start : Nat) (line : List Char) :
    (occurrencesFrom keyword start line).Pairwise fun a b => a.1 < b.1 := by
  induction line generalizing start with
  | nil => exact .nil
  | cons c rest ih =>
      cases hdeclared : declared? keyword (c :: rest) with
      | none =>
          rw [occurrencesFrom_of_none hdeclared]
          exact ih _
      | some found =>
          rw [occurrencesFrom_of_some hdeclared]
          refine .cons ?_ (ih _)
          intro o ho
          have hle := le_of_mem_occurrencesFrom ho
          have hpos := Text.unitWidth_pos c
          simp only
          omega

/-- **The listing goes from left to right.** -/
theorem pairwise_occurrences (keyword line : List Char) :
    (occurrences keyword line).Pairwise fun a b => a.1 < b.1 :=
  pairwise_occurrencesFrom keyword 0 line

/-- The occurrences on a line are those that start on its first part and those on the second. -/
theorem occurrencesFrom_append (keyword front back : List Char) (start : Nat) :
    ∃ early, occurrencesFrom keyword start (front ++ back) =
      early ++ occurrencesFrom keyword (start + Text.unitCount front) back ∧
        ∀ o ∈ early, o.1 < start + Text.unitCount front := by
  induction front generalizing start with
  | nil => exact ⟨[], rfl, fun o ho => by cases ho⟩
  | cons c front ih =>
      obtain ⟨early, heq, hearly⟩ := ih (start + Text.unitWidth c)
      rw [Nat.add_assoc] at heq hearly
      have hpos := Text.unitWidth_pos c
      cases hdeclared : declared? keyword (c :: (front ++ back)) with
      | none => exact ⟨early, (occurrencesFrom_of_none hdeclared start).trans heq, hearly⟩
      | some found =>
          refine ⟨(start, found) :: early, ?_, ?_⟩
          · rw [List.cons_append, occurrencesFrom_of_some hdeclared, heq]
            rfl
          · refine List.forall_mem_cons.mpr ⟨?_, hearly⟩
            rw [Text.unitCount]
            omega

/-! ### Picking occurrences -/

/-- Picks occurrences from left to right and passes over those that start before the column `free`,
where the last pick ends. `width` is what an occurrence takes before its identifier. -/
def pickApart (width free : Nat) : List (Nat × List Char) → List (Nat × List Char)
  | [] => []
  | o :: rest =>
    if o.1 < free then pickApart width free rest
    else o :: pickApart width (o.1 + width + o.2.length) rest

/-- Nothing is picked before the column that is free. -/
theorem le_of_mem_pickApart {width free : Nat} {all : List (Nat × List Char)} {o : Nat × List Char}
    (h : o ∈ pickApart width free all) : free ≤ o.1 := by
  induction all generalizing free with
  | nil => cases h
  | cons first rest ih =>
      rw [pickApart] at h
      split at h
      · exact ih h
      · rcases List.mem_cons.mp h with rfl | h
        · omega
        · have hle := ih h
          omega

theorem mem_of_mem_pickApart {width free : Nat} {all : List (Nat × List Char)}
    {o : Nat × List Char} (h : o ∈ pickApart width free all) : o ∈ all := by
  induction all generalizing free with
  | nil => cases h
  | cons first rest ih =>
      rw [pickApart] at h
      split at h
      · exact List.mem_cons_of_mem _ (ih h)
      · rcases List.mem_cons.mp h with rfl | h
        · exact List.mem_cons_self
        · exact List.mem_cons_of_mem _ (ih h)

/-- What starts too early does not matter. -/
theorem pickApart_append_of_lt {width free : Nat} {early : List (Nat × List Char)}
    (h : ∀ o ∈ early, o.1 < free) (all : List (Nat × List Char)) :
    pickApart width free (early ++ all) = pickApart width free all := by
  induction early with
  | nil => rfl
  | cons first early ih =>
      obtain ⟨hfirst, hearly⟩ := List.forall_mem_cons.mp h
      rw [List.cons_append, pickApart, if_pos hfirst, ih hearly]

/-- If nothing starts too early, the free column does not matter. -/
theorem pickApart_eq_of_le {width free free' : Nat} {all : List (Nat × List Char)}
    (h : ∀ o ∈ all, free ≤ o.1 ∧ free' ≤ o.1) :
    pickApart width free all = pickApart width free' all := by
  cases all with
  | nil => rfl
  | cons first rest =>
      have hfirst := h first List.mem_cons_self
      rw [pickApart, pickApart, if_neg (by omega), if_neg (by omega)]

/-- **An occurrence is passed over** only if it starts inside the last pick before it. -/
theorem exists_pick_before {width free : Nat} {all : List (Nat × List Char)}
    (hascending : all.Pairwise fun a b => a.1 < b.1) {o : Nat × List Char} (ho : o ∈ all)
    (hout : o ∉ pickApart width free all) :
    o.1 < free ∨ ∃ p ∈ pickApart width free all, p.1 < o.1 ∧ o.1 < p.1 + width + p.2.length ∧
      ∀ q ∈ pickApart width free all, q.1 ≤ p.1 ∨ o.1 < q.1 := by
  induction all generalizing free with
  | nil => cases ho
  | cons first rest ih =>
      obtain ⟨hfirst, hrest⟩ := List.pairwise_cons.mp hascending
      rw [pickApart] at hout ⊢
      split at hout
      case isTrue hearly =>
        rw [if_pos hearly]
        rcases List.mem_cons.mp ho with rfl | ho
        · exact .inl hearly
        · exact ih hrest ho hout
      case isFalse hlate =>
        rw [if_neg hlate]
        obtain ⟨hne, hout⟩ := not_or.mp (mt List.mem_cons.mpr hout)
        have ho := (List.mem_cons.mp ho).resolve_left hne
        right
        rcases ih hrest ho hout with hinside | ⟨p, hp, hbefore, hinside, hlast⟩
        · refine ⟨first, List.mem_cons_self, hfirst o ho, hinside, ?_⟩
          refine List.forall_mem_cons.mpr ⟨.inl (Nat.le_refl _), fun q hq => .inr ?_⟩
          have hle := le_of_mem_pickApart hq
          omega
        · refine ⟨p, List.mem_cons_of_mem _ hp, hbefore, hinside, ?_⟩
          have hle := le_of_mem_pickApart hp
          exact List.forall_mem_cons.mpr ⟨.inl (by omega), hlast⟩

/-- **The extraction picks the occurrences that do not overlap**, from left to right. -/
theorem picks_eq {keyword : List Char} (hplain : Text.unitCount keyword = keyword.length)
    (start : Nat) (line : List Char) :
    picks keyword start line =
      (pickApart (keyword.length + 1) start (occurrencesFrom keyword start line)).map
        fun o => (o.1 + keyword.length + 1, o.2) := by
  fun_induction picks keyword start line with
  | case1 => rfl
  | case2 start c rest found hfound here ih =>
      obtain ⟨after, hline, hident, -⟩ := declared?_eq_some_iff.mp hfound
      -- the walk goes on behind the identifier: what starts before is passed over
      obtain ⟨head, hhead, rfl⟩ : ∃ head, keyword ++ ' ' :: found = c :: head ∧
          rest = head ++ after :=
        (List.append_eq_cons_iff.mp hline.symm).resolve_left (by simp)
      have hlength : head.length = keyword.length + found.length := by
        have hcount := congrArg List.length hhead
        simp only [List.length_append, List.length_cons] at hcount
        omega
      have hwidth : Text.unitWidth c + Text.unitCount head =
          keyword.length + 1 + found.length := by
        rw [← unitCount_declaration hplain hident.isTermChar, hhead, Text.unitCount]
      obtain ⟨early, heq, hearly⟩ :=
        occurrencesFrom_append keyword head after (start + Text.unitWidth c)
      have hend : start + Text.unitWidth c + Text.unitCount head = here + found.length := by
        simp only [here]
        omega
      rw [hend] at heq hearly
      have hfree : start + (keyword.length + 1) + found.length = here + found.length := by
        simp only [here]
        omega
      rw [occurrencesFrom_of_some hfound, pickApart, if_neg (Nat.lt_irrefl start), List.map_cons,
        hfree, heq, pickApart_append_of_lt hearly, ih, ← hlength, List.drop_left]
  | case3 start c rest hnone ih =>
      rw [occurrencesFrom_of_none hnone, ih]
      refine congrArg _ (pickApart_eq_of_le fun o ho => ?_)
      have hle := le_of_mem_occurrencesFrom ho
      omega

/-! ### How occurrences overlap -/

/-- If the keyword of a declaration and a space can be read once more from a later place on, this
place is in the identifier, and the keyword ends it. -/
theorem suffix_of_read_again {keyword identifier : List Char} (hne : keyword ≠ [])
    (hword : ∀ c ∈ keyword, isTermChar c = true) (hident : ∀ c ∈ identifier, isTermChar c = true)
    {x y after rest : List Char} (hafter : ∀ c ∈ after.head?, isTermChar c = false) (hx : x ≠ [])
    (hread : keyword ++ ' ' :: identifier = x ++ y) (hagain : y ++ after = keyword ++ ' ' :: rest) :
    keyword <:+ identifier := by
  have hspace : isTermChar ' ' = false := by decide
  have hfirst : (y ++ after).takeWhile isTermChar = keyword := by
    rw [hagain]
    exact takeWhile_append_of_stop hword fun c hc => by cases hc; exact hspace
  rcases List.append_eq_append_iff.mp hread with ⟨z, rfl, hz⟩ | ⟨z, hkeyword, rfl⟩
  · cases z with
    | nil =>
        -- they would be read from the space on
        obtain rfl : ' ' :: identifier = y := hz
        rw [List.cons_append, List.takeWhile_cons_of_neg (by simp [hspace])] at hfirst
        exact absurd hfirst.symm hne
    | cons _ z =>
        obtain ⟨rfl, rfl⟩ := List.cons.inj hz
        have hyword : ∀ c ∈ y, isTermChar c = true :=
          fun c hc => hident c (List.mem_append_right z hc)
        rw [takeWhile_append_of_stop hyword hafter] at hfirst
        exact ⟨z, hfirst ▸ rfl⟩
  · -- they would be read from a place in the keyword, which would be a proper end of itself
    have hzword : ∀ c ∈ z, isTermChar c = true :=
      fun c hc => hword c (hkeyword ▸ List.mem_append_right x hc)
    rw [List.append_assoc, takeWhile_append_of_stop hzword
      (fun c hc => by cases hc; exact hspace)] at hfirst
    have hlength := congrArg List.length hkeyword
    rw [hfirst, List.length_append] at hlength
    exact absurd (List.length_eq_zero_iff.mp (by omega)) hx

/-- **A later occurrence that starts inside an earlier one** is the end of its identifier. -/
theorem StandsAt.suffix_of_overlap {keyword line : List Char} (hne : keyword ≠ [])
    (hword : ∀ c ∈ keyword, isTermChar c = true) {column column' : Nat}
    {identifier identifier' : List Char} (h : StandsAt keyword line column identifier)
    (h' : StandsAt keyword line column' identifier') (hlater : column < column')
    (hinside : column' < column + (keyword.length + 1) + identifier.length) :
    keyword <:+ identifier := by
  obtain ⟨before, after, rfl, rfl, hident, hafter⟩ := h
  obtain ⟨before', after', hline, rfl, -, -⟩ := h'
  -- `x` is what lies between the two starts, and `y` what is left of the earlier one
  rw [List.append_assoc before, List.append_assoc before'] at hline
  obtain ⟨x, rfl, hrest⟩ : ∃ x, before' = before ++ x ∧
      keyword ++ ' ' :: identifier ++ after = x ++ (keyword ++ ' ' :: identifier' ++ after') := by
    rcases List.append_eq_append_iff.mp hline with hlonger | ⟨z, rfl, -⟩
    · exact hlonger
    · rw [Text.unitCount_append] at hlater
      omega
  rw [Text.unitCount_append] at hlater hinside
  obtain ⟨y, hxy, hy⟩ : ∃ y, keyword ++ ' ' :: identifier = x ++ y ∧
      keyword ++ ' ' :: identifier' ++ after' = y ++ after := by
    rcases List.append_eq_append_iff.mp hrest with ⟨z, rfl, -⟩ | hshorter
    · rw [Text.unitCount_append, unitCount_declaration (unitCount_of_isTermChar hword)
        hident.isTermChar] at hinside
      omega
    · exact hshorter
  have hx : x ≠ [] := by
    rintro rfl
    exact absurd hlater (Nat.lt_irrefl _)
  rw [List.append_assoc, List.cons_append] at hy
  exact suffix_of_read_again hne hword hident.isTermChar hafter hx hxy hy.symm

/-! ### The keywords -/

/-- Keywords are words. -/
theorem isTermChar_keyword {k : List Char × Kind} (h : k ∈ keywords) :
    k.1 ≠ [] ∧ ∀ c ∈ k.1, isTermChar c = true := by
  have hall : ∀ k ∈ keywords, k.1 ≠ [] ∧ k.1.all isTermChar = true := by decide
  exact ⟨(hall k h).1, List.all_eq_true.mp (hall k h).2⟩

/-! ### Declarations of a file -/

namespace FileEntry

/-- What a file declares by one keyword: on each line the occurrences that do not overlap. -/
def reported (f : FileEntry) (keyword : List Char) (kind : Kind) : List Declaration :=
  f.lines.zipIdx.flatMap fun l =>
    (pickApart (keyword.length + 1) 0 (occurrences keyword l.1)).map fun o =>
      ⟨String.ofList o.2, kind, f.source, ⟨l.2, o.1 + keyword.length + 1⟩⟩

theorem declarationsOf_eq_reported (f : FileEntry) {keyword : List Char}
    (hplain : Text.unitCount keyword = keyword.length) (kind : Kind) :
    f.declarationsOf keyword kind = f.reported keyword kind := by
  simp only [declarationsOf, reported, occurrences, picks_eq hplain, List.map_map,
    Function.comp_def]

/-- What is reported comes from a pick on its line. -/
theorem mem_reported {f : FileEntry} {keyword : List Char} {kind : Kind} {d : Declaration} :
    d ∈ f.reported keyword kind ↔ ∃ l line, f.line? l = some line ∧
      ∃ o ∈ pickApart (keyword.length + 1) 0 (occurrences keyword line),
        d = ⟨String.ofList o.2, kind, f.source, ⟨l, o.1 + keyword.length + 1⟩⟩ := by
  simp only [reported, List.mem_flatMap, List.mem_map, Prod.exists,
    List.mk_mem_zipIdx_iff_getElem?]
  constructor
  · rintro ⟨line, l, hline, p, id, hp, rfl⟩
    exact ⟨l, line, hline, p, id, hp, rfl⟩
  · rintro ⟨l, line, hline, p, id, hp, rfl⟩
    exact ⟨line, l, hline, p, id, hp, rfl⟩

/-- What is reported for one keyword goes from line to line and on each line from left to right. -/
theorem pairwise_declarationsOf (f : FileEntry) {keyword : List Char}
    (hplain : Text.unitCount keyword = keyword.length) (kind : Kind) :
    (f.declarationsOf keyword kind).Pairwise fun d e => d.position.line < e.position.line ∨
      d.position.line = e.position.line ∧ d.position.character < e.position.character := by
  rw [declarationsOf, List.pairwise_flatMap]
  constructor
  · rintro ⟨line, n⟩ -
    refine List.pairwise_map.mpr ((pairwise_picks hplain 0 line).imp ?_)
    exact fun hlt => .inr ⟨rfl, hlt⟩
  · have hnumbers : (f.lines.zipIdx.map (·.2)).Pairwise (· < ·) := by
      rw [List.zipIdx_map_snd]
      exact List.pairwise_lt_range'
    refine (List.pairwise_map.mp hnumbers).imp ?_
    rintro ⟨line, n⟩ ⟨line', n'⟩ hlt d hd e he
    obtain ⟨pick, -, rfl⟩ := List.mem_map.mp hd
    obtain ⟨pick', -, rfl⟩ := List.mem_map.mp he
    exact .inl hlt

/-- **An occurrence that is not reported** ends the identifier of the last one that is reported
before it on its line. -/
theorem reported_or_suffix {f : FileEntry} {keyword : List Char} (hne : keyword ≠ [])
    (hword : ∀ c ∈ keyword, isTermChar c = true) (kind : Kind) {l : Nat} {line : List Char}
    (hline : f.line? l = some line) {column : Nat} {identifier : List Char}
    (h : StandsAt keyword line column identifier) :
    ⟨String.ofList identifier, kind, f.source, ⟨l, column + keyword.length + 1⟩⟩ ∈
        f.reported keyword kind ∨
      ∃ d ∈ f.reported keyword kind, d.position.line = l ∧
        d.position.character < column + keyword.length + 1 ∧
        (∀ e ∈ f.reported keyword kind, e.position.line = l →
          e.position.character ≤ d.position.character ∨
            column + keyword.length + 1 < e.position.character) ∧
        keyword <:+ d.identifier.toList := by
  by_cases hpicked : (column, identifier) ∈
      pickApart (keyword.length + 1) 0 (occurrences keyword line)
  · exact .inl (mem_reported.mpr ⟨l, line, hline, _, hpicked, rfl⟩)
  · right
    obtain ⟨p, hp, hbefore, hinside, hlast⟩ := (exists_pick_before (pairwise_occurrences _ _)
      (mem_occurrences.mpr h) hpicked).resolve_left (Nat.not_lt_zero _)
    have hearlier : StandsAt keyword line p.1 p.2 :=
      mem_occurrences.mp (mem_of_mem_pickApart hp)
    refine ⟨_, mem_reported.mpr ⟨l, line, hline, p, hp, rfl⟩, rfl, ?_, ?_, ?_⟩
    · simp only at hbefore ⊢
      omega
    · intro e he hl
      obtain ⟨l', line', hline', q, hq, rfl⟩ := mem_reported.mp he
      obtain rfl : l' = l := hl
      obtain rfl : line = line' := Option.some.inj (hline.symm.trans hline')
      have hpast := hlast q hq
      simp only at hpast ⊢
      omega
    · rw [String.toList_ofList]
      exact hearlier.suffix_of_overlap hne hword h hbefore hinside

end FileEntry

/-- **The extraction reports exactly the declarations of its grammar.** A file declares, keyword by
keyword and line by line, what stands on the line after the keyword, each with the kind of its
keyword, its key, and the column behind the keyword and the space. Of line and column the location
keeps 32 bits each, which is all of them if the text has less than `2 ^ 32` code units. The
occurrences of the keyword on the line, which are listed from left to right, are picked in this
order, without those that start before the end of the last pick. One that is left out is the end of
the identifier of the last declaration before it that the same keyword has on the line. -/
theorem declarations_follow_grammar (f : FileEntry) :
    f.declarations = keywords.flatMap (fun k => f.reported k.1 k.2) ∧
      (∀ d ∈ f.declarations,
        d.location = ⟨d.position.line % Number.words32,
          d.position.character % Number.words32⟩) ∧
      (f.Short → ∀ d ∈ f.declarations, d.location = d.position) ∧
      ∀ k ∈ keywords,
        f.declarationsOf k.1 k.2 = f.reported k.1 k.2 ∧
        (∀ line, (occurrences k.1 line).Pairwise (fun a b => a.1 < b.1) ∧
          ∀ column identifier, (column, identifier) ∈ occurrences k.1 line ↔
            StandsAt k.1 line column identifier) ∧
        ((f.reported k.1 k.2).Pairwise fun d e => d.position.line < e.position.line ∨
          d.position.line = e.position.line ∧ d.position.character < e.position.character) ∧
        (∀ d ∈ f.reported k.1 k.2, d.key = "__SCALA_SYMBOL__" ++ d.identifier) ∧
        ∀ l line column identifier, f.line? l = some line →
          StandsAt k.1 line column identifier →
          ⟨String.ofList identifier, k.2, f.source, ⟨l, column + k.1.length + 1⟩⟩ ∈
              f.reported k.1 k.2 ∨
            ∃ d ∈ f.reported k.1 k.2, d.position.line = l ∧
              d.position.character < column + k.1.length + 1 ∧
              (∀ e ∈ f.reported k.1 k.2, e.position.line = l →
                e.position.character ≤ d.position.character ∨
                  column + k.1.length + 1 < e.position.character) ∧
              k.1 <:+ d.identifier.toList := by
  have heq : ∀ k ∈ keywords, f.declarationsOf k.1 k.2 = f.reported k.1 k.2 :=
    fun k hk => f.declarationsOf_eq_reported (unitCount_keyword hk) k.2
  refine ⟨List.flatMap_congr heq, fun d _ => rfl, fun hshort d hd => hshort.location_eq hd,
    fun k hk => ⟨heq k hk, ?_, ?_, fun d _ => rfl, ?_⟩⟩
  · exact fun line => ⟨pairwise_occurrences _ _, fun column identifier => mem_occurrences⟩
  · rw [← heq k hk]
    exact f.pairwise_declarationsOf (unitCount_keyword hk) k.2
  · intro l line column identifier hline h
    obtain ⟨hne, hword⟩ := isTermChar_keyword hk
    exact FileEntry.reported_or_suffix hne hword k.2 hline h

/-- Behind a character that is two units wide, the identifier of a class ends in the keyword that
would declare the next one. That one is left out, and the one after it is found. Both are located
where they stand. -/
theorem declarations_follow_grammar_chained :
    let f : FileEntry := ⟨⟨"file:///a"⟩, "a", "𝒳 class abclass cd class ef"⟩
    let keyword := ['c', 'l', 'a', 's', 's']
    let line := "𝒳 class abclass cd class ef".toList
    let d : Declaration := ⟨"abclass", .classLike, f.source, ⟨0, 9⟩⟩
    let e : Declaration := ⟨"ef", .classLike, f.source, ⟨0, 26⟩⟩
    f.declarationsOf keyword .classLike = [d, e] ∧ StandsAt keyword line 11 ['c', 'd'] ∧
      (d.location = ⟨0, 9⟩ ∧ e.location = ⟨0, 26⟩) ∧
      ∃ d' ∈ [d, e], d'.position.character < 17 ∧ keyword <:+ d'.identifier.toList := by
  intro f keyword line d e
  have hk : (keyword, Kind.classLike) ∈ keywords := List.mem_cons_self
  obtain ⟨-, -, hlocated, hgrammar⟩ := declarations_follow_grammar f
  obtain ⟨hreported, hall, -, -, hout⟩ := hgrammar _ hk
  have hlist : f.reported keyword .classLike = [d, e] := by decide
  have hstands : StandsAt keyword line 11 ['c', 'd'] := ((hall line).2 _ _).mp (by decide)
  rw [hlist] at hreported hout
  have hdeclared (d' : Declaration) (hd' : d' ∈ [d, e]) : d'.location = d'.position := by
    rw [← hreported] at hd'
    exact hlocated (by decide) d' (List.mem_flatMap.mpr ⟨_, hk, hd'⟩)
  refine ⟨hreported, hstands, ⟨hdeclared d (by decide), hdeclared e (by decide)⟩, ?_⟩
  rcases hout 0 line 11 ['c', 'd'] (by decide) hstands with hmem | ⟨d', hd', -, hbefore, -, hend⟩
  · exact absurd hmem (by decide)
  · exact ⟨d', hd', hbefore, hend⟩

end SymbolAtlas
