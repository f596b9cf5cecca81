import Mathlib.Data.List.Nodup
import SymbolAtlas.Disk.Walk

/-!
# What a walk lists

A walk goes down from a folder and lists the files that it gets to. Whether it gets to a file does
not depend on how the folder is spelled, and hardly on where the walk starts: the rules that decide
about an entry are those of the directories that hold it, so a walk that starts further down gets to
all the files below its start that a walk from further up gets to. `Place.Lists` says which names
lead a walk to a file, and the paths that it lists are the path of the folder with these names at
its end, each once.

## Main results

* `Node.WellFormed.put`: trees that are put together are as a file system has them.
* `Path.parts_child`: the parts of the path of an entry.
* `Place.mem_walk_iff`, `Place.nodup_parts_walk`: what a walk lists, and that it lists it once.
* `Place.Lists.of_append`: a walk that starts further down.
-/

namespace SymbolAtlas

/-- A separator cuts a text in two. -/
theorem Text.splitOn_append_cons {α : Type} [DecidableEq α] (sep : α) (front back : List α) :
    Text.splitOn sep (front ++ sep :: back) = Text.splitOn sep front ++ Text.splitOn sep back := by
  induction front with
  | nil => simp [Text.splitOn]
  | cons c front ih =>
      by_cases hc : c = sep
      · simp [Text.splitOn, hc, ih]
      · simp only [List.cons_append, Text.splitOn, if_neg hc, ih]
        cases hfront : Text.splitOn sep front with
        | nil => exact absurd hfront (Text.splitOn_ne_nil _ _)
        | cons piece pieces => rfl

namespace Disk

/-! ### Trees as a file system has them -/

/-- An entry of a directory can have the name. -/
structure Name.IsEntry (n : Name) : Prop where
  ne_nil : n ≠ []
  ne_here : n ≠ [0x2E]
  ne_parent : n ≠ [0x2E, 0x2E]
  not_mem_slash : slash ∉ n

instance (n : Name) : Decidable (Name.IsEntry n) :=
  decidable_of_iff (n ≠ [] ∧ n ≠ [0x2E] ∧ n ≠ [0x2E, 0x2E] ∧ slash ∉ n)
    ⟨fun h => ⟨h.1, h.2.1, h.2.2.1, h.2.2.2⟩,
      fun h => ⟨h.ne_nil, h.ne_here, h.ne_parent, h.not_mem_slash⟩⟩

/-- The entries of every directory have names of entries, each its own. -/
inductive Node.WellFormed : Node → Prop
  | file (content : List UInt8) : WellFormed (.file content)
  | directory {entries : List (Name × Node)} (names : ∀ e ∈ entries, Name.IsEntry e.1)
      (distinct : (entries.map (·.1)).Nodup) (nodes : ∀ e ∈ entries, WellFormed e.2) :
      WellFormed (.directory entries)

namespace Node

variable {node child old : Node} {n : Name} {names : List Name}

theorem mem_entries_of_eq_some (h : node.entry? n = some child) : (n, child) ∈ node.entries := by
  obtain ⟨⟨m, c⟩, hfind, rfl⟩ := Option.map_eq_some_iff.mp h
  obtain rfl : m = n := by simpa using List.find?_some hfind
  exact List.mem_of_find?_eq_some hfind

namespace WellFormed

theorem empty : Node.empty.WellFormed := .directory (by simp) (by simp) (by simp)

theorem entries (h : node.WellFormed) : (∀ e ∈ node.entries, Name.IsEntry e.1) ∧
    (node.entries.map (·.1)).Nodup ∧ ∀ e ∈ node.entries, e.2.WellFormed := by
  cases h with
  | file content => simp [Node.entries]
  | directory names distinct nodes => exact ⟨names, distinct, nodes⟩

theorem of_entry (h : node.WellFormed) (hentry : node.entry? n = some child) : child.WellFormed :=
  h.entries.2.2 _ (mem_entries_of_eq_some hentry)

/-- An entry is found under its name. -/
theorem entry?_of_mem (h : node.WellFormed) (hmem : (n, child) ∈ node.entries) :
    node.entry? n = some child := by
  cases hfind : node.entry? n with
  | none =>
      rw [Node.entry?, Option.map_eq_none_iff, List.find?_eq_none] at hfind
      exact absurd (beq_self_eq_true n) (hfind _ hmem)
  | some other =>
      have hsame := List.inj_on_of_nodup_map h.entries.2.1 (mem_entries_of_eq_some hfind) hmem rfl
      exact congrArg some (congrArg Prod.snd hsame)

theorem setEntry (h : node.WellFormed) (hn : Name.IsEntry n) (hchild : child.WellFormed) :
    (node.setEntry n child).WellFormed := by
  obtain ⟨hnames, hdistinct, hnodes⟩ := h.entries
  have hsplit {P : Name × Node → Prop} (hold : ∀ e ∈ node.entries, P e) (hnew : P (n, child)) :
      ∀ e ∈ node.entries.filter (fun e => e.1 != n) ++ [(n, child)], P e := by
    intro e he
    rcases List.mem_append.mp he with hkept | hlast
    · exact hold e (List.mem_of_mem_filter hkept)
    · rwa [List.mem_singleton.mp hlast]
  refine .directory (hsplit hnames hn) ?_ (hsplit hnodes hchild)
  rw [List.map_append, List.map_singleton, List.nodup_append]
  refine ⟨hdistinct.sublist (List.filter_sublist.map _), List.nodup_singleton n, ?_⟩
  intro a ha b hb
  obtain ⟨e, he, rfl⟩ := List.mem_map.mp ha
  rw [List.mem_singleton.mp hb]
  simpa using (List.mem_filter.mp he).2

/-- **Putting a tree together** keeps it as a file system has it. -/
theorem put (h : node.WellFormed) (hnames : ∀ n ∈ names, Name.IsEntry n) (hold : old.WellFormed) :
    (node.put names old).WellFormed := by
  induction names generalizing old with
  | nil =>
      rw [Node.put]
      split
      · exact hold
      · exact h
  | cons n names ih =>
      obtain ⟨hn, hnames⟩ := List.forall_mem_cons.mp hnames
      refine hold.setEntry hn (ih hnames ?_)
      cases hentry : old.entry? n with
      | none => exact .empty
      | some child => exact hold.of_entry hentry

end WellFormed

end Node

namespace Place

/-- The node and all directories that hold it are as a file system has them. -/
structure WellFormed (p : Place) : Prop where
  node : p.node.WellFormed
  above : ∀ e ∈ p.above, e.2.WellFormed

variable {p q : Place} {n : Name} {names more : List Name}

/-- What going down finds. -/
theorem down_eq_ok_iff : p.down n = .ok q ↔
    p.node.entry? n = some q.node ∧ q.above = (n, p.node) :: p.above := by
  obtain ⟨node, above⟩ := p
  obtain ⟨node', above'⟩ := q
  cases node with
  | file content => simp [down, Node.isDirectory, Node.entry?, Node.entries]
  | directory entries =>
      simp only [down, Node.isDirectory, if_true]
      cases Node.entry? (.directory entries) n with
      | none => simp
      | some child => simp [eq_comm]

theorem WellFormed.down (h : p.WellFormed) (hdown : p.down n = .ok q) : q.WellFormed := by
  obtain ⟨hentry, habove⟩ := down_eq_ok_iff.mp hdown
  refine ⟨h.node.of_entry hentry, ?_⟩
  rw [habove]
  exact List.forall_mem_cons.mpr ⟨h.node, h.above⟩

theorem WellFormed.up (h : p.WellFormed) (hup : p.up = .ok q) : q.WellFormed := by
  obtain ⟨node, above⟩ := p
  rw [Place.up] at hup
  split at hup
  · cases above with
    | nil =>
        cases hup
        exact h
    | cons e above =>
        cases hup
        obtain ⟨hnode, habove⟩ := List.forall_mem_cons.mp h.above
        exact ⟨hnode, habove⟩
  · cases hup

/-- Wherever a path leads, the tree is as a file system has it. -/
theorem WellFormed.follow (h : p.WellFormed) {parts : List Part}
    (hfollow : p.follow parts = .ok q) : q.WellFormed := by
  induction parts generalizing p with
  | nil =>
      cases hfollow
      exact h
  | cons part parts ih =>
      cases part with
      | root => exact ih h hfollow
      | here => exact ih h hfollow
      | parent =>
          cases hup : p.up with
          | error fault => simp [Place.follow, hup, Except.bind] at hfollow
          | ok r =>
              simp only [Place.follow, hup, Except.bind] at hfollow
              exact ih (h.up hup) hfollow
      | name n =>
          cases hdown : p.down n with
          | error fault => simp [Place.follow, hdown, Except.bind] at hfollow
          | ok r =>
              simp only [Place.follow, hdown, Except.bind] at hfollow
              exact ih (h.down hdown) hfollow

/-- Parts are followed one after the other. -/
theorem follow_append (p : Place) (parts parts' : List Part) :
    p.follow (parts ++ parts') = (p.follow parts).bind fun q => q.follow parts' := by
  induction parts generalizing p with
  | nil => rfl
  | cons part parts ih =>
      cases part with
      | root => exact ih p
      | here => exact ih p
      | parent =>
          simp only [List.cons_append, follow]
          cases p.up with
          | error fault => rfl
          | ok r => exact ih r
      | name n =>
          simp only [List.cons_append, follow]
          cases p.down n with
          | error fault => rfl
          | ok r => exact ih r

/-! ### Names that lead a walk to a file -/

/-- The rules that decide about the entries of a place, those of the place itself first. -/
def scopes (p : Place) : List Scope := Scope.of p.node [] :: Scope.holding [] p.above

/-- The names lead down from the place to a file, and a walk passes over none of the entries on the
way. -/
inductive Lists : Place → List Name → Prop
  | file (content : List UInt8) (above : List (Name × Node)) : Lists ⟨.file content, above⟩ []
  | down {p q : Place} {n : Name} {names : List Name} (hdown : p.down n = .ok q)
      (hlisted : Scope.lists p.scopes n q.node.isDirectory = true) (hrest : Lists q names) :
      Lists p (n :: names)

/-- The names are those of entries. -/
theorem Lists.isEntry (h : p.Lists names) (hp : p.node.WellFormed) :
    ∀ n ∈ names, Name.IsEntry n := by
  induction h with
  | file content above => simp
  | @down p q n names hdown _ _ ih =>
      obtain ⟨hentry, -⟩ := down_eq_ok_iff.mp hdown
      have hmem := Node.mem_entries_of_eq_some hentry
      exact List.forall_mem_cons.mpr ⟨hp.entries.1 _ hmem, ih (hp.of_entry hentry)⟩

/-- **A walk that starts further down** gets to the files that it would get to from further up. -/
theorem Lists.of_append (h : p.Lists (names ++ more))
    (hfollow : p.follow (names.map .name) = .ok q) : q.Lists more := by
  induction names generalizing p with
  | nil =>
      cases hfollow
      exact h
  | cons n names ih =>
      cases h with
      | down hdown _ hrest =>
          rw [List.map_cons, follow, hdown] at hfollow
          exact ih hrest hfollow

/-! ### Walks -/

end Place

/-- Seen from an entry, the directories that hold it are one step further away. -/
theorem Scope.map_into_holding (n : Name) (names : List Name) (above : List (Name × Node)) :
    (Scope.holding names above).map (·.into n) = Scope.holding (names ++ [n]) above := by
  induction above generalizing names with
  | nil => rfl
  | cons e above ih => rw [Scope.holding, List.map_cons, ih, Scope.holding]; rfl

theorem walkEntries_eq (path : Path) (scopes : List Scope) (entries : List (Name × Node)) :
    walkEntries path scopes entries = entries.flatMap fun e =>
      if Scope.lists scopes e.1 e.2.isDirectory then
        e.2.walk (path.child e.1) (scopes.map (·.into e.1))
      else [] := by
  induction entries with
  | nil => rw [walkEntries]; rfl
  | cons e entries ih => rw [walkEntries, ih, List.flatMap_cons]

namespace Place

/-- The part of a walk below an entry of the directory: nothing if it is passed over. -/
def walkBelow (p : Place) (path : Path) (e : Name × Node) : List Path :=
  if Scope.lists p.scopes e.1 e.2.isDirectory then
    (⟨e.2, (e.1, p.node) :: p.above⟩ : Place).walk (path.child e.1)
  else []

/-- A walk through a directory goes on below each of its entries. -/
theorem walk_directory (entries : List (Name × Node)) (above : List (Name × Node)) (path : Path) :
    let p : Place := ⟨.directory entries, above⟩
    p.walk path = entries.flatMap (p.walkBelow path) := by
  intro p
  have hscopes (n : Name) :
      p.scopes.map (·.into n) = Scope.holding [] ((n, p.node) :: above) := by
    rw [scopes, List.map_cons, Scope.map_into_holding]
    rfl
  rw [walk, Node.walk, walkEntries_eq]
  refine List.flatMap_congr fun e _ => ?_
  rw [walkBelow, walk, ← hscopes]
  rfl

end Place

/-- The path below a directory that names lead to. -/
def Path.descend (path : Path) (names : List Name) : Path := names.foldl Path.child path

namespace Place

variable {p q : Place} {path file : Path} {names : List Name}

/-- **What a walk lists**: the paths of the files that names lead it to. -/
theorem mem_walk_iff (h : p.node.WellFormed) :
    file ∈ p.walk path ↔ ∃ names, p.Lists names ∧ file = path.descend names := by
  obtain ⟨node, above⟩ := p
  change node.WellFormed at h
  induction h generalizing above path with
  | file content =>
      simp only [walk, Node.walk, List.mem_singleton]
      constructor
      · rintro rfl
        exact ⟨[], .file content above, rfl⟩
      · rintro ⟨names, hlists, rfl⟩
        cases hlists with
        | file => rfl
        | down hdown => cases hdown
  | @directory entries hnames hdistinct hnodes ih =>
      have hwell : (Node.directory entries).WellFormed := .directory hnames hdistinct hnodes
      rw [walk_directory, List.mem_flatMap]
      constructor
      · rintro ⟨e, he, hfile⟩
        rw [walkBelow] at hfile
        split at hfile
        next hlisted =>
          obtain ⟨names, hlists, rfl⟩ := (ih e he _).mp hfile
          refine ⟨e.1 :: names, .down ?_ hlisted hlists, rfl⟩
          exact down_eq_ok_iff.mpr ⟨hwell.entry?_of_mem he, rfl⟩
        next => cases hfile
      · rintro ⟨names, hlists, rfl⟩
        cases hlists with
        | @down _ q n names hdown hlisted hrest =>
            obtain ⟨hentry, habove'⟩ := down_eq_ok_iff.mp hdown
            obtain ⟨child, above'⟩ := q
            obtain rfl : above' = (n, .directory entries) :: above := habove'
            refine ⟨(n, child), Node.mem_entries_of_eq_some hentry, ?_⟩
            rw [walkBelow, if_pos hlisted]
            exact (ih _ (Node.mem_entries_of_eq_some hentry) _).mpr ⟨names, hrest, rfl⟩

end Place

/-! ### Paths of files -/

namespace Path

variable {path : Path} {n : Name} {names : List Name}

/-- The pieces of the path of an entry are those of the directory, up to an empty one at the end,
and the name of the entry. -/
theorem exists_splitOn_child (hpath : path.bytes ≠ []) (hn : slash ∉ n) :
    ∃ pieces, pieces ≠ [] ∧ Text.splitOn slash (path.child n).bytes = pieces ++ [n] ∧
      (Text.splitOn slash path.bytes = pieces ∨
        Text.splitOn slash path.bytes = pieces ++ [[]]) := by
  have hcut (front : List UInt8) :
      Text.splitOn slash (front ++ slash :: n) = Text.splitOn slash front ++ [n] := by
    rw [Text.splitOn_append_cons, Text.splitOn_of_not_mem hn]
  by_cases hclosed : path.bytes.getLast? = some slash
  · obtain ⟨front, hfront⟩ := List.getLast?_eq_some_iff.mp hclosed
    refine ⟨Text.splitOn slash front, Text.splitOn_ne_nil _ _, ?_, .inr ?_⟩
    · rw [child, if_pos (.inr hclosed), hfront, List.append_assoc]
      exact hcut front
    · rw [hfront, Text.splitOn_append_cons]
      rfl
  · refine ⟨Text.splitOn slash path.bytes, Text.splitOn_ne_nil _ _, ?_, .inl rfl⟩
    rw [child, if_neg (not_or.mpr ⟨hpath, hclosed⟩)]
    exact hcut path.bytes

theorem isAbsolute_child (hpath : path.bytes ≠ []) (n : Name) :
    (path.child n).isAbsolute = path.isAbsolute := by
  obtain ⟨b, bytes, hbytes⟩ := List.exists_cons_of_ne_nil hpath
  rw [isAbsolute, isAbsolute, child]
  split <;> rw [hbytes] <;> rfl

theorem bytes_child_ne_nil (hpath : path.bytes ≠ []) (n : Name) : (path.child n).bytes ≠ [] := by
  rw [child]
  split <;> simp [hpath]

/-- **The path of an entry** has the parts of the directory and the name of the entry. -/
theorem parts_child (hpath : path.bytes ≠ []) (hn : Name.IsEntry n) :
    (path.child n).parts = path.parts ++ [.name n] := by
  obtain ⟨pieces, hne, hchild, hself⟩ := exists_splitOn_child hpath hn.not_mem_slash
  have hhead (more : List (List UInt8)) : (pieces ++ more).head? = pieces.head? :=
    List.head?_append_of_ne_nil _ hne
  have hname : [n].filterMap Part.ofPiece? = [.name n] := by
    simp [Part.ofPiece?, hn.ne_nil, hn.ne_here, hn.ne_parent]
  have hempty : [[]].filterMap Part.ofPiece? = [] := rfl
  simp only [parts, isAbsolute_child hpath, hchild, hhead, List.filterMap_append, hname]
  rcases hself with hself | hself
  · rw [hself, List.append_assoc]
  · rw [hself, hhead, List.filterMap_append, hempty, List.append_nil, List.append_assoc]

/-- The path of an entry does not say that it names a directory. -/
theorem asksDirectory_child (hpath : path.bytes ≠ []) (hn : Name.IsEntry n) :
    (path.child n).asksDirectory = false := by
  obtain ⟨pieces, -, hchild, -⟩ := exists_splitOn_child hpath hn.not_mem_slash
  rw [asksDirectory, hchild, List.getLast?_concat]
  simp [hn.ne_nil, hn.ne_here]

theorem parts_descend (hpath : path.bytes ≠ []) (hnames : ∀ n ∈ names, Name.IsEntry n) :
    (path.descend names).parts = path.parts ++ names.map .name := by
  induction names generalizing path with
  | nil => simp [descend]
  | cons n names ih =>
      obtain ⟨hn, hnames⟩ := List.forall_mem_cons.mp hnames
      have hrest := ih (bytes_child_ne_nil hpath n) hnames
      rw [parts_child hpath hn, List.append_assoc] at hrest
      exact hrest

end Path

namespace FileTree

variable {t : FileTree} {path : Path} {p q : Place} {n : Name} {names : List Name}

/-- Where a path leads is decided by its parts. A path that says so has to lead to a directory. -/
theorem place_eq_ok_iff : t.place path = .ok p ↔ path.bytes ≠ [] ∧
    Place.follow ⟨t.top, []⟩
      ((if path.isAbsolute then [] else t.current.map .name) ++ path.parts) = .ok p ∧
    (path.asksDirectory = true → p.node.isDirectory = true) := by
  rw [place]
  by_cases hbytes : path.bytes = []
  · simp [hbytes, throw, throwThe, MonadExceptOf.throw, bind, Except.bind]
  · simp only [hbytes, if_false, bind, Except.bind, pure, Except.pure]
    cases Place.follow ⟨t.top, []⟩
      ((if path.isAbsolute then [] else t.current.map .name) ++ path.parts) with
    | error fault => simp
    | ok q =>
        by_cases hasks : path.asksDirectory = true ∧ q.node.isDirectory = false
        · have hfails : (path.asksDirectory && !q.node.isDirectory) = true := by simp [hasks]
          simp only [hfails, if_true]
          refine ⟨nofun, ?_⟩
          rintro ⟨-, hq, hdirectory⟩
          cases hq
          exact absurd (hdirectory hasks.1) (by simp [hasks.2])
        · have hdirectory : path.asksDirectory = true → q.node.isDirectory = true := by
            simpa using hasks
          have hpasses : (path.asksDirectory && !q.node.isDirectory) = false := by
            simpa using hdirectory
          simp only [hpasses, Bool.false_eq_true, if_false]
          refine ⟨fun h => ?_, fun h => h.2.1⟩
          cases h
          exact ⟨hbytes, rfl, hdirectory⟩

/-- The path of an entry leads to the entry. -/
theorem place_child (hpath : t.place path = .ok p) (hn : Name.IsEntry n)
    (hdown : p.down n = .ok q) : t.place (path.child n) = .ok q := by
  obtain ⟨hbytes, hfollow, -⟩ := place_eq_ok_iff.mp hpath
  refine place_eq_ok_iff.mpr ⟨Path.bytes_child_ne_nil hbytes n, ?_, ?_⟩
  · rw [Path.isAbsolute_child hbytes, Path.parts_child hbytes hn, ← List.append_assoc,
      Place.follow_append, hfollow]
    change (p.down n).bind (Place.follow · []) = _
    rw [hdown]
    rfl
  · rw [Path.asksDirectory_child hbytes hn]
    exact nofun

/-- **A path that a walk lists** leads to a file. -/
theorem place_descend (hpath : t.place path = .ok p) (hp : p.node.WellFormed)
    (hlists : p.Lists names) :
    ∃ content above, t.place (path.descend names) = .ok ⟨.file content, above⟩ := by
  induction hlists generalizing path with
  | file content above => exact ⟨content, above, hpath⟩
  | @down p q n names hdown hlisted hrest ih =>
      obtain ⟨hentry, -⟩ := Place.down_eq_ok_iff.mp hdown
      have hn := hp.entries.1 _ (Node.mem_entries_of_eq_some hentry)
      exact ih (place_child hpath hn hdown) (hp.of_entry hentry)

/-- A walk from a place on the way gets to the files that a walk from the start gets to. -/
theorem lists_of_between {path' : Path} {between more : List Name} (hpath : t.place path = .ok p)
    (hpath' : t.place path' = .ok q) (habsolute : path.isAbsolute = true)
    (habsolute' : path'.isAbsolute = true)
    (hbetween : path'.parts = path.parts ++ between.map .name)
    (hlists : p.Lists (between ++ more)) : q.Lists more := by
  obtain ⟨-, hfollow, -⟩ := place_eq_ok_iff.mp hpath
  obtain ⟨-, hfollow', -⟩ := place_eq_ok_iff.mp hpath'
  rw [habsolute, if_pos rfl, List.nil_append] at hfollow
  rw [habsolute', if_pos rfl, List.nil_append, hbetween, Place.follow_append, hfollow] at hfollow'
  exact hlists.of_append hfollow'

/-- Absolute paths with the same parts that lead somewhere lead to the same text. -/
theorem readText?_eq_of_parts_eq {path' : Path} (hpath : t.place path = .ok p)
    (hpath' : t.place path' = .ok q) (habsolute : path.isAbsolute = true)
    (habsolute' : path'.isAbsolute = true) (hparts : path.parts = path'.parts) :
    t.readText? path = t.readText? path' := by
  obtain ⟨-, hfollow, -⟩ := place_eq_ok_iff.mp hpath
  obtain ⟨-, hfollow', -⟩ := place_eq_ok_iff.mp hpath'
  rw [habsolute, hparts] at hfollow
  rw [habsolute', hfollow] at hfollow'
  obtain rfl : p = q := Except.ok.inj hfollow'
  rw [readText?, readText?, read?, read?, hpath, hpath']

/-- A path to a text leads somewhere. -/
theorem exists_place_of_readText? {text : List Char} (h : t.readText? path = some text) :
    ∃ p, t.place path = .ok p := by
  obtain ⟨content, hread, -⟩ := Option.bind_eq_some_iff.mp h
  rw [read?] at hread
  split at hread
  next hplace => exact ⟨_, hplace⟩
  next => cases hread

/-- Wherever a path leads, the tree is as a file system has it. -/
theorem wellFormed_of_place (ht : t.top.WellFormed) (hpath : t.place path = .ok p) :
    p.node.WellFormed := by
  obtain ⟨-, hfollow, -⟩ := place_eq_ok_iff.mp hpath
  exact (Place.WellFormed.follow ⟨ht, by simp⟩ hfollow).node

end FileTree

namespace Place

variable {p : Place} {path : Path}

/-- What is listed below an entry has the parts of its path first. -/
theorem parts_prefix_of_mem_walkBelow {e : Name × Node} {file : Path} (he : Name.IsEntry e.1)
    (hnode : e.2.WellFormed) (hpath : path.bytes ≠ []) (hfile : file ∈ p.walkBelow path e) :
    path.parts ++ [.name e.1] <+: file.parts := by
  rw [walkBelow] at hfile
  split at hfile
  · obtain ⟨names, hlists, rfl⟩ := (mem_walk_iff hnode).mp hfile
    rw [Path.parts_descend (Path.bytes_child_ne_nil hpath e.1) (hlists.isEntry hnode),
      Path.parts_child hpath he]
    exact List.prefix_append _ _
  · cases hfile

/-- **A walk lists every path once**, also up to its spelling. -/
theorem nodup_parts_walk (h : p.node.WellFormed) (hpath : path.bytes ≠ []) :
    ((p.walk path).map Path.parts).Nodup := by
  obtain ⟨node, above⟩ := p
  change node.WellFormed at h
  induction h generalizing above path with
  | file content => exact List.nodup_singleton _
  | @directory entries hnames hdistinct hnodes ih =>
      rw [walk_directory, List.map_flatMap, List.nodup_flatMap]
      constructor
      · intro e he
        rw [walkBelow]
        split
        · exact ih e he (Path.bytes_child_ne_nil hpath e.1) _
        · exact List.nodup_nil
      · refine (List.pairwise_map.mp hdistinct).imp_of_mem ?_
        intro e e' he he' hne parts hparts hparts'
        obtain ⟨file, hfile, rfl⟩ := List.mem_map.mp hparts
        obtain ⟨file', hfile', hsame⟩ := List.mem_map.mp hparts'
        have hbelow := parts_prefix_of_mem_walkBelow (hnames e he) (hnodes e he) hpath hfile
        have hbelow' := parts_prefix_of_mem_walkBelow (hnames e' he') (hnodes e' he') hpath hfile'
        rw [hsame] at hbelow'
        -- the names of the two entries would stand at one place of these parts
        have hnames := List.prefix_of_prefix_length_le hbelow hbelow' (by simp)
        rw [List.prefix_append_right_inj] at hnames
        exact hne (by simpa using hnames)

end Place

end Disk

end SymbolAtlas
