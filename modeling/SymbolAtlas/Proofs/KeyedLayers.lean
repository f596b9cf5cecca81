import Mathlib.Data.Finset.Insert
import Mathlib.Data.Fintype.Defs
import Mathlib.Data.List.Induction
import SymbolAtlas.Settings.Loader

/-!
# Settings key by key

The layers of a loader are merged as trees, but settings are read from six keys only. This module
follows each key through the layers by itself: `Spells value entries` says what entries give for
every key, and the lemmas say how one more layer, or one more place that is set by hand, changes
that. What a layer does not set stays, so no key depends on what is set for another one.

A value that is no table replaces what lies below it. A table is merged into it, so an empty table
set for a key changes nothing.

## Main results

* `Spells.ofLayers_congr`: settings are read from the keys alone.
* `Spells.putEntry`, `Spells.put`: one entry of a file, one place set by hand.
* `Spells.putLayers`, `Spells.putAll`: all of them.
* `Loader.takeAll_eq`: how calls of different kinds may be moved past each other.
* `keys_settle_apart`: what is given for each key after any calls.
* `empty_table_is_passed_over`: a value that is not given as it was set.
-/

namespace SymbolAtlas.Settings

/-! ### Keys -/

/-- The keys that settings are read from. -/
inductive Key where
  | hoverEnabled
  | analyticsEnabled
  | debounceMs
  | justChangedMs
  | fileSource
  | extensions
  deriving DecidableEq, Repr

namespace Key

instance : Fintype Key where
  elems := {.hoverEnabled, .analyticsEnabled, .debounceMs, .justChangedMs, .fileSource, .extensions}
  complete := by
    intro k
    cases k <;> decide

/-- The name of the group. -/
def group : Key → String
  | .hoverEnabled | .analyticsEnabled => "features"
  | .debounceMs | .justChangedMs | .fileSource | .extensions => "indexing"

/-- The name in the group. -/
def name : Key → String
  | .hoverEnabled => "hover_enabled"
  | .analyticsEnabled => "analytics_enabled"
  | .debounceMs => "debounce_ms"
  | .justChangedMs => "just_changed_ms"
  | .fileSource => "file_source"
  | .extensions => "extensions"

/-- The value unless set otherwise. -/
def usual : Key → Value
  | .hoverEnabled => .bool Settings.default.features.hoverEnabled
  | .analyticsEnabled => .bool Settings.default.features.analyticsEnabled
  | .debounceMs => .int Settings.default.indexing.debounceMs
  | .justChangedMs => .int Settings.default.indexing.justChangedMs
  | .fileSource => .str (sourceName Settings.default.indexing.fileSource)
  | .extensions => .arr (Settings.default.indexing.extensions.map .str)

theorem lowerString_group (k : Key) : Text.lowerString k.group = k.group := by
  cases k <;> decide +kernel

theorem lowerString_name (k : Key) : Text.lowerString k.name = k.name := by
  cases k <;> decide +kernel

theorem parse_group (k : Key) : KeyPath.parse k.group = .ok ⟨k.group, []⟩ := by
  cases k <;> rfl

end Key

/-- The layer that gives a value for every key and holds nothing else. -/
def spelled (value : Key → Value) : List (String × Value) :=
  [("features", .table [("hover_enabled", value .hoverEnabled),
      ("analytics_enabled", value .analyticsEnabled)]),
    ("indexing", .table [("debounce_ms", value .debounceMs),
      ("just_changed_ms", value .justChangedMs), ("file_source", value .fileSource),
      ("extensions", value .extensions)])]

/-- The groups of the entries are tables, and what they hold for the keys. -/
def Spells (value : Key → Value) (entries : List (String × Value)) : Prop :=
  ∀ k : Key, ∃ group, Value.entry? k.group entries = some (.table group) ∧
    Value.entry? k.name group = some (value k)

theorem spells_usual : Spells Key.usual (layer .default) := by
  intro k
  cases k <;> exact ⟨_, rfl, rfl⟩

/-- All keys of a group are found in the one table of the group. -/
theorem Spells.group {value : Key → Value} {entries : List (String × Value)}
    (h : Spells value entries) (k : Key) :
    ∃ group, Value.entry? k.group entries = some (.table group) ∧
      ∀ k', k'.group = k.group → Value.entry? k'.name group = some (value k') := by
  obtain ⟨group, hgroup, -⟩ := h k
  refine ⟨group, hgroup, fun k' hk' => ?_⟩
  obtain ⟨group', hgroup', hvalue⟩ := h k'
  rw [hk', hgroup] at hgroup'
  cases hgroup'
  exact hvalue

/-- Entries give one value for a key. -/
theorem Spells.unique {value value' : Key → Value} {entries : List (String × Value)}
    (h : Spells value entries) (h' : Spells value' entries) (k : Key) : value k = value' k := by
  obtain ⟨group, hgroup, hvalue⟩ := h k
  obtain ⟨group', hgroup', hvalue'⟩ := h' k
  cases hgroup.symm.trans hgroup'
  exact Option.some_inj.mp (hvalue.symm.trans hvalue')

/-- Features are read from their two keys and from nothing else in the table. -/
theorem asFeatures_congr {entries entries' : List (String × Value)}
    (h : ∀ k : Key, k.group = "features" →
      Value.entry? k.name entries = Value.entry? k.name entries') :
    (Value.table entries).asFeatures = (Value.table entries').asFeatures := by
  have hhover : Value.entry? "hover_enabled" entries = _ := h .hoverEnabled rfl
  have hanalytics : Value.entry? "analytics_enabled" entries = _ := h .analyticsEnabled rfl
  simp only [Value.asFeatures, Group.of, bind, Except.bind, Group.read, Group.setting, hhover,
    hanalytics, Key.name]

/-- How the workspace is indexed is read from four keys and from nothing else in the table. -/
theorem asIndexing_congr {entries entries' : List (String × Value)}
    (h : ∀ k : Key, k.group = "indexing" →
      Value.entry? k.name entries = Value.entry? k.name entries') :
    (Value.table entries).asIndexing = (Value.table entries').asIndexing := by
  have hdebounce : Value.entry? "debounce_ms" entries = _ := h .debounceMs rfl
  have hjust : Value.entry? "just_changed_ms" entries = _ := h .justChangedMs rfl
  have hsource : Value.entry? "file_source" entries = _ := h .fileSource rfl
  have hextensions : Value.entry? "extensions" entries = _ := h .extensions rfl
  simp only [Value.asIndexing, Group.of, bind, Except.bind, Group.read, Group.setting, hdebounce,
    hjust, hsource, hextensions, Key.name]

/-- Settings depend on what is given for the keys and on nothing else. -/
theorem Spells.ofLayers_congr {value : Key → Value} {entries entries' : List (String × Value)}
    (h : Spells value entries) (h' : Spells value entries') :
    ofLayers entries = ofLayers entries' := by
  obtain ⟨features, hfeatures, hfeature⟩ := h.group .hoverEnabled
  obtain ⟨features', hfeatures', hfeature'⟩ := h'.group .hoverEnabled
  obtain ⟨indexing, hindexing, hindex⟩ := h.group .debounceMs
  obtain ⟨indexing', hindexing', hindex'⟩ := h'.group .debounceMs
  have asFeatures : (Value.table features).asFeatures = (Value.table features').asFeatures :=
    asFeatures_congr fun k hk => (hfeature k hk).trans (hfeature' k hk).symm
  have asIndexing : (Value.table indexing).asIndexing = (Value.table indexing').asIndexing :=
    asIndexing_congr fun k hk => (hindex k hk).trans (hindex' k hk).symm
  simp only [Key.group] at hfeatures hfeatures' hindexing hindexing'
  simp only [ofLayers, hfeatures, hfeatures', hindexing, hindexing', bind, Except.bind, asFeatures,
    asIndexing]

theorem spells_spelled (value : Key → Value) : Spells value (spelled value) := by
  intro k
  cases k <;> exact ⟨_, rfl, rfl⟩

/-! ### One value over another -/

namespace Value

theorem entry?_setEntry (name other : String) (value : Value) (entries : List (String × Value)) :
    entry? other (setEntry name value entries) =
      if name = other then some value else entry? other entries := by
  induction entries with
  | nil => by_cases h : name = other <;> simp [setEntry, entry?, h]
  | cons e entries ih =>
    obtain ⟨n, v⟩ := e
    simp only [Value.entry?] at ih
    by_cases hn : n = name
    · subst hn
      by_cases h : n = other <;> simp [setEntry, entry?, h]
    · by_cases ho : n = other
      · subst ho
        simp [setEntry, entry?, hn, Ne.symm hn]
      · simp [setEntry, entry?, hn, ho, ih]

/-- A value under further ones, from the bottom to the top. -/
def under (bottom : Value) (values : List Value) : Value :=
  values.foldl (fun old value => value.over (some old)) bottom

@[simp] theorem under_nil (bottom : Value) : bottom.under [] = bottom := rfl

@[simp] theorem under_cons (bottom value : Value) (values : List Value) :
    bottom.under (value :: values) = (value.over (some bottom)).under values := rfl

@[simp] theorem under_append (bottom : Value) (values values' : List Value) :
    bottom.under (values ++ values') = (bottom.under values).under values' :=
  List.foldl_append

/-- A value that is no table hides what lies below it. -/
theorem over_of_not_table {value : Value} (h : ∀ entries, value ≠ .table entries)
    (old : Option Value) : value.over old = value := by
  cases value with
  | table entries => exact absurd rfl (h entries)
  | nil | bool | int | float | str | arr => simp only [Value.over]

/-- An empty table leaves what lies below it. -/
theorem nil_over (old : Value) : (table []).over (some old) = old := by
  simp only [Value.over, Option.getD_some]

/-- A table is merged into a table, also if it is empty. -/
theorem table_over_table (entries old : List (String × Value)) :
    (table entries).over (some (table old)) = .table (mergeEntries entries old) := by
  cases entries with
  | nil => rw [nil_over, mergeEntries]
  | cons e entries => simp only [Value.over, Option.map_some, Option.getD_some, Value.entries]

/-- The values of the entries of a name. -/
def named (name : String) (entries : List (String × Value)) : List Value :=
  (entries.filter fun e => e.1 = name).map (·.2)

/-- Merging entries puts those of a name over what is there, one after the other. -/
theorem entry?_mergeEntries {name : String} {value : Value} {entries base : List (String × Value)}
    (hlower : ∀ e ∈ entries, Text.lowerString e.1 = e.1) (hbase : entry? name base = some value) :
    entry? name (mergeEntries entries base) = some (value.under (named name entries)) := by
  induction entries generalizing base value with
  | nil => rwa [mergeEntries]
  | cons e entries ih =>
    obtain ⟨n, v⟩ := e
    have hn : Text.lowerString n = n := hlower (n, v) (by simp)
    simp only [mergeEntries, hn]
    by_cases h : n = name
    · subst h
      have hset : entry? n (setEntry n (v.over (Value.entry? n base)) base) =
          some (v.over (some value)) := by
        rw [Value.entry?_setEntry, if_pos rfl, hbase]
      rw [ih (fun e he => hlower e (by simp [he])) hset]
      simp [named]
    · have hset : entry? name (setEntry n (v.over (Value.entry? n base)) base) = some value := by
        rw [Value.entry?_setEntry, if_neg h, hbase]
      rw [ih (fun e he => hlower e (by simp [he])) hset]
      simp [named, h]

end Value

/-! ### Layers -/

/-- The values that a layer holds for a key. -/
def Key.valuesIn (k : Key) (entries : List (String × Value)) : List Value :=
  (Value.named k.group entries).flatMap fun group => Value.named k.name group.entries

/-- The value is the table of a known group and holds known keys only. -/
def KnownGroup (name : String) : Value → Prop
  | .table group => (∃ k : Key, k.group = name) ∧
      ∀ x ∈ group, ∃ k : Key, k.group = name ∧ k.name = x.1
  | _ => False

/-- The layer holds known keys only. -/
def KnownOnly (entries : List (String × Value)) : Prop := ∀ e ∈ entries, KnownGroup e.1 e.2

instance (name : String) : DecidablePred (KnownGroup name)
  | .table _ => inferInstanceAs (Decidable (_ ∧ _))
  | .nil | .bool _ | .int _ | .float _ | .str _ | .arr _ => .isFalse id

instance : DecidablePred KnownOnly := fun entries =>
  inferInstanceAs (Decidable (∀ e ∈ entries, KnownGroup e.1 e.2))

variable {value : Key → Value} {base : List (String × Value)}

/-- **One entry of a file** puts what it holds for a key over what is there for this key. -/
theorem Spells.putEntry (h : Spells value base) {e : String × Value} (he : KnownOnly [e]) :
    Spells (fun k => (value k).under (k.valuesIn [e])) (putEntry base e) := by
  obtain ⟨name, v⟩ := e
  obtain ⟨group, rfl⟩ : ∃ group, v = .table group := by
    cases v with
    | table group => exact ⟨group, rfl⟩
    | nil | bool | int | float | str | arr => exact (he _ (List.mem_singleton_self _)).elim
  obtain ⟨⟨k₀, rfl⟩, hgroup⟩ := he (name, .table group) (by simp)
  have hput : Settings.putEntry base (k₀.group, .table group) = Value.setEntry k₀.group
      ((Value.table group).over (Value.entry? k₀.group base)) base := by
    simp only [Settings.putEntry, k₀.parse_group, KeyPath.put, putAt, k₀.lowerString_group]
  rw [hput]
  intro k
  obtain ⟨old, hold, hvalue⟩ := h k
  rw [Value.entry?_setEntry]
  by_cases hk : k₀.group = k.group
  · rw [if_pos hk, hk, hold, Value.table_over_table]
    refine ⟨_, rfl, ?_⟩
    have hlower : ∀ x ∈ group, Text.lowerString x.1 = x.1 := by
      intro x hx
      obtain ⟨k', -, hk'⟩ := hgroup x hx
      rw [← hk', k'.lowerString_name]
    rw [Value.entry?_mergeEntries hlower hvalue]
    simp [Key.valuesIn, Value.named, Value.entries]
  · rw [if_neg hk]
    exact ⟨old, hold, by simp [Key.valuesIn, Value.named, hk, hvalue]⟩

theorem Spells.putLayer (h : Spells value base) {entries : List (String × Value)}
    (he : KnownOnly entries) :
    Spells (fun k => (value k).under (k.valuesIn entries)) (putLayer base entries) := by
  induction entries generalizing base value with
  | nil => exact h
  | cons e entries ih =>
    have hfirst := h.putEntry (e := e) fun x hx => he x (by simp_all)
    have hrest := ih hfirst fun x hx => he x (by simp [hx])
    have hvalues : ∀ k : Key, k.valuesIn (e :: entries) = k.valuesIn [e] ++ k.valuesIn entries := by
      intro k
      by_cases hk : e.1 = k.group <;> simp [Key.valuesIn, Value.named, hk]
    simpa only [hvalues, Value.under_append, Settings.putLayer, List.foldl_cons] using hrest

/-- **All files** put what they hold for a key over it, from the first file to the last. -/
theorem Spells.putLayers (h : Spells value base) {layers : List (List (String × Value))}
    (hlayers : ∀ entries ∈ layers, KnownOnly entries) :
    Spells (fun k => (value k).under (layers.flatMap k.valuesIn))
      (layers.foldl Settings.putLayer base) := by
  induction layers generalizing base value with
  | nil => exact h
  | cons entries layers ih =>
    have hfirst := h.putLayer (hlayers entries (by simp))
    have hrest := ih hfirst fun x hx => hlayers x (by simp [hx])
    simpa only [List.flatMap_cons, List.foldl_cons, Value.under_append] using hrest

/-! ### Places set by hand -/

/-- The group and the name of a path of two identifiers, as they are compared. -/
def KeyPath.dotted? : KeyPath → Option (String × String)
  | ⟨group, [.child name]⟩ => some (Text.lowerString group, Text.lowerString name)
  | _ => none

/-- The path leads to the key. -/
def Key.IsAt (k : Key) (path : KeyPath) : Prop := path.dotted? = some (k.group, k.name)

instance (k : Key) (path : KeyPath) : Decidable (k.IsAt path) :=
  inferInstanceAs (Decidable (_ = _))

/-- **A place set by hand** puts its value over that of its own key. -/
theorem Spells.put (h : Spells value base) {path : KeyPath} (hpath : path.dotted?.isSome)
    (v : Value) :
    Spells (fun k => if k.IsAt path then v.over (some (value k)) else value k)
      (path.put v base) := by
  obtain ⟨g, n, rfl⟩ : ∃ g n, path = ⟨g, [.child n]⟩ := by
    unfold KeyPath.dotted? at hpath
    split at hpath
    · exact ⟨_, _, rfl⟩
    · cases hpath
  intro k
  obtain ⟨old, hold, hvalue⟩ := h k
  simp only [KeyPath.put, putAt, Value.entry?_setEntry, Key.IsAt, KeyPath.dotted?,
    Option.some.injEq, Prod.mk.injEq]
  by_cases hg : Text.lowerString g = k.group
  · refine ⟨_, if_pos hg, ?_⟩
    simp only [hg, hold, Option.map_some, Option.getD_some, Value.entries, Value.entry?_setEntry,
      true_and]
    by_cases hn : Text.lowerString n = k.name
    · simp only [hn, if_true, hvalue]
    · simp only [hn, if_false, hvalue]
  · exact ⟨old, by rw [if_neg hg, hold], by simp only [hg, false_and, if_false, hvalue]⟩

theorem Spells.putAll (h : Spells value base) {places : List (KeyPath × Value)}
    (hplaces : ∀ o ∈ places, o.1.dotted?.isSome) :
    Spells (fun k => (value k).under ((places.filter fun o => k.IsAt o.1).map (·.2)))
      (places.foldl (fun base o => o.1.put o.2 base) base) := by
  induction places generalizing base value with
  | nil => exact h
  | cons o places ih =>
    have hfirst := h.put (hplaces o (by simp)) o.2
    have hrest := ih hfirst fun x hx => hplaces x (by simp [hx])
    have hvalues : ∀ k : Key,
        (value k).under (((o :: places).filter fun o => k.IsAt o.1).map (·.2)) =
          (if k.IsAt o.1 then o.2.over (some (value k)) else value k).under
            ((places.filter fun o => k.IsAt o.1).map (·.2)) := by
      intro k
      by_cases hk : k.IsAt o.1 <;> simp [hk]
    simpa only [hvalues, List.foldl_cons] using hrest

/-- What is remembered of places after one more was set. -/
def remember (places : List (KeyPath × Value)) (o : KeyPath × Value) : List (KeyPath × Value) :=
  places.filter (·.1 ≠ o.1) ++ [o]

/-- What is remembered of places that were set one after the other. -/
def latest (places : List (KeyPath × Value)) : List (KeyPath × Value) := places.foldl remember []

theorem latest_concat (places : List (KeyPath × Value)) (o : KeyPath × Value) :
    latest (places ++ [o]) = remember (latest places) o := by
  simp [latest]

theorem mem_of_mem_latest {places : List (KeyPath × Value)} {o : KeyPath × Value}
    (h : o ∈ latest places) : o ∈ places := by
  induction places using List.reverseRecOn with
  | nil => exact h
  | append_singleton places last ih =>
    rw [latest_concat, remember, List.mem_append, List.mem_filter] at h
    exact List.mem_append.mpr (h.imp_left fun h => ih h.1)

/-- Of the places for one key, the last one is remembered, if the key was always spelled alike. -/
theorem filter_latest {k : Key} {places : List (KeyPath × Value)}
    (halike : ∀ a ∈ places, ∀ b ∈ places, k.IsAt a.1 → k.IsAt b.1 → a.1 = b.1) :
    (latest places).filter (fun o => k.IsAt o.1) =
      (places.filter fun o => k.IsAt o.1).getLast?.toList := by
  induction places using List.reverseRecOn with
  | nil => rfl
  | append_singleton places last ih =>
    rw [latest_concat, remember, List.filter_append, List.filter_append]
    by_cases hk : k.IsAt last.1
    · -- earlier places for the key are spelled alike, so the last one makes them forgotten
      have hforgotten :
          ((latest places).filter (·.1 ≠ last.1)).filter (fun o => k.IsAt o.1) = [] := by
        simp only [List.filter_filter, List.filter_eq_nil_iff]
        intro o ho hat
        simp only [Bool.and_eq_true, decide_eq_true_eq] at hat
        exact hat.2 (halike o (by simp [mem_of_mem_latest ho]) last (by simp) hat.1 hk)
      rw [hforgotten]
      simp [hk]
    · -- a place for the key is spelled differently from the last one, so it stays
      have hkept : ((latest places).filter (·.1 ≠ last.1)).filter (fun o => k.IsAt o.1) =
          (latest places).filter (fun o => k.IsAt o.1) := by
        rw [List.filter_filter]
        refine List.filter_congr fun o _ => ?_
        by_cases ho : k.IsAt o.1
        · have hne : o.1 ≠ last.1 := fun h => hk (h ▸ ho)
          simp [ho, hne]
        · simp [ho]
      rw [hkept, ih fun a ha b hb => halike a (by simp [ha]) b (by simp [hb])]
      simp [hk]

/-! ### Calls of a loader -/

/-- A call that adds to a loader. -/
inductive LoaderCall where
  | file (path : Disk.Path)
  | optionalFile (path : Disk.Path)
  | override (key : String) (value : Value)

/-- The file that the call adds. -/
def LoaderCall.file? : LoaderCall → Option SettingsFile
  | .file path => some ⟨path, true⟩
  | .optionalFile path => some ⟨path, false⟩
  | .override _ _ => none

/-- The key that the call sets by hand, and the value. -/
def LoaderCall.override? : LoaderCall → Option (String × Value)
  | .file _ | .optionalFile _ => none
  | .override key value => some (key, value)

/-- The files that calls add, in order. -/
def filesOf (calls : List LoaderCall) : List SettingsFile := calls.filterMap LoaderCall.file?

/-- The keys that calls set by hand, in order, with their values. -/
def overridesOf (calls : List LoaderCall) : List (String × Value) :=
  calls.filterMap LoaderCall.override?

/-- The place that a key names, with the value for it. -/
def placeOf (o : String × Value) : Load (KeyPath × Value) :=
  match KeyPath.parse o.1 with
  | .ok path => .ok (path, o.2)
  | .error cause => .error (.badKey cause)

namespace Loader

/-- The loader after a call. -/
def take (l : Loader) : LoaderCall → Load Loader
  | .file path => .ok (l.withFile path)
  | .optionalFile path => .ok (l.withOptionalFile path)
  | .override key value => l.setOverride key value

/-- The loader after calls. -/
def takeAll (l : Loader) (calls : List LoaderCall) : Load Loader := calls.foldlM take l

theorem setOverride_eq (l : Loader) (key : String) (value : Value) :
    l.setOverride key value =
      (placeOf (key, value)).map fun o => { l with overrides := remember l.overrides o } := by
  simp only [setOverride, placeOf]
  cases KeyPath.parse key <;> rfl

/-- Files and places set by hand are gathered apart from each other. -/
theorem takeAll_eq (l : Loader) (calls : List LoaderCall) :
    l.takeAll calls = ((overridesOf calls).mapM placeOf).map fun places =>
      ⟨l.files ++ filesOf calls, places.foldl remember l.overrides⟩ := by
  induction calls generalizing l with
  | nil => simp [takeAll, overridesOf, filesOf, pure, Except.pure, Except.map]
  | cons call calls ih =>
    have hcons : l.takeAll (call :: calls) = (l.take call).bind fun l' => l'.takeAll calls := rfl
    rw [hcons]
    cases call with
    | file path =>
      simp [take, Except.bind, ih, withFile, overridesOf, filesOf, LoaderCall.file?,
        LoaderCall.override?, List.filterMap_cons]
    | optionalFile path =>
      simp [take, Except.bind, ih, withOptionalFile, overridesOf, filesOf, LoaderCall.file?,
        LoaderCall.override?, List.filterMap_cons]
    | override key value =>
      simp only [take, setOverride_eq, ih, overridesOf, filesOf, LoaderCall.file?,
        LoaderCall.override?, List.filterMap_cons, List.mapM_cons]
      -- a key that is no path ends the calls, whatever files come after it
      cases placeOf (key, value) with
      | error e => rfl
      | ok o =>
        simp only [Except.map, Except.bind, bind]
        cases List.mapM placeOf (calls.filterMap LoaderCall.override?) <;> rfl

end Loader

/-- The settings that are built with calls, starting from the usual ones. -/
def build (t : Disk.FileTree) (calls : List LoaderCall) : Load Settings := do
  (← Loader.usual.takeAll calls).load t

theorem build_eq (t : Disk.FileTree) (calls : List LoaderCall) :
    build t calls = ((overridesOf calls).mapM placeOf).bind fun places =>
      (⟨filesOf calls, latest places⟩ : Loader).load t := by
  simp only [build, Loader.takeAll_eq]
  cases List.mapM placeOf (overridesOf calls) <;> rfl

/-! ### Reading the files -/

namespace SettingsFile

/-- A file that is not there is an error or an empty layer. -/
theorem layer_of_absent {f : SettingsFile} {t : Disk.FileTree} (h : f.content? t = none) :
    f.layer t = if f.required then .error (.unreadable f.path.text) else .ok [] := by
  simp only [layer, h, Option.bind_none]

end SettingsFile

/-- One failure is enough. -/
theorem exists_mapM_eq_error {α β : Type} {f : α → Load β} {x : α} {xs : List α} {e : LoadError}
    (hx : x ∈ xs) (he : f x = .error e) : ∃ e, xs.mapM f = .error e := by
  induction xs with
  | nil => cases hx
  | cons y ys ih =>
    rw [List.mapM_cons]
    cases hy : f y with
    | error e' => exact ⟨e', rfl⟩
    | ok z =>
      have hys : x ∈ ys := (List.mem_cons.mp hx).resolve_left fun h => by simp [h, hy] at he
      obtain ⟨e', he'⟩ := ih hys
      exact ⟨e', by rw [he']; rfl⟩

theorem mapM_eq_filterMap {α β : Type} {f : α → Load β} {xs : List α}
    (h : ∀ x ∈ xs, ∃ y, y ∈ (f x).toOption) :
    xs.mapM f = .ok (xs.filterMap fun x => (f x).toOption) := by
  induction xs with
  | nil => rfl
  | cons x xs ih =>
    obtain ⟨y, hy⟩ := h x (by simp)
    rw [List.mapM_cons, List.filterMap_cons, ih fun x hx => h x (by simp [hx])]
    cases hx : f x with
    | error e => simp [hx, Except.toOption] at hy
    | ok y => rfl

/-- The layers of files that can all be read, with the places set by hand on top. -/
theorem merged_of_layers {t : Disk.FileTree} {l : Loader} {layers : List (List (String × Value))}
    (h : l.files.mapM (·.layer t) = .ok layers) :
    l.merged t = .ok (l.overrides.foldl (fun base o => o.1.put o.2 base)
      (layers.foldl putLayer (layer .default))) := by
  rw [Loader.merged, h]
  rfl

/-- An empty layer makes no difference, wherever it stands. -/
theorem merged_of_empty_layer {t : Disk.FileTree} {f : SettingsFile} (hf : f.layer t = .ok [])
    (before after : List SettingsFile) (overrides : List (KeyPath × Value)) :
    (⟨before ++ f :: after, overrides⟩ : Loader).merged t =
      (⟨before ++ after, overrides⟩ : Loader).merged t := by
  simp only [Loader.merged, List.mapM_append, List.mapM_cons, hf]
  cases List.mapM (fun f => f.layer t) before with
  | error e => rfl
  | ok layers =>
    cases List.mapM (fun f => f.layer t) after with
    | error e => rfl
    | ok layers' =>
      simp only [bind, Except.bind, pure, Except.pure, List.foldl_append, List.foldl_cons]
      rfl

theorem merged_of_missing_file {t : Disk.FileTree} {l : Loader} {f : SettingsFile}
    (hf : f ∈ l.files) (hrequired : f.required) (habsent : f.content? t = none) :
    ∃ e, l.merged t = .error e := by
  have hlayer : f.layer t = .error (.unreadable f.path.text) := by
    rw [SettingsFile.layer_of_absent habsent, if_pos hrequired]
  obtain ⟨e, he⟩ := exists_mapM_eq_error (f := (·.layer t)) hf hlayer
  exact ⟨e, by simp only [Loader.merged, he]; rfl⟩

/-! ### What calls give for a key -/

/-- The layers that the files of calls hold. -/
def layersOf (t : Disk.FileTree) (calls : List LoaderCall) : List (List (String × Value)) :=
  (filesOf calls).filterMap fun f => (f.layer t).toOption

/-- The places that calls set by hand. -/
def placesOf (calls : List LoaderCall) : List (KeyPath × Value) :=
  (overridesOf calls).filterMap fun o => (placeOf o).toOption

/-- Calls for known keys: files that are there hold nothing else, and only single keys are set by
hand. -/
structure Plain (t : Disk.FileTree) (calls : List LoaderCall) : Prop where
  files : ∀ f ∈ filesOf calls, (f.content? t).isSome →
    ∃ entries ∈ (f.layer t).toOption, KnownOnly entries
  dotted : ∀ o ∈ overridesOf calls, ∃ path ∈ (KeyPath.parse o.1).toOption, path.dotted?.isSome

namespace Key

/-- The key is spelled alike wherever it is set by hand. Places that differ in letter case only are
remembered side by side, in no order to rely on. -/
def Alike (k : Key) (calls : List LoaderCall) : Prop :=
  ∀ a ∈ placesOf calls, ∀ b ∈ placesOf calls, k.IsAt a.1 → k.IsAt b.1 → a.1 = b.1

instance (k : Key) (calls : List LoaderCall) : Decidable (k.Alike calls) :=
  inferInstanceAs (Decidable (∀ a ∈ placesOf calls, ∀ b ∈ placesOf calls, _ → _ → _))

/-- The values that files give for a key, from the first file to the last. -/
def filed (k : Key) (t : Disk.FileTree) (calls : List LoaderCall) : List Value :=
  (layersOf t calls).flatMap k.valuesIn

/-- The value that was set for a key by hand at last. -/
def lastOverride? (k : Key) (calls : List LoaderCall) : Option Value :=
  ((placesOf calls).filter fun o => k.IsAt o.1).getLast?.map (·.2)

/-- The value of the topmost layer that has one for the key. -/
def topmost (k : Key) (t : Disk.FileTree) (calls : List LoaderCall) : Value :=
  ((k.lastOverride? calls).or (k.filed t calls).getLast?).getD k.usual

/-- The value of all layers together for the key. -/
def resolved (k : Key) (t : Disk.FileTree) (calls : List LoaderCall) : Value :=
  k.usual.under (k.filed t calls ++ (k.lastOverride? calls).toList)

end Key

theorem Value.under_eq_getLast {bottom : Value} {values : List Value}
    (h : ∀ entries, values.getLast?.getD bottom ≠ .table entries) :
    bottom.under values = values.getLast?.getD bottom := by
  induction values using List.reverseRecOn with
  | nil => rfl
  | append_singleton values last _ =>
    rw [List.getLast?_concat, Option.getD_some] at h ⊢
    rw [under_append, under_cons, under_nil, over_of_not_table h]

theorem Key.resolved_eq_topmost {k : Key} {t : Disk.FileTree} {calls : List LoaderCall}
    (h : ∀ entries, k.topmost t calls ≠ .table entries) :
    k.resolved t calls = k.topmost t calls := by
  have hlast : (k.filed t calls ++ (k.lastOverride? calls).toList).getLast? =
      (k.lastOverride? calls).or (k.filed t calls).getLast? := by
    rw [List.getLast?_append]
    cases k.lastOverride? calls <;> rfl
  rw [topmost, ← hlast] at h ⊢
  exact Value.under_eq_getLast h

theorem Key.resolved_of_empty_table {k : Key} {t : Disk.FileTree} {calls : List LoaderCall}
    (h : k.lastOverride? calls = some (.table [])) :
    k.resolved t calls = k.usual.under (k.filed t calls) := by
  rw [resolved, h, Option.toList_some, Value.under_append, Value.under_cons, Value.under_nil,
    Value.nil_over]

namespace Plain

variable {t : Disk.FileTree} {calls : List LoaderCall}

/-- Every file can be read, and those that are not there hold nothing. -/
theorem mapM_layer (h : Plain t calls)
    (hthere : ∀ f ∈ filesOf calls, f.required → (f.content? t).isSome) :
    (filesOf calls).mapM (·.layer t) = .ok (layersOf t calls) ∧
      ∀ entries ∈ layersOf t calls, KnownOnly entries := by
  have hlayer : ∀ f ∈ filesOf calls, ∃ entries ∈ (f.layer t).toOption, KnownOnly entries := by
    intro f hf
    cases hcontent : f.content? t with
    | some content => exact h.files f hf (by simp [hcontent])
    | none =>
      have hoptional : ¬ f.required := fun hrequired => by
        simpa [hcontent] using hthere f hf hrequired
      rw [SettingsFile.layer_of_absent hcontent, if_neg hoptional]
      exact ⟨[], rfl, by simp [KnownOnly]⟩
  refine ⟨mapM_eq_filterMap fun f hf => (hlayer f hf).imp fun _ => And.left, ?_⟩
  intro entries hentries
  obtain ⟨f, hf, hentries⟩ := List.mem_filterMap.mp hentries
  obtain ⟨entries', hread, hknown⟩ := hlayer f hf
  exact Option.some_inj.mp (hentries.symm.trans hread) ▸ hknown

/-- Every key that is set by hand names a place. -/
theorem mapM_placeOf (h : Plain t calls) :
    (overridesOf calls).mapM placeOf = .ok (placesOf calls) ∧
      ∀ o ∈ placesOf calls, o.1.dotted?.isSome := by
  have hplace : ∀ o ∈ overridesOf calls, ∃ o' ∈ (placeOf o).toOption, o'.1.dotted?.isSome := by
    intro o ho
    obtain ⟨path, hpath, hdotted⟩ := h.dotted o ho
    rw [placeOf]
    cases hparse : KeyPath.parse o.1 with
    | error cause => simp [hparse, Except.toOption] at hpath
    | ok path' =>
      rw [hparse] at hpath
      cases hpath
      exact ⟨(path, o.2), rfl, hdotted⟩
  refine ⟨mapM_eq_filterMap fun o ho => (hplace o ho).imp fun _ => And.left, fun o ho => ?_⟩
  obtain ⟨o', ho', hread⟩ := List.mem_filterMap.mp ho
  obtain ⟨o'', hplaced, hdotted⟩ := hplace o' ho'
  exact Option.some_inj.mp (hread.symm.trans hplaced) ▸ hdotted

/-- The merged layers give for each key what its own layers give. -/
theorem spells (h : Plain t calls)
    (hthere : ∀ f ∈ filesOf calls, f.required → (f.content? t).isSome) :
    ∃ l entries value, Loader.usual.takeAll calls = .ok l ∧ l.merged t = .ok entries ∧
      Spells value entries ∧ ∀ k : Key, k.Alike calls → value k = k.resolved t calls := by
  obtain ⟨hlayers, hknown⟩ := h.mapM_layer hthere
  obtain ⟨hplaces, hdotted⟩ := h.mapM_placeOf
  have htaken : Loader.usual.takeAll calls = .ok ⟨filesOf calls, latest (placesOf calls)⟩ := by
    rw [Loader.takeAll_eq, hplaces]
    rfl
  have hlast (k : Key) (halike : k.Alike calls) :
      ((latest (placesOf calls)).filter fun o => k.IsAt o.1).map (·.2) =
        (k.lastOverride? calls).toList := by
    rw [filter_latest halike, Key.lastOverride?]
    cases ((placesOf calls).filter fun o => k.IsAt o.1).getLast? <;> rfl
  have hspells := (spells_usual.putLayers hknown).putAll
    fun o ho => hdotted o (mem_of_mem_latest ho)
  refine ⟨_, _, _, htaken, merged_of_layers hlayers, hspells, fun k halike => ?_⟩
  rw [hlast k halike, Key.resolved, Key.filed, Value.under_append]

end Plain

/-- **Every key is settled apart from the others, and by hand before any file.** After any calls
for known keys the merged layers give a value for each key, and settings are read from these six
values and from nothing else. Let a key be spelled alike wherever it is set by hand, however the
others are spelled. Then its value is what all layers together give for it: the value that was set
by hand at last; if there is none, the value of the last file with one, and else the usual value.
Only a value that is a table is merged into what lies below it and does not replace it, so that an
empty one leaves the value of the files.

It makes no difference where among the files a key is set by hand, nor where a file is added that
need not be there and is not. A file that has to be there and is not, neither under its name nor
with the ending added, leaves no settings, whatever else is called. -/
theorem keys_settle_apart (t : Disk.FileTree) (calls : List LoaderCall) :
    (Plain t calls → (∀ f ∈ filesOf calls, f.required → (f.content? t).isSome) →
      ∃ l entries value, Loader.usual.takeAll calls = .ok l ∧ l.merged t = .ok entries ∧
        Spells value entries ∧ build t calls = ofLayers (spelled value) ∧
        ∀ k : Key, k.Alike calls →
          value k = k.resolved t calls ∧
          ((∀ entries, k.topmost t calls ≠ .table entries) → value k = k.topmost t calls) ∧
          (k.lastOverride? calls = some (.table []) →
            value k = k.usual.under (k.filed t calls))) ∧
    (∀ calls', filesOf calls' = filesOf calls → overridesOf calls' = overridesOf calls →
      build t calls' = build t calls) ∧
    (∀ before after path, calls = before ++ after →
      (⟨path, false⟩ : SettingsFile).content? t = none →
      build t (before ++ .optionalFile path :: after) = build t calls) ∧
    (∀ path, .file path ∈ calls → t.read? path = none →
      (SettingsFile.withEnding? path).bind t.read? = none → ∃ e, build t calls = .error e) := by
  refine ⟨fun h hthere => ?_, ?_, ?_, ?_⟩
  · obtain ⟨l, entries, value, hl, hentries, hspells, hresolved⟩ := h.spells hthere
    refine ⟨l, entries, value, hl, hentries, hspells, ?_, fun k halike => ?_⟩
    · rw [← hspells.ofLayers_congr (spells_spelled _)]
      simp only [build, Loader.load, hl, hentries, bind, Except.bind]
    · rw [hresolved k halike]
      exact ⟨rfl, Key.resolved_eq_topmost, Key.resolved_of_empty_table⟩
  · intro calls' hfiles hoverrides
    rw [build_eq, build_eq, hfiles, hoverrides]
  · rintro before after path rfl habsent
    have hempty : (⟨path, false⟩ : SettingsFile).layer t = .ok [] :=
      SettingsFile.layer_of_absent habsent
    have hoverrides : overridesOf (before ++ .optionalFile path :: after) =
        overridesOf (before ++ after) := by
      simp [overridesOf, LoaderCall.override?, List.filterMap_cons]
    have hfiles : filesOf (before ++ .optionalFile path :: after) =
        filesOf before ++ ⟨path, false⟩ :: filesOf after := by
      simp [filesOf, LoaderCall.file?]
    have hfiles' : filesOf (before ++ after) = filesOf before ++ filesOf after := by
      simp [filesOf]
    simp only [build_eq, hoverrides, hfiles, hfiles', Loader.load, merged_of_empty_layer hempty]
  · intro path hpath hread hending
    have hmem : ⟨path, true⟩ ∈ filesOf calls := List.mem_filterMap.mpr ⟨_, hpath, rfl⟩
    have habsent : (⟨path, true⟩ : SettingsFile).content? t = none := by
      rw [SettingsFile.content?, hread, hending, Option.none_or]
    rw [build_eq]
    cases List.mapM placeOf (overridesOf calls) with
    | error e => exact ⟨e, rfl⟩
    | ok places =>
      obtain ⟨e, he⟩ :=
        merged_of_missing_file (l := ⟨filesOf calls, latest places⟩) hmem rfl habsent
      exact ⟨e, by simp only [Except.bind, Loader.load, he, bind]⟩

/-- A file of the user and one of a project. -/
def userFiles : Disk.FileTree :=
  ((Disk.FileTree.emptyAt []).put [.ofString "user.toml"] (.file (Text.toUtf8
    "[features]\nhover_enabled = false\n[indexing]\ndebounce_ms = 90\n".toList))).put
    [.ofString "project.toml"] (.file (Text.toUtf8
      "[indexing]\ndebounce_ms = 70\nextensions = [\"scala\"]\n".toList))

/-- Calls for both files and for one that is not there, with keys set by hand in between. -/
def userCalls : List LoaderCall :=
  [.override "indexing.debounce_ms" (.int 40), .file (.ofString "/user.toml"),
    .override "indexing.file_source" (.str "disk"), .optionalFile (.ofString "/gone"),
    .optionalFile (.ofString "/project")]

theorem keys_settle_apart_between_files :
    Plain userFiles userCalls ∧
      (∀ f ∈ filesOf userCalls, f.required → (f.content? userFiles).isSome) ∧
      (∀ k : Key, k.Alike userCalls) ∧
      build userFiles userCalls = .ok ⟨⟨false, true⟩, ⟨40, 500, .disk, ["scala"]⟩⟩ := by
  have hplain : Plain userFiles userCalls := ⟨by decide +kernel, by decide +kernel⟩
  have hthere : ∀ f ∈ filesOf userCalls, f.required → (f.content? userFiles).isSome := by
    decide +kernel
  have halike : ∀ k : Key, k.Alike userCalls := by decide +kernel
  obtain ⟨-, -, value, -, -, -, hbuild, hvalue⟩ :=
    (keys_settle_apart userFiles userCalls).1 hplain hthere
  obtain rfl : value = fun k => k.resolved userFiles userCalls :=
    funext fun k => (hvalue k (halike k)).1
  exact ⟨hplain, hthere, halike, hbuild.trans (by decide +kernel)⟩

/-- An empty table that is set for a key by hand does not become its value. -/
theorem empty_table_is_passed_over :
    let calls := [LoaderCall.override "indexing.debounce_ms" (.table [])]
    Plain (.emptyAt []) calls ∧ (∀ k : Key, k.Alike calls) ∧
      Key.debounceMs.lastOverride? calls = some (.table []) ∧
      ∃ l entries, Loader.usual.takeAll calls = .ok l ∧ l.merged (.emptyAt []) = .ok entries ∧
        (¬ Spells (fun k => k.topmost (.emptyAt []) calls) entries) ∧
        build (.emptyAt []) calls = .ok .default := by
  intro calls
  have hplain : Plain (.emptyAt []) calls := ⟨by decide +kernel, by decide +kernel⟩
  have halike : ∀ k : Key, k.Alike calls := by decide +kernel
  have hplaces : placesOf calls = [(⟨"indexing", [.child "debounce_ms"]⟩, .table [])] := rfl
  have hat : Key.debounceMs.IsAt ⟨"indexing", [.child "debounce_ms"]⟩ := by decide +kernel
  have hlast : Key.debounceMs.lastOverride? calls = some (.table []) := by
    simp [Key.lastOverride?, hplaces, hat]
  have htopmost : Key.debounceMs.topmost (.emptyAt []) calls = .table [] := by
    simp [Key.topmost, hlast]
  have hthere : ∀ f ∈ filesOf calls, f.required → (f.content? (.emptyAt [])).isSome := nofun
  obtain ⟨l, entries, value, hl, hentries, hspells, hresolved⟩ := hplain.spells hthere
  have husual : value .debounceMs = .int 150 :=
    (hresolved .debounceMs (halike _)).trans (Key.resolved_of_empty_table hlast)
  refine ⟨hplain, halike, hlast, l, entries, hl, hentries, fun h => ?_, by decide +kernel⟩
  have hvalue := hspells.unique h .debounceMs
  rw [husual, htopmost] at hvalue
  cases hvalue

end SymbolAtlas.Settings
