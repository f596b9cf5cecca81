import Mathlib.Order.RelClasses
import SymbolAtlas.Proofs.LiveEdit

/-!
# Requests that an edit overtakes

News from disk and a save without a text are heard in two steps: the service asks for files, and
schedules what it is given when the answer comes. In between it hears of other things. This module
takes the two steps apart. A `Traffic` is a service with the requests that are under way, and a
`Move` makes a request, brings the answer to any one of them, edits a document, or lets the timer
and the clock act.

To the index a move is the arrival that it puts in front of the scheduler, so the last arrival that
speaks of a file decides what is indexed of it, and the time at which its files were asked for has
no part in that. Whether an editor has just changed a file is looked up when files are asked for and
not again when they arrive. So a request that is under way when its file is edited overwrites the
edit.

## Main results

* `Traffic.move_watched_answer`, `Traffic.move_saved_answer`: a request that is answered at once is
  the undivided operation.
* `Traffic.settles_move`, `Traffic.settles_run`: where a move leads, and a run of moves.
* `Traffic.Clear.lastWord?`: a file that no request and no move is about is not spoken of.
* `last_arrival_decides`: what is indexed of an edited file in the end.
* `stale_answer_overwrites`: an edit that is lost.
-/

namespace SymbolAtlas

/-- Files that were asked for, and what is to be dropped when they arrive. -/
structure Request where
  asked : List Uri
  deleted : List Uri
  deriving DecidableEq

/-- A service and its requests under way, oldest first. -/
structure Traffic where
  service : Service
  underWay : List Request

/-- What happens to a service with requests under way. -/
inductive Move where
  /-- Files changed on disk. -/
  | watched (changes : List (Uri × Change))
  /-- A document was saved, without its text. -/
  | saved (u : Uri)
  /-- The answer to one of the requests. -/
  | answer (i : Nat) (given : Except ProviderError (List FileEntry))
  /-- A document was edited. -/
  | changed (p : Provider) (u : Uri) (text : String)
  /-- Time passes. -/
  | pass (ms : Nat)
  /-- The timer looks at the clock and applies what is due. -/
  | timer
  /-- Someone asks to apply what waits. -/
  | flush

/-- What the last arrival that speaks of a file says of it. -/
def lastWord? : List (List FileEntry × List Uri) → Uri → Option (Option FileEntry)
  | [], _ => none
  | a :: arrivals, u => (lastWord? arrivals u).or (arrivalWord? a.1 a.2 u)

/-- If no arrival drops the file, the last text that arrives is the last word. -/
theorem lastWord?_of_not_deleted {arrivals : List (List FileEntry × List Uri)} {u : Uri}
    (h : ∀ a ∈ arrivals, u ∉ a.2) :
    lastWord? arrivals u = (latest? (arrivals.flatMap (·.1)) u).map some := by
  induction arrivals with
  | nil => rfl
  | cons a arrivals ih =>
      obtain ⟨ha, hrest⟩ := List.forall_mem_cons.mp h
      rw [lastWord?, ih hrest, arrivalWord?, if_neg ha, List.flatMap_cons, latest?_append]
      cases latest? (arrivals.flatMap (·.1)) u <;> rfl

namespace Traffic

/-- A service without requests under way. -/
def quiet (s : Service) : Traffic := ⟨s, []⟩

/-- A request is made. -/
def ask (t : Traffic) (r : Request) : Traffic :=
  ⟨t.service.noteCalls [.files r.asked], t.underWay ++ [r]⟩

/-- The service and its requests after a move. News that asks for nothing is scheduled at once. -/
def move (t : Traffic) : Move → Traffic
  | .watched changes =>
    let refetch := t.service.toRefetch changes
    if refetch.isEmpty then { t with service := t.service.schedule [] (Service.toDrop changes) }
    else t.ask ⟨refetch, Service.toDrop changes⟩
  | .saved u => t.ask ⟨[u], []⟩
  | .answer i given =>
    match t.underWay[i]? with
    | none => t
    | some r => ⟨t.service.scheduleFetched given r.deleted, t.underWay.eraseIdx i⟩
  | .changed p u text => { t with service := t.service.changed p u text }
  | .pass ms => { t with service := { t.service with scheduler := t.service.scheduler.pass ms } }
  | .timer => { t with service := t.service.settle }
  | .flush => { t with service := t.service.flush.2 }

/-- The service and its requests after a run of moves. -/
def run (t : Traffic) (moves : List Move) : Traffic := moves.foldl move t

/-- The new texts and the deletions that a move puts in front of the scheduler. -/
def arrival (t : Traffic) : Move → List FileEntry × List Uri
  | .watched changes =>
    if (t.service.toRefetch changes).isEmpty then ([], Service.toDrop changes) else ([], [])
  | .answer i given =>
    match t.underWay[i]? with
    | none => ([], [])
    | some r => (given.toOption.getD [], r.deleted)
  | .changed p u text => ([⟨u, (t.service.files.relativePath p u).value, text⟩], [])
  | .saved _ | .pass _ | .timer | .flush => ([], [])

/-- The arrivals of a run, one for each move. -/
def arrivals (t : Traffic) : List Move → List (List FileEntry × List Uri)
  | [] => []
  | m :: moves => t.arrival m :: (t.move m).arrivals moves

variable {t : Traffic} {indexed cached : UriMap FileEntry}

/-! ### Answered at once -/

/-- The answer to the request that was made last. -/
theorem move_ask_answer (t : Traffic) (r : Request)
    (given : Except ProviderError (List FileEntry)) :
    (t.ask r).move (.answer t.underWay.length given) =
      ⟨(t.service.noteCalls [.files r.asked]).scheduleFetched given r.deleted, t.underWay⟩ := by
  simp [move, ask, List.eraseIdx_append_of_length_le]

/-- **News that is answered at once** is heard as a whole. -/
theorem move_watched_answer (t : Traffic) (p : Provider) (changes : List (Uri × Change)) :
    (t.move (.watched changes)).move
        (.answer t.underWay.length (p.files (t.service.toRefetch changes))) =
      { t with service := t.service.watched p changes } := by
  cases hnone : (t.service.toRefetch changes).isEmpty with
  | true => simp [move, Service.watched, hnone]
  | false =>
      have hask : t.move (.watched changes) =
          t.ask ⟨t.service.toRefetch changes, Service.toDrop changes⟩ := by simp [move, hnone]
      rw [hask, move_ask_answer]
      simp [Service.watched, hnone]

/-- **A save that is answered at once** is heard as a whole. -/
theorem move_saved_answer (t : Traffic) (p : Provider) (u : Uri) :
    (t.move (.saved u)).move (.answer t.underWay.length (p.files [u])) =
      { t with service := t.service.saved p u none } :=
  move_ask_answer t ⟨[u], []⟩ _

/-! ### Where moves lead -/

/-- **A move** moves the goal by the batch of its arrival. -/
theorem settles_move (h : t.service.Settles indexed cached) (m : Move) :
    (t.move m).service.Settles ((Batch.of (t.arrival m).1 (t.arrival m).2).overlay indexed)
      ((Batch.of (t.arrival m).1 (t.arrival m).2).overlay cached) := by
  have hask (r : Request) : (t.ask r).service.Settles indexed cached := ⟨h.sound, h.index, h.cache⟩
  cases m with
  | watched changes =>
      cases hnone : (t.service.toRefetch changes).isEmpty with
      | true =>
          simp only [move, arrival, hnone, if_true]
          exact h.schedule [] _
      | false =>
          simp only [move, arrival, hnone, Bool.false_eq_true, if_false]
          exact hask _
  | saved u => exact hask _
  | answer i given =>
      simp only [move, arrival]
      cases t.underWay[i]? with
      | none => exact h
      | some r => cases given <;> exact h.schedule _ _
  | changed p u text => exact h.changed p u text
  | pass ms => exact ⟨h.sound, h.index, h.cache⟩
  | timer => exact h.settle
  | flush => exact h.flush.1

/-- **A run of moves** leads to what its arrivals say last. -/
theorem settles_run (h : t.service.Settles indexed cached) (moves : List Move) :
    ∃ indexed' cached', (t.run moves).service.Settles indexed' cached' ∧
      Service.Says (lastWord? (t.arrivals moves)) indexed indexed' ∧
      Service.Says (lastWord? (t.arrivals moves)) cached cached' := by
  induction moves generalizing t indexed cached with
  | nil => exact ⟨indexed, cached, h, fun _ => rfl, fun _ => rfl⟩
  | cons m moves ih =>
      obtain ⟨indexed', cached', hrest, hindexed, hcached⟩ := ih (settles_move h m)
      -- a word of the later arrivals stands, else that of the first one
      have hcons {files files' : UriMap FileEntry}
          (hlater : Service.Says (lastWord? ((t.move m).arrivals moves))
            ((Batch.of (t.arrival m).1 (t.arrival m).2).overlay files) files') :
          Service.Says (lastWord? (t.arrivals (m :: moves))) files files' := by
        intro u
        rw [hlater, (Batch.Sound.of _ _).get?_overlay, Batch.word?_of, arrivals, lastWord?]
        cases lastWord? ((t.move m).arrivals moves) u <;> rfl
      exact ⟨indexed', cached', hrest, hcons hindexed, hcons hcached⟩

/-! ### Files that no request is about -/

/-- No request under way asks for the file or is going to drop it. -/
def Clear (t : Traffic) (u : Uri) : Prop := ∀ r ∈ t.underWay, u ∉ r.asked ∧ u ∉ r.deleted

/-- The move does not edit the file, ask for it or tell of its deletion, and an answer brings only
what was asked for. -/
def Avoids (t : Traffic) (u : Uri) : Move → Prop
  | .watched changes => u ∉ t.service.toRefetch changes ∧ (u, .deleted) ∉ changes
  | .saved v => v ≠ u
  | .answer i given => ∀ r ∈ t.underWay[i]?, ∀ f ∈ given.toOption.getD [], f.uri ∈ r.asked
  | .changed _ v _ => v ≠ u
  | .pass _ | .timer | .flush => True

/-- Every move of a run avoids the file. -/
def AvoidsAll (t : Traffic) (u : Uri) : List Move → Prop
  | [] => True
  | m :: moves => t.Avoids u m ∧ (t.move m).AvoidsAll u moves

variable {u : Uri} {m : Move}

theorem Clear.ask (h : t.Clear u) {r : Request} (hasked : u ∉ r.asked) (hdeleted : u ∉ r.deleted) :
    (t.ask r).Clear u := by
  intro r' hr'
  rcases List.mem_append.mp hr' with hold | hnew
  · exact h r' hold
  · obtain rfl := List.mem_singleton.mp hnew
    exact ⟨hasked, hdeleted⟩

/-- A move that avoids the file keeps the requests clear of it. -/
theorem Clear.move (h : t.Clear u) (havoids : t.Avoids u m) : (t.move m).Clear u := by
  cases m with
  | watched changes =>
      obtain ⟨hrefetch, hdeleted⟩ := havoids
      simp only [Traffic.move]
      split
      · exact h
      · exact h.ask hrefetch (mt Service.mem_toDrop.mp hdeleted)
  | saved v => exact h.ask (by simpa using Ne.symm havoids) List.not_mem_nil
  | answer i given =>
      simp only [Traffic.move]
      split
      · exact h
      · exact fun r hr => h r (List.mem_of_mem_eraseIdx hr)
  | changed p v text => exact h
  | pass ms => exact h
  | timer => exact h
  | flush => exact h

/-- A move that avoids the file, with requests clear of it, says nothing of it. -/
theorem Clear.arrivalWord? (h : t.Clear u) (havoids : t.Avoids u m) :
    arrivalWord? (t.arrival m).1 (t.arrival m).2 u = none := by
  have hnothing : SymbolAtlas.arrivalWord? [] [] u = none := rfl
  cases m with
  | watched changes =>
      have hdrop : u ∉ Service.toDrop changes := mt Service.mem_toDrop.mp havoids.2
      simp only [arrival]
      split
      · simp [SymbolAtlas.arrivalWord?, hdrop, latest?]
      · exact hnothing
  | answer i given =>
      simp only [arrival]
      cases hr : t.underWay[i]? with
      | none => exact hnothing
      | some r =>
          obtain ⟨hasked, hdeleted⟩ := h r (List.mem_of_getElem? hr)
          have hnone : latest? (given.toOption.getD []) u = none := by
            rw [latest?_eq_none_iff, List.mem_map]
            rintro ⟨f, hf, rfl⟩
            exact hasked (havoids r hr f hf)
          simp [SymbolAtlas.arrivalWord?, hdeleted, hnone]
  | changed p v text =>
      have hv : v ≠ u := havoids
      simp [arrival, SymbolAtlas.arrivalWord?, latest?, hv]
  | saved v => exact hnothing
  | pass ms => exact hnothing
  | timer => exact hnothing
  | flush => exact hnothing

/-- **A run** whose moves avoid the file, with requests clear of it, says nothing of it. -/
theorem Clear.lastWord? (h : t.Clear u) {moves : List Move} (havoids : t.AvoidsAll u moves) :
    lastWord? (t.arrivals moves) u = none := by
  induction moves generalizing t with
  | nil => rfl
  | cons m moves ih =>
      rw [arrivals, SymbolAtlas.lastWord?, ih (h.move havoids.1) havoids.2,
        h.arrivalWord? havoids.1]
      rfl

end Traffic

/-- What the index shows of a file that is held. -/
theorem Service.Holds.declared_some {s : Service} {u : Uri} {f : FileEntry}
    (h : s.Holds u (some f)) :
    s.index.declarations.filter (fun d => d.uri == u) = SymbolIndex.sorted f.declarations := by
  rw [h.declared]
  simp [declarationsIn]

/-- **The last arrival decides what is indexed of an edited file.** After any run of operations,
requests for files are made and answered in any order, by any answers, while the clock moves, the
timer looks and flushes happen anywhere, and at some time a document is edited. Once all of that is
over and what waits is applied:
* index and cache have of the document what the last arrival after the edit says that speaks of it,
  and the edited text if none does;
* if no deletion of it arrives after the edit, they have the text that arrives last, so the index
  shows what the edited text declares exactly if any text that arrives last declares the same;
* they have the edited text if no request about the document is under way when it is edited and
  nothing edits it, asks for it or tells of its deletion later. -/
theorem last_arrival_decides (window grace : Nat) (ops : List Operation)
    (hlists : ∀ op ∈ ops, op.ListsDistinct) (before after : List Move) (p : Provider) (u : Uri)
    (text : String) :
    let t := (Traffic.quiet ((Service.start window grace).run ops)).run before
    let f : FileEntry := ⟨u, (t.service.files.relativePath p u).value, text⟩
    let edited := t.move (.changed p u text)
    let arrivals := edited.arrivals after
    let last? := latest? (arrivals.flatMap (·.1)) u
    let ended := (edited.run after).service.flush.2
    ended.Holds u ((lastWord? arrivals u).getD (some f)) ∧
      ((∀ a ∈ arrivals, u ∉ a.2) → ended.Holds u (some (last?.getD f)) ∧
        (ended.index.declarations.filter (fun d => d.uri == u) =
            SymbolIndex.sorted f.declarations ↔
          ∀ g ∈ last?, SymbolIndex.sorted g.declarations = SymbolIndex.sorted f.declarations)) ∧
      (t.Clear u → edited.AvoidsAll u after → ended.Holds u (some f)) := by
  intro t f edited arrivals last? ended
  obtain ⟨indexed₀, cached₀, hstart⟩ := Service.exists_settles_run window grace hlists
  have hquiet : (Traffic.quiet ((Service.start window grace).run ops)).service.Settles
      indexed₀ cached₀ := hstart
  obtain ⟨indexed, cached, ht, -, -⟩ := Traffic.settles_run hquiet before
  obtain ⟨indexed', cached', hrun, hindexed, hcached⟩ :=
    Traffic.settles_run (Traffic.settles_move ht (.changed p u text)) after
  obtain ⟨hflush, hempty⟩ := hrun.flush
  -- right after the edit both maps have its text
  have hedit (files : UriMap FileEntry) : ((Batch.of [f] []).overlay files).get? u = some f := by
    rw [(Batch.Sound.of _ _).get?_overlay, Batch.word?_of_singleton, if_pos rfl]
    rfl
  have hholds : ended.Holds u ((lastWord? arrivals u).getD (some f)) := by
    refine hflush.holds hempty ?_ ?_
    · rw [hindexed]
      exact congrArg _ (hedit indexed)
    · rw [hcached]
      exact congrArg _ (hedit cached)
  refine ⟨hholds, ?_, ?_⟩
  · intro hdeleted
    have hlast : (lastWord? arrivals u).getD (some f) = some (last?.getD f) := by
      rw [lastWord?_of_not_deleted hdeleted]
      exact Option.getD_map some f last?
    rw [hlast] at hholds
    refine ⟨hholds, ?_⟩
    rw [hholds.declared_some]
    cases last? <;> simp
  · intro hclear havoids
    have hnone : lastWord? arrivals u = none := Traffic.Clear.lastWord? (t := edited) hclear havoids
    rw [hnone] at hholds
    exact hholds

/-- A request for a file is answered before the file is edited, and a request for another one after
it; in between, news about the edited file is not believed. -/
theorem last_arrival_decides_clear :
    let a : Uri := ⟨"file:///a"⟩
    let b : Uri := ⟨"file:///b"⟩
    let p := (MemoryFiles.of [⟨a, "a", "class Foo"⟩, ⟨b, "b", "trait Bar"⟩]).provider
    let ops : List Operation := [.indexAll p]
    let before : List Move := [.watched [(b, .changed)], .saved a,
      .answer 1 (.ok [⟨a, "a", "class Stale"⟩])]
    let after : List Move := [.pass 100, .watched [(a, .changed)],
      .answer 0 (.ok [⟨b, "b", "trait Baz"⟩])]
    let t := (Traffic.quiet ((Service.start 150 500).run ops)).run before
    let edited := t.move (.changed p a "class Edited")
    (∀ op ∈ ops, op.ListsDistinct) ∧ t.underWay.length = 1 ∧ t.Clear a ∧
      edited.AvoidsAll a after ∧ (edited.run after).underWay.length = 0 ∧
      (edited.run after).service.flush.2.Holds a (some ⟨a, "a", "class Edited"⟩) := by
  intro a b p ops before after t edited
  have hdistinct : p.ListsDistinct := by
    intro files hfiles
    cases hfiles
    decide
  have hlists : ∀ op ∈ ops, op.ListsDistinct := by simp [ops, Operation.ListsDistinct, hdistinct]
  have hunderWay : t.underWay = [⟨[b], []⟩] := by decide +kernel
  have hclear : t.Clear a := by
    rw [Traffic.Clear, hunderWay]
    decide
  have hrefetch : (edited.move (.pass 100)).service.toRefetch [(a, .changed)] = [] := by
    decide +kernel
  have hasked : ((edited.move (.pass 100)).move (.watched [(a, .changed)])).underWay =
      [⟨[b], []⟩] := by decide +kernel
  have hnews (t : Traffic) (ht : t.service.toRefetch [(a, .changed)] = []) :
      t.Avoids a (.watched [(a, .changed)]) := by
    simp [Traffic.Avoids, ht]
  have hanswer (t : Traffic) (ht : t.underWay = [⟨[b], []⟩]) :
      t.Avoids a (.answer 0 (.ok [⟨b, "b", "trait Baz"⟩])) := by
    simp [Traffic.Avoids, ht, Except.toOption]
  have havoids : edited.AvoidsAll a after := by
    simp only [after, Traffic.AvoidsAll]
    exact ⟨trivial, hnews _ hrefetch, hanswer _ hasked, trivial⟩
  have hname : (t.service.files.relativePath p a).value = "a" := by decide +kernel
  obtain ⟨-, -, hkept⟩ := last_arrival_decides 150 500 ops hlists before after p a "class Edited"
  have hholds := hkept hclear havoids
  rw [hname] at hholds
  exact ⟨hlists, by rw [hunderWay]; rfl, hclear, havoids, by decide +kernel, hholds⟩

/-- **An edit is lost.** A file is asked for, because the disk tells that it changed or because it
was saved without its text. Before the answer it is edited, and marked as edited. The answer brings
the text that the file had before, and once everything is applied the index shows that text and not
the edited one. -/
theorem stale_answer_overwrites :
    let u : Uri := ⟨"file:///A.scala"⟩
    let p := (MemoryFiles.of [⟨u, "A.scala", "class Stale"⟩]).provider
    let s := (Service.start 150 500).run [.indexAll p]
    let edited := fun asking => ((Traffic.quiet s).move asking).move (.changed p u "class Edited")
    let ended := fun asking => (edited asking).run [.answer 0 (p.files [u]), .flush]
    let told : Move := .watched [(u, .changed)]
    let stale : List Declaration := [⟨"Stale", .classLike, ⟨u, "A.scala"⟩, ⟨0, 6⟩⟩]
    let text : List Declaration := [⟨"Edited", .classLike, ⟨u, "A.scala"⟩, ⟨0, 6⟩⟩]
    ((edited told).service.files.isJustChanged u (edited told).service.now = true ∧
      (ended told).underWay.length = 0 ∧ (ended told).service.index.declarations = stale) ∧
      ((ended (.saved u)).underWay.length = 0 ∧
        (ended (.saved u)).service.index.declarations = stale) ∧
      SymbolIndex.sorted (FileEntry.declarations ⟨u, "A.scala", "class Edited"⟩) = text := by
  decide +kernel

end SymbolAtlas
