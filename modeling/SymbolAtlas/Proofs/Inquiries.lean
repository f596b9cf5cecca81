import Mathlib.Data.List.Nodup
import SymbolAtlas.Proofs.Coherence
import SymbolAtlas.Proofs.ImportGroups

/-!
# Inquiries

Look-ups, searches and import edits are inquiries: an editor wants to know something. They are not
pure, since a text that is not cached is fetched and then kept. This module says what such an
inquiry does to the service and what it does not. It keeps the index, what waits and until when, and
the marks of edited files. It never changes a cached file, and caches one more if the provider
answers with it; whether the line that was asked for exists does not matter to that.

All of this is said of one step first: asking the store for a file has three outcomes, and an
inquiry depends on nothing but the index and the file that is there for it. Runs follow by
induction, the provider being another one at each step.

## Main results

* `FileStore.get_cases`: asking the store for a file.
* `Service.ask_fst`: the answer to an inquiry.
* `Service.cached?_askAll`: the cache after a run of inquiries.
* `Service.count_asked_askAll`: how often a run of inquiries asks for a file.
* `inquiries_undisturbing`: all of this for every state of the service.
-/

namespace SymbolAtlas

/-! ### Asking the store -/

/-- The file that a provider has for an identifier: the first one in its answer that goes by this
identifier. -/
def Provider.file? (p : Provider) (u : Uri) : Option FileEntry :=
  match p.files [u] with
  | .ok files => files.find? fun f => f.uri == u
  | .error _ => none

theorem Provider.uri_of_file? {p : Provider} {u : Uri} {f : FileEntry}
    (h : p.file? u = some f) : f.uri = u := by
  rw [file?] at h
  split at h
  · simpa using List.find?_some h
  · cases h

namespace FileStore

variable (store : FileStore) (p : Provider) (u : Uri)

/-- The file that is there for an inquiry: the cached one, or else the provider's. -/
def available? : Option FileEntry := (store.cached? u).or (p.file? u)

/-- **Asking for a file** has three outcomes: it was cached, it is fetched and kept, or nobody has
it. The provider is asked in the last two. -/
theorem get_cases :
    (∃ f, store.cached? u = some f ∧ store.get p u = ⟨.ok f, store, []⟩) ∨
    store.cached? u = none ∧
      ((∃ f, p.file? u = some f ∧ store.get p u = ⟨.ok f, store.update [f], [.files [u]]⟩) ∨
        p.file? u = none ∧ ∃ cause, store.get p u = ⟨.error cause, store, [.files [u]]⟩) := by
  rw [get, Provider.file?]
  cases store.cached? u with
  | some f => exact .inl ⟨f, rfl, rfl⟩
  | none =>
      refine .inr ⟨rfl, ?_⟩
      cases p.files [u] with
      | error cause => exact .inr ⟨rfl, _, rfl⟩
      | ok files =>
          dsimp only
          cases files.find? (fun f => f.uri == u) with
          | none => exact .inr ⟨rfl, _, rfl⟩
          | some f => exact .inl ⟨f, rfl, rfl⟩

/-- The answer is the file that is there. -/
theorem value_get : (store.get p u).value.toOption = store.available? p u := by
  rw [available?]
  rcases store.get_cases p u with
    ⟨f, hcached, hget⟩ | ⟨hcached, ⟨f, hfile, hget⟩ | ⟨hfile, _, hget⟩⟩
  · rw [hcached, hget]
    rfl
  · rw [hcached, hfile, hget]
    rfl
  · rw [hcached, hfile, hget]
    rfl

/-- The provider is asked for a file that is not cached. -/
theorem calls_get :
    (store.get p u).calls = if (store.cached? u).isSome then [] else [.files [u]] := by
  rcases store.get_cases p u with ⟨f, hcached, hget⟩ | ⟨hcached, ⟨f, -, hget⟩ | ⟨-, _, hget⟩⟩
  · rw [hcached, hget]
    rfl
  · rw [hcached, hget]
    rfl
  · rw [hcached, hget]
    rfl

/-- Marks are kept, and so is the time for which they are made. -/
theorem marks_store_get :
    (store.get p u).store.marks = store.marks ∧ (store.get p u).store.grace = store.grace := by
  rcases store.get_cases p u with ⟨f, -, hget⟩ | ⟨-, ⟨f, -, hget⟩ | ⟨-, _, hget⟩⟩
  all_goals
    rw [hget]
    exact ⟨rfl, rfl⟩

/-- What is cached after asking: one more file, if the provider has it. -/
theorem cached?_store_get (v : Uri) :
    (store.get p u).store.cached? v =
      (store.cached? v).or (if u = v then p.file? v else none) := by
  rcases store.get_cases p u with
    ⟨f, hcached, hget⟩ | ⟨hcached, ⟨f, hfile, hget⟩ | ⟨hfile, _, hget⟩⟩
  · rw [hget]
    by_cases hv : u = v
    · rw [← hv, hcached, Option.some_or]
    · rw [if_neg hv, Option.or_none]
  · have huri := Provider.uri_of_file? hfile
    rw [hget]
    by_cases hv : u = v
    · rw [← hv, if_pos rfl, hcached, hfile, cached?_update, latest?_cons, if_pos huri]
      rfl
    · rw [cached?_update_of_ne store (fun h => hv (huri.symm.trans h)), if_neg hv, Option.or_none]
  · rw [hget]
    by_cases hv : u = v
    · rw [← hv, if_pos rfl, hfile, Option.or_none]
    · rw [if_neg hv, Option.or_none]

end FileStore

/-! ### Inquiries and their answers -/

/-- What an editor wants to know. -/
inductive Inquiry where
  | definition (u : Uri) (position : Position)
  | hover (u : Uri) (position : Position)
  | organizeImports (u : Uri)
  | search (query : String)
  deriving DecidableEq, Repr

/-- The answer to an inquiry. -/
inductive Reply where
  | declarations (ds : List Declaration)
  | edits (es : List LineEdit)
  deriving DecidableEq, Repr

namespace Inquiry

/-- The file that an inquiry is about. -/
def uri? : Inquiry → Option Uri
  | .definition u _ | .hover u _ | .organizeImports u => some u
  | .search _ => none

/-- The file with the identifier `v` that a provider has for an inquiry. -/
def served? (q : Inquiry) (p : Provider) (v : Uri) : Option FileEntry :=
  if q.uri? = some v then p.file? v else none

/-- The declarations for a position in a file that is there: none if the line is not. -/
def declarationsIn? (index : SymbolIndex) (file? : Option FileEntry) (u : Uri)
    (position : Position) : List Declaration :=
  match file?.bind fun f => f.line? position.line with
  | some text => index.named u position.line (Term.scan text position.character)
  | none => []

/-- What an index says to an inquiry, given the file that is there for it. Without a file there is
nothing to say. -/
def reply (index : SymbolIndex) (file? : Option FileEntry) : Inquiry → Reply
  | .definition u position | .hover u position =>
    .declarations (declarationsIn? index file? u position)
  | .organizeImports _ => .edits ((file?.map fun f => importEdits f.contents).getD [])
  | .search query => .declarations (index.search query)

end Inquiry

/-- The question that an entry of the journal is about. -/
def Note.call? : Note → Option Call
  | .asked call => some call
  | .finished _ => none

namespace Service

/-- Puts an inquiry to the service. -/
def ask (s : Service) (p : Provider) : Inquiry → Reply × Service
  | .definition u position => (s.definition p u position).map .declarations id
  | .hover u position => (s.hover p u position).map .declarations id
  | .organizeImports u => (s.organizeImports p u).map .edits id
  | .search query => (s.search query).map .declarations id

/-- Puts inquiries to the service one after the other, each with the provider of its time. -/
def askAll (s : Service) (qs : List (Provider × Inquiry)) : Service :=
  qs.foldl (fun s q => (s.ask q.1 q.2).2) s

/-- The questions that were put to providers. -/
def asked (s : Service) : List Call := s.journal.filterMap Note.call?

/-! ### One inquiry -/

variable (s : Service) (p : Provider)

theorem lookupAt_fst (action : String) (u : Uri) (position : Position) :
    (s.lookupAt p action u position).1 =
      Inquiry.declarationsIn? s.index (s.files.available? p u) u position := by
  rw [Inquiry.declarationsIn?, ← FileStore.value_get]
  simp only [lookupAt, declarationsAt, FileStore.line]
  cases (s.files.get p u).value with
  | error cause => rfl
  | ok f =>
      simp only [Except.toOption, Option.bind_some, bind, Except.bind]
      cases f.line? position.line <;> rfl

/-- **The answer to an inquiry** depends on the index and on the file that is there. -/
theorem ask_fst (q : Inquiry) :
    (s.ask p q).1 = q.reply s.index (q.uri?.bind (s.files.available? p)) := by
  cases q with
  | definition u position =>
      exact congrArg Reply.declarations (s.lookupAt_fst p "definition" u position)
  | hover u position => exact congrArg Reply.declarations (s.lookupAt_fst p "hover" u position)
  | organizeImports u =>
      refine congrArg Reply.edits ?_
      rw [Inquiry.uri?, Option.bind_some, ← FileStore.value_get]
      cases (s.files.get p u).value <;> rfl
  | search query => rfl

/-- **An inquiry is at most a question to the store.** -/
theorem ask_files (q : Inquiry) :
    (s.ask p q).2.files = match q.uri? with
      | some u => (s.files.get p u).store
      | none => s.files := by
  cases q <;> rfl

theorem ask_index (q : Inquiry) : (s.ask p q).2.index = s.index := by
  cases q <;> rfl

theorem ask_scheduler (q : Inquiry) : (s.ask p q).2.scheduler = s.scheduler := by
  cases q <;> rfl

/-- Marks are kept, and so is the time for which they are made. -/
theorem ask_marks (q : Inquiry) :
    (s.ask p q).2.files.marks = s.files.marks ∧ (s.ask p q).2.files.grace = s.files.grace := by
  rw [ask_files]
  cases q.uri? with
  | none => exact ⟨rfl, rfl⟩
  | some u => exact s.files.marks_store_get p u

/-- **The cache after an inquiry**: one more file, if the provider has it. -/
theorem cached?_ask (q : Inquiry) (v : Uri) :
    (s.ask p q).2.files.cached? v = (s.files.cached? v).or (q.served? p v) := by
  rw [ask_files, Inquiry.served?]
  cases q.uri? with
  | none => simp
  | some u =>
      dsimp only
      rw [FileStore.cached?_store_get]
      simp only [Option.some.injEq]

/-- What an inquiry asks of the provider: its file, if that is not cached. -/
def questions (q : Inquiry) : List Call :=
  match q.uri? with
  | some u => if (s.files.cached? u).isSome then [] else [.files [u]]
  | none => []

/-- **The questions of an inquiry** are those that the journal gains. -/
theorem asked_ask (q : Inquiry) : (s.ask p q).2.asked = s.asked ++ s.questions q := by
  have hfetched (u : Uri) (work : Measurement) :
      ((s.absorb (s.files.get p u)).journal ++ [Note.finished work]).filterMap Note.call? =
        s.asked ++ if (s.files.cached? u).isSome then [] else [.files [u]] := by
    simp only [absorb, noteCalls]
    rw [FileStore.calls_get, List.filterMap_append, List.filterMap_append, ← asked]
    cases (s.files.cached? u).isSome <;> simp [Note.call?]
  cases q with
  | definition u position => exact hfetched u _
  | hover u position => exact hfetched u _
  | organizeImports u => exact hfetched u _
  | search query =>
      have hsearch : (s.ask p (.search query)).2.asked =
          (s.journal ++ [Note.finished _]).filterMap Note.call? := rfl
      rw [hsearch, List.filterMap_append]
      rfl

theorem mem_questions {q : Inquiry} {call : Call} (h : call ∈ s.questions q) :
    ∃ v, call = .files [v] ∧ q.uri? = some v ∧ s.files.cached? v = none := by
  rw [questions] at h
  split at h
  next u hu =>
    split at h
    · cases h
    next hcached =>
      exact ⟨u, List.mem_singleton.mp h, hu, Option.not_isSome_iff_eq_none.mp hcached⟩
  next => cases h

theorem count_questions (q : Inquiry) (v : Uri) :
    (s.questions q).count (.files [v]) =
      if q.uri? = some v ∧ s.files.cached? v = none then 1 else 0 := by
  rw [questions]
  cases hu : q.uri? with
  | none => simp
  | some u =>
      by_cases hv : u = v
      · subst hv
        cases hcached : s.files.cached? u <;> simp [hcached]
      · cases hcached : s.files.cached? u <;> simp [hcached, hv]

/-! ### Runs of inquiries -/

/-- **A run of inquiries keeps** the index, the scheduler and the marks. -/
theorem askAll_keeps (qs : List (Provider × Inquiry)) :
    (s.askAll qs).index = s.index ∧ (s.askAll qs).scheduler = s.scheduler ∧
      (s.askAll qs).files.marks = s.files.marks ∧ (s.askAll qs).files.grace = s.files.grace := by
  induction qs generalizing s with
  | nil => exact ⟨rfl, rfl, rfl, rfl⟩
  | cons q qs ih =>
      obtain ⟨hindex, hscheduler, hmarks, hgrace⟩ := ih (s.ask q.1 q.2).2
      obtain ⟨hmarks', hgrace'⟩ := s.ask_marks q.1 q.2
      exact ⟨hindex.trans (s.ask_index q.1 q.2), hscheduler.trans (s.ask_scheduler q.1 q.2),
        hmarks.trans hmarks', hgrace.trans hgrace'⟩

/-- **The cache after a run of inquiries**: what was cached, and else the first file that a provider
had for one of them. -/
theorem cached?_askAll (qs : List (Provider × Inquiry)) (v : Uri) :
    (s.askAll qs).files.cached? v =
      (s.files.cached? v).or (qs.findSome? fun q => q.2.served? q.1 v) := by
  induction qs generalizing s with
  | nil => exact Option.or_none.symm
  | cons q qs ih =>
      have hstep : s.askAll (q :: qs) = (s.ask q.1 q.2).2.askAll qs := rfl
      rw [hstep, ih, cached?_ask, Option.or_assoc, List.findSome?_cons]
      cases q.2.served? q.1 v <;> rfl

/-- The inquiries about a file as long as the provider does not have it. -/
def unserved (qs : List (Provider × Inquiry)) (v : Uri) : List (Provider × Inquiry) :=
  (qs.filter fun q => q.2.uri? = some v).takeWhile fun q => (q.1.file? v).isNone

theorem unserved_cons_of_ne {q : Provider × Inquiry} {v : Uri} (h : q.2.uri? ≠ some v)
    (qs : List (Provider × Inquiry)) : unserved (q :: qs) v = unserved qs v := by
  rw [unserved, List.filter_cons_of_neg (by simpa using h), unserved]

theorem unserved_cons {q : Provider × Inquiry} {v : Uri} (h : q.2.uri? = some v)
    (qs : List (Provider × Inquiry)) :
    unserved (q :: qs) v = if (q.1.file? v).isSome then [] else q :: unserved qs v := by
  rw [unserved, List.filter_cons_of_pos (by simpa using h), List.takeWhile_cons, unserved]
  cases q.1.file? v <;> rfl

/-- **The questions of a run of inquiries** are for files that were not cached. A file is asked for
as long as the provider does not have it, and once more when it does. -/
theorem asked_askAll (qs : List (Provider × Inquiry)) :
    ∃ calls, (s.askAll qs).asked = s.asked ++ calls ∧
      (∀ call ∈ calls, ∃ v, call = .files [v] ∧ s.files.cached? v = none ∧
        ∃ q ∈ qs, q.2.uri? = some v) ∧
      ∀ v, s.files.cached? v = none → calls.count (.files [v]) =
        (unserved qs v).length + (qs.findSome? fun q => q.2.served? q.1 v).toList.length := by
  induction qs generalizing s with
  | nil => exact ⟨[], (List.append_nil _).symm, by simp, fun v _ => rfl⟩
  | cons q qs ih =>
      have hstep : s.askAll (q :: qs) = (s.ask q.1 q.2).2.askAll qs := rfl
      obtain ⟨calls, hasked, hmem, hcount⟩ := ih (s.ask q.1 q.2).2
      refine ⟨s.questions q.2 ++ calls, ?_, ?_, ?_⟩
      · rw [hstep, hasked, asked_ask, List.append_assoc]
      · intro call hcall
        rcases List.mem_append.mp hcall with hnow | hlater
        · obtain ⟨v, rfl, hv, hcached⟩ := s.mem_questions hnow
          exact ⟨v, rfl, hcached, q, List.mem_cons_self, hv⟩
        · obtain ⟨v, rfl, hcached, r, hr, hv⟩ := hmem call hlater
          rw [cached?_ask, Option.or_eq_none_iff] at hcached
          exact ⟨v, rfl, hcached.1, r, List.mem_cons_of_mem _ hr, hv⟩
      · intro v hcached
        rw [List.count_append, count_questions, List.findSome?_cons]
        by_cases hv : q.2.uri? = some v
        · have hserved : q.2.served? q.1 v = q.1.file? v := if_pos hv
          rw [if_pos ⟨hv, hcached⟩, hserved, unserved_cons hv]
          cases hfile : q.1.file? v with
          | none =>
              have hlater : (s.ask q.1 q.2).2.files.cached? v = none := by
                rw [cached?_ask, hcached, hserved, hfile]
                rfl
              rw [hcount v hlater]
              simp only [Option.isSome_none, Bool.false_eq_true, if_false, List.length_cons]
              omega
          | some f =>
              -- from now on the file is cached, so that nobody asks for it
              have hnone : calls.count (.files [v]) = 0 := by
                refine List.count_eq_zero.mpr fun hagain => ?_
                obtain ⟨w, heq, hlater, -⟩ := hmem _ hagain
                cases heq
                rw [cached?_ask, hcached, hserved, hfile] at hlater
                cases hlater
              rw [hnone]
              rfl
        · have hserved : q.2.served? q.1 v = none := if_neg hv
          have hlater : (s.ask q.1 q.2).2.files.cached? v = none := by
            rw [cached?_ask, hcached, hserved]
            rfl
          rw [if_neg (fun h => hv h.1), hserved, unserved_cons_of_ne hv, hcount v hlater,
            Nat.zero_add]

/-- **Repeating an inquiry** about a file that the first one has left cached gives the same answer,
whatever was asked in between and whatever the provider is now. -/
theorem ask_again {q : Inquiry}
    (hcached : ∀ u, q.uri? = some u → ((s.ask p q).2.files.cached? u).isSome = true)
    (qs : List (Provider × Inquiry)) (p' : Provider) :
    (((s.ask p q).2.askAll qs).ask p' q).1 = (s.ask p q).1 := by
  obtain ⟨hindex, -, -, -⟩ := (s.ask p q).2.askAll_keeps qs
  have hfile : q.uri?.bind (((s.ask p q).2.askAll qs).files.available? p') =
      q.uri?.bind (s.files.available? p) := by
    cases hu : q.uri? with
    | none => rfl
    | some u =>
        have hfirst : (s.ask p q).2.files.cached? u = s.files.available? p u := by
          rw [cached?_ask, Inquiry.served?, if_pos hu, FileStore.available?]
        obtain ⟨f, hf⟩ := Option.isSome_iff_exists.mp (hcached u hu)
        rw [Option.bind_some, Option.bind_some, FileStore.available?, cached?_askAll, hf, ← hfirst,
          hf]
        rfl
  rw [ask_fst, ask_fst, hindex, ask_index, hfile]

end Service

/-- There is nothing in the answer. -/
def Reply.isEmpty : Reply → Bool
  | .declarations ds => ds.isEmpty
  | .edits es => es.isEmpty

/-- **Inquiries do not disturb the service.** In any state, and for any inquiries, each with a
provider of its own:
* the index, what waits and until when, and the marks of edited files are what they were;
* a cached file stays, and what is cached besides is, for each identifier that was inquired after,
  the first file of this identifier that a provider had; where no provider had one there is none;
* every further inquiry gets the answer that the index gives for the file that is there; there is
  nothing in it if the file or the line that it needs is missing;
* the providers were asked for inquired files that were not cached, and for each of them as long as
  they did not have it and at most once when they did;
* an inquiry that has left its file cached gets the same answer again after any others, whatever the
  provider is then. -/
theorem inquiries_undisturbing (s : Service) (qs : List (Provider × Inquiry)) :
    let after := s.askAll qs
    (after.index = s.index ∧ after.scheduler = s.scheduler ∧
      after.files.marks = s.files.marks ∧ after.files.grace = s.files.grace) ∧
    (∀ v, after.files.cached? v =
        (s.files.cached? v).or (qs.findSome? fun q => q.2.served? q.1 v) ∧
      ∀ q ∈ qs, ∀ f, q.2.served? q.1 v = some f →
        q.2.uri? = some v ∧ q.1.file? v = some f ∧ f.uri = v) ∧
    (∀ p q, (after.ask p q).1 = q.reply s.index (q.uri?.bind (after.files.available? p)) ∧
      (∀ u, q.uri? = some u → after.files.available? p u = none →
        (after.ask p q).1.isEmpty = true) ∧
      ∀ u position, q = .definition u position ∨ q = .hover u position →
        ∀ f, after.files.available? p u = some f → f.line? position.line = none →
          (after.ask p q).1.isEmpty = true ∧ (after.ask p q).2.files.cached? u = some f) ∧
    (∃ calls, after.asked = s.asked ++ calls ∧
      (∀ call ∈ calls, ∃ v, call = .files [v] ∧ s.files.cached? v = none ∧
        ∃ q ∈ qs, q.2.uri? = some v) ∧
      ∀ v, s.files.cached? v = none → calls.count (.files [v]) =
        (Service.unserved qs v).length +
          (qs.findSome? fun q => q.2.served? q.1 v).toList.length) ∧
    ∀ p q, (∀ u, q.uri? = some u → ((after.ask p q).2.files.cached? u).isSome = true) →
      ∀ later p', (((after.ask p q).2.askAll later).ask p' q).1 = (after.ask p q).1 := by
  intro after
  obtain ⟨hindex, hscheduler, hmarks, hgrace⟩ := s.askAll_keeps qs
  have hreply (p : Provider) (q : Inquiry) :
      (after.ask p q).1 = q.reply s.index (q.uri?.bind (after.files.available? p)) := by
    rw [Service.ask_fst, hindex]
  refine ⟨⟨hindex, hscheduler, hmarks, hgrace⟩, ?_, ?_, s.asked_askAll qs, ?_⟩
  · intro v
    refine ⟨s.cached?_askAll qs v, ?_⟩
    intro q _ f hserved
    rw [Inquiry.served?] at hserved
    split at hserved
    next hv => exact ⟨hv, hserved, Provider.uri_of_file? hserved⟩
    next => cases hserved
  · intro p q
    refine ⟨hreply p q, ?_, ?_⟩
    · intro u hu hnone
      rw [hreply, hu, Option.bind_some, hnone]
      cases q with
      | search query => cases hu
      | definition | hover | organizeImports => rfl
    · intro u position hq f hfile hline
      have hu : q.uri? = some u := by rcases hq with rfl | rfl <;> rfl
      refine ⟨?_, ?_⟩
      · rw [hreply, hu, Option.bind_some, hfile]
        rcases hq with rfl | rfl <;>
          simp [Inquiry.reply, Inquiry.declarationsIn?, hline, Reply.isEmpty]
      · rw [Service.cached?_ask, Inquiry.served?, if_pos hu, ← FileStore.available?, hfile]
  · intro p q hcached later p'
    exact after.ask_again p hcached later p'

/-- The provider is first out of reach, then answers with another file, and then with the one that
was asked for, on a line that it does not have. After three questions the file is cached, and its
imports can be sorted while the provider is out of reach again. -/
theorem inquiries_undisturbing_unreached :
    let u : Uri := ⟨"file:///a"⟩
    let f : FileEntry := ⟨u, "a", "import b\nimport a"⟩
    let astray : FileEntry := ⟨⟨"file:///b"⟩, "b", "class Foo"⟩
    let offline := (MemoryFiles.mk .empty true).provider
    let wrong := { offline with files := fun _ => .ok [astray] }
    let right := (MemoryFiles.of [f]).provider
    let s := Service.start 150 500
    let after := s.askAll [(offline, .hover u ⟨0, 0⟩), (wrong, .definition u ⟨0, 0⟩),
      (right, .definition u ⟨7, 0⟩), (wrong, .hover u ⟨1, 0⟩)]
    after.index = s.index ∧ after.files.cached? u = some f ∧
      (after.ask offline (.organizeImports u)).1 =
        .edits [⟨0, "import a"⟩, ⟨1, "import b"⟩] ∧
      ∃ calls, after.asked = s.asked ++ calls ∧ calls.count (.files [u]) = 3 := by
  intro u f astray offline wrong right s after
  obtain ⟨⟨hindex, -⟩, hcached, hreply, ⟨calls, hasked, -, hcount⟩, -⟩ :=
    inquiries_undisturbing s [(offline, .hover u ⟨0, 0⟩), (wrong, .definition u ⟨0, 0⟩),
      (right, .definition u ⟨7, 0⟩), (wrong, .hover u ⟨1, 0⟩)]
  have hfile : after.files.cached? u = some f := (hcached u).1.trans (by decide)
  refine ⟨hindex, hfile, ?_, calls, hasked, (hcount u rfl).trans (by decide)⟩
  have hedits := (hreply offline (.organizeImports u)).1
  rw [Inquiry.uri?, Option.bind_some, FileStore.available?, hfile] at hedits
  have hlines : Text.lines f.contents = ["import b".toList, "import a".toList] := by decide
  have himports : importEdits f.contents = [⟨0, "import a"⟩, ⟨1, "import b"⟩] := by
    rw [importEdits, importChanges, hlines,
      Imports.organized_swapped (by decide) (by decide) (by decide) (by decide), Imports.organized]
    decide
  exact hedits.trans (congrArg Reply.edits himports)

end SymbolAtlas
