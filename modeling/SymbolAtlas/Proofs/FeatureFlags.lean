import Mathlib.Logic.Basic
import SymbolAtlas.Editor.Session

/-!
# What the editor says about features

An editor turns features on and off while the server runs. It says so in a notification, or is asked
and says so in its answer; what it says may leave keys out, be malformed, or be nothing. This module
follows the features of a session through everything that may happen to it.

A session takes messages in one after the other, but while one waits for the editor's answer others
may come in between. So a `Turn` is a message taken in as a whole, or one of the parts into which
waiting for answers cuts those messages that are about settings; a part that brings an answer may
come at any time. Whatever the order of the turns, each of them contributes the settings that
arrive with it, if any do, and of each key the last contribution that has it counts.

What an answer contributes is said here without the function by which a session takes it in
(`answered?`), and the two are proved to agree.

## Main results

* `Editor.pulledSettings?_eq`: what a session takes from an answer is what the answer contributes.
* `Editor.Session.pullSettings_eq_run`, `Editor.Session.ready_eq_run`: messages as their parts.
* `Editor.Session.flags_receive`, `Editor.Session.flags_turn`: what a message and a turn contribute.
* `Editor.Session.Follows.run`: what a run of turns contributes.
* `Editor.flags_follow_editor`: the flags in any state of a session, and hover texts without theirs.
-/

namespace SymbolAtlas

/-- The section sets at least one key. -/
def ClientSettings.SetsKey (c : ClientSettings) : Prop :=
  c.hoverEnabled.isSome = true ∨ c.analyticsEnabled.isSome = true

instance (c : ClientSettings) : Decidable c.SetsKey := inferInstanceAs (Decidable (_ ∨ _))

/-- Only the section that says nothing sets no key. -/
theorem ClientSettings.not_setsKey_iff {c : ClientSettings} : ¬c.SetsKey ↔ c = .silent := by
  obtain ⟨hover, analytics⟩ := c
  cases hover <;> cases analytics <;> simp [SetsKey, silent]

namespace Editor

/-! ### Contributions -/

/-- The parameters of a request for settings. -/
def settingsParams : Json :=
  .obj [("items", .arr [.obj [("section", .str ClientSettings.sectionName)]])]

/-- What an answer to a request for settings contributes. An error contributes nothing, and neither
does anything but a list. Of a list the first item counts, as a section; a list without items sets
no key. -/
def answered? : Except String Json → Option ClientSettings
  | .error _ => none
  | .ok answer => answer.arr?.map fun items =>
      (items.head?.map ClientSettings.ofSection).getD .silent

/-- **What a session takes from an answer** is what the answer contributes. -/
theorem pulledSettings?_eq (answer : Except String Json) :
    Session.pulledSettings? answer = answered? answer := by
  cases answer with
  | error why => rfl
  | ok answer =>
      cases answer with
      | arr items => cases items <;> rfl
      | _ => rfl

/-- What the editor contributes when it is asked for its settings. -/
def World.settings? (w : World) : Option ClientSettings :=
  answered? (w.client "workspace/configuration" settingsParams)

/-- The settings that news contribute: those in a notification if they set a key, else those that
the editor gives when it is asked. -/
def News.settings? (w : World) : News → Option ClientSettings
  | .ready => w.settings?
  | .configured settings =>
    let told := ClientSettings.ofNotification settings
    if told.SetsKey then some told else w.settings?
  | .opened .. | .changed .. | .saved .. | .watched .. | .unheeded => none

namespace Session

/-- The news that a session hears in a message. -/
def heard? (s : Session) (m : Message) : Option News :=
  if s.phase = .running ∧ m.id = none then
    (notificationTable.lookup m.method).bind fun read => m.params.bind read
  else none

/-! ### The flags -/

/-- The features, and whether reports are passed on. -/
def flags (s : Session) : Features × Bool := (s.features, s.reporter.enabled)

/-- The flags after settings have been contributed or not. -/
def flagsAfter (s : Session) : Option ClientSettings → Features × Bool
  | some c => (c.apply s.features, (c.apply s.features).analyticsEnabled)
  | none => s.flags

theorem flags_applySettings (s : Session) (c : ClientSettings) :
    (s.applySettings c).flags = s.flagsAfter (some c) := rfl

theorem flags_publish (s : Session) (note : Note) : (s.publish note).flags = s.flags := by
  cases note with
  | finished work => rfl
  | asked call =>
      rw [publish]
      split <;> rfl

/-- **A service in a new state** does not touch the flags. -/
theorem flags_withService (s : Session) (service : Service) :
    (s.withService service).flags = s.flags := by
  have hfold (notes : List Note) (t : Session) : (notes.foldl publish t).flags = t.flags := by
    induction notes generalizing t with
    | nil => rfl
    | cons note notes ih => exact (ih (t.publish note)).trans (flags_publish t note)
  exact hfold service.journal _

/-- The answer to a question does not touch them. -/
theorem flags_answer (s : Session) (w : World) (q : Query) : (s.answer w q).2.flags = s.flags := by
  cases q with
  | definition u position => exact flags_withService _ _
  | hover u position =>
      rw [answer]
      split
      · exact flags_withService _ _
      · rfl
  | symbols query => exact flags_withService _ _
  | actions u only =>
      rw [answer]
      split
      · exact flags_withService _ _
      · rfl
  | unsupported => rfl

theorem flags_pullMachine (s : Session) (w : World) : (s.pullMachine w).flags = s.flags := by
  rw [pullMachine]
  simp only [ask]
  split <;> rfl

theorem flags_indexWorkspace (s : Session) (w : World) : (s.indexWorkspace w).flags = s.flags := by
  rw [indexWorkspace]
  simp only
  split <;> exact flags_withService _ _

/-! ### Turns -/

/-- What happens to a session. -/
inductive Turn where
  /-- A message is taken in, and what the editor is asked for meanwhile is answered at once. -/
  | message (w : World) (m : Message)
  /-- A request goes out, whose answer is still to come. -/
  | ask (method : String) (params : Json)
  /-- The answer to a request for settings arrives. -/
  | settings (answer : Except String Json)
  /-- The editor is asked for the text that tells it apart. -/
  | machine (w : World)
  /-- The workspace is indexed. -/
  | index (w : World)
  /-- What is due is done. -/
  | settle
  /-- Time passes. -/
  | sleep (ms : Nat)
  /-- What was sent and reported is taken out. -/
  | output

/-- The session after a turn. -/
def turn (s : Session) : Turn → Session
  | .message w m => (s.receive w m).2
  | .ask method params => s.send method params
  | .settings answer => match pulledSettings? answer with
    | some settings => s.applySettings settings
    | none => s
  | .machine w => s.pullMachine w
  | .index w => s.indexWorkspace w
  | .settle => s.settle
  | .sleep ms => s.sleep ms
  | .output => s.takeOutput.2.2

/-- The session after turns. -/
def run (s : Session) (turns : List Turn) : Session := turns.foldl turn s

/-- The settings that a turn contributes. -/
def settings? (s : Session) : Turn → Option ClientSettings
  | .message w m => (s.heard? m).bind (·.settings? w)
  | .settings answer => answered? answer
  | .ask .. | .machine _ | .index _ | .settle | .sleep _ | .output => none

/-- The settings that turns contribute, oldest first. -/
def contributed (s : Session) : List Turn → List ClientSettings
  | [] => []
  | t :: turns => (s.settings? t).toList ++ (s.turn t).contributed turns

/-- **A request for settings** and its answer. -/
theorem pullSettings_eq_run (s : Session) (w : World) :
    s.pullSettings w = s.run [.ask "workspace/configuration" settingsParams,
      .settings (w.client "workspace/configuration" settingsParams)] := rfl

/-- **The editor is ready**, in parts. -/
theorem ready_eq_run (s : Session) (w : World) :
    s.ready w = s.run [.ask "client/registerCapability" (registrations s.indexing.extensions),
      .ask "workspace/configuration" settingsParams,
      .settings (w.client "workspace/configuration" settingsParams), .machine w, .index w] := rfl

/-! ### One turn -/

theorem flags_turn_settings (s : Session) (answer : Except String Json) :
    (s.turn (.settings answer)).flags = s.flagsAfter (answered? answer) := by
  rw [turn, ← pulledSettings?_eq]
  cases pulledSettings? answer with
  | none => rfl
  | some settings => exact flags_applySettings s settings

theorem flags_pullSettings (s : Session) (w : World) :
    (s.pullSettings w).flags = s.flagsAfter w.settings? := by
  rw [pullSettings_eq_run]
  refine (flags_turn_settings _ _).trans ?_
  rw [World.settings?]
  cases answered? (w.client "workspace/configuration" settingsParams) <;> rfl

theorem flags_ready (s : Session) (w : World) : (s.ready w).flags = s.flagsAfter w.settings? := by
  rw [ready, flags_indexWorkspace, flags_pullMachine, flags_pullSettings]
  cases w.settings? <;> rfl

theorem flags_configure (s : Session) (w : World) (settings : Json) :
    (s.configure w settings).flags = s.flagsAfter (News.settings? w (.configured settings)) := by
  rw [configure, News.settings?]
  by_cases h : (ClientSettings.ofNotification settings).SetsKey
  · rw [if_neg (mt ClientSettings.not_setsKey_iff.mpr (not_not.mpr h)), if_pos h]
    exact flags_applySettings s _
  · rw [if_pos (ClientSettings.not_setsKey_iff.mp h), if_neg h]
    exact flags_pullSettings s w

/-- **News** contribute settings or leave the flags alone. -/
theorem flags_learn (s : Session) (w : World) (news : News) :
    (s.learn w news).flags = s.flagsAfter (news.settings? w) := by
  cases news with
  | ready => exact flags_ready s w
  | configured settings => exact flags_configure s w settings
  | changed u texts =>
      rw [learn]
      split
      · exact flags_withService _ _
      · rfl
  | opened u text => exact flags_withService _ _
  | saved u text => exact flags_withService _ _
  | watched changes => exact flags_withService _ _
  | unheeded => rfl

/-- A session is timely for a message if it runs. -/
theorem untimely?_eq_none_iff {s : Session} : s.untimely? = none ↔ s.phase = .running := by
  rw [untimely?]
  cases s.phase <;> simp

theorem flags_request (s : Session) (w : World) (m : Message) (read : Reader Query) :
    (s.request w m read).2.flags = s.flags := by
  rw [request]
  split
  · rfl
  · rfl
  · split
    · rfl
    next query _ =>
      have hanswer := flags_answer s w query
      split <;> simp_all

/-- Only news that a table lists is heard. -/
theorem heard?_eq_none {s : Session} {m : Message}
    (h : s.phase ≠ .running ∨ notificationTable.lookup m.method = none) : s.heard? m = none := by
  rw [heard?]
  split
  next hrunning =>
    rw [h.resolve_left (not_not.mpr hrunning.1)]
    rfl
  next => rfl

theorem flags_notification (s : Session) (w : World) {m : Message} {read : Reader News}
    (hread : notificationTable.lookup m.method = some read) :
    (s.notification w m read).2.flags = s.flagsAfter ((s.heard? m).bind (·.settings? w)) := by
  rw [notification]
  cases huntimely : s.untimely? with
  | some why =>
      have hphase : s.phase ≠ .running := fun hphase => by
        rw [untimely?_eq_none_iff.mpr hphase] at huntimely
        cases huntimely
      rw [heard?_eq_none (.inl hphase)]
      rfl
  | none =>
      have hphase := untimely?_eq_none_iff.mp huntimely
      rw [heard?, hread, Option.bind_some]
      cases hid : m.id with
      | some id =>
          rw [if_neg fun h => nomatch h.2]
          rfl
      | none =>
          rw [if_pos ⟨hphase, rfl⟩]
          cases m.params.bind read with
          | none => rfl
          | some news => exact flags_learn s w news

theorem flags_greet (s : Session) (m : Message) : (s.greet m).2.flags = s.flags := by
  rw [greet]
  split
  · split
    · rfl
    · split <;> rfl
  · rfl

theorem flags_finish (s : Session) (m : Message) : (s.finish m).2.flags = s.flags := by
  rw [finish]
  split
  · rfl
  · split
    · rfl
    · rfl
    · exact flags_withService _ _

/-- No method of a request is one of a notification. -/
theorem lookup_notification_of_request {method : String} {read : Reader Query}
    (h : requestTable.lookup method = some read) : notificationTable.lookup method = none := by
  have hall : requestTable.all (fun entry => (notificationTable.lookup entry.1).isNone) = true := by
    decide +kernel
  obtain ⟨before, after, htable, -⟩ := List.lookup_eq_some_iff.mp h
  have hmem : (method, read) ∈ requestTable := by
    rw [htable]
    exact List.mem_append_right _ List.mem_cons_self
  exact Option.isNone_iff_eq_none.mp (List.all_eq_true.mp hall _ hmem)

/-- **A message** contributes the settings of the news that is heard in it, if any is. -/
theorem flags_receive (s : Session) (w : World) (m : Message) :
    (s.receive w m).2.flags = s.flagsAfter ((s.heard? m).bind (·.settings? w)) := by
  -- of the methods that are not in a table none is news
  have hkept {t : Session} (h : s.phase ≠ .running ∨ notificationTable.lookup m.method = none)
      (hflags : t.flags = s.flags) :
      t.flags = s.flagsAfter ((s.heard? m).bind (·.settings? w)) := by
    rw [heard?_eq_none h, hflags]
    rfl
  rw [receive]
  split
  next hover => exact hkept (.inl (by rw [hover]; decide)) rfl
  split
  next hmethod => exact hkept (.inr (by rw [hmethod]; rfl)) (flags_greet s m)
  split
  next hmethod => exact hkept (.inr (by rw [hmethod]; rfl)) (flags_finish s m)
  split
  next hmethod => exact hkept (.inr (by rw [hmethod]; rfl)) rfl
  split
  next hmethod => exact hkept (.inr (by rw [hmethod]; rfl)) rfl
  split
  next read hread =>
    exact hkept (.inr (lookup_notification_of_request hread)) (flags_request s w m read)
  next hread => exact flags_notification s w hread
  next hread => exact hkept (.inr hread) rfl

/-- **A turn** contributes its settings or leaves the flags alone. -/
theorem flags_turn (s : Session) (t : Turn) : (s.turn t).flags = s.flagsAfter (s.settings? t) := by
  cases t with
  | message w m => exact flags_receive s w m
  | settings answer => exact flags_turn_settings s answer
  | ask method params => rfl
  | machine w => exact flags_pullMachine s w
  | index w => exact flags_indexWorkspace s w
  | settle => exact flags_withService _ _
  | sleep ms => exact flags_withService _ _
  | output => rfl

/-! ### Runs of turns -/

/-- What the last contribution that has a key says of it; if none has it, it is as configured. -/
def lastWord (key : ClientSettings → Option Bool) (configured : Bool) (told : List ClientSettings) :
    Bool :=
  (told.filterMap key).getLast?.getD configured

theorem lastWord_concat (key : ClientSettings → Option Bool) (configured : Bool)
    (told : List ClientSettings) (c : ClientSettings) :
    lastWord key configured (told ++ [c]) = (key c).getD (lastWord key configured told) := by
  rw [lastWord, List.filterMap_append]
  cases h : key c <;> simp [h, lastWord]

/-- The features are the last words of the editor, and reports are passed on as the features say. -/
structure Follows (configured : Features) (told : List ClientSettings) (s : Session) : Prop where
  hover : s.features.hoverEnabled = lastWord (·.hoverEnabled) configured.hoverEnabled told
  analytics :
    s.features.analyticsEnabled = lastWord (·.analyticsEnabled) configured.analyticsEnabled told
  reporter : s.reporter.enabled = s.features.analyticsEnabled

variable {configured : Features} {told : List ClientSettings} {s : Session}

/-- **One turn** keeps the flags at the last words. -/
theorem Follows.turn (h : Follows configured told s) (t : Turn) :
    Follows configured (told ++ (s.settings? t).toList) (s.turn t) := by
  have hflags := flags_turn s t
  cases hsettings : s.settings? t with
  | none =>
      rw [hsettings] at hflags
      obtain ⟨hfeatures, hreporter⟩ := Prod.mk.inj hflags
      rw [Option.toList_none, List.append_nil]
      exact ⟨hfeatures ▸ h.hover, hfeatures ▸ h.analytics,
        hreporter.trans (hfeatures ▸ h.reporter)⟩
  | some c =>
      rw [hsettings] at hflags
      obtain ⟨hfeatures, hreporter⟩ := Prod.mk.inj hflags
      rw [Option.toList_some]
      refine ⟨?_, ?_, hreporter.trans (congrArg Features.analyticsEnabled hfeatures.symm)⟩
      · rw [hfeatures, lastWord_concat, ← h.hover]
        rfl
      · rw [hfeatures, lastWord_concat, ← h.analytics]
        rfl

/-- **A run of turns** keeps the flags at the last words. -/
theorem Follows.run (h : Follows configured told s) (turns : List Turn) :
    Follows configured (told ++ s.contributed turns) (s.run turns) := by
  induction turns generalizing s told with
  | nil =>
      rw [contributed, List.append_nil]
      exact h
  | cons t turns ih =>
      rw [contributed, ← List.append_assoc]
      exact ih (h.turn t)

theorem follows_start (settings : Settings) : Follows settings.features [] (.start settings) :=
  ⟨rfl, rfl, rfl⟩

/-! ### Hover texts -/

/-- Whoever asks for a hover text asks for that at some place. -/
theorem exists_of_read_hover {params : Json} {q : Query} (h : Reader.hover params = some q) :
    ∃ u position, q = .hover u position := by
  simp only [Reader.hover, Option.bind_eq_bind, Option.bind_eq_some_iff, Option.some.injEq] at h
  obtain ⟨r, -, ⟨u, position⟩, -, -, -, rfl⟩ := h
  exact ⟨u, position, rfl⟩

/-- A request for a hover text is one, unless the session is over. -/
theorem receive_hover (s : Session) (w : World) {m : Message}
    (hmethod : m.method = "textDocument/hover") (hphase : s.phase ≠ .over) :
    s.receive w m = s.request w m Reader.hover := by
  obtain ⟨method, params, id⟩ := m
  subst hmethod
  rw [receive, if_neg hphase]
  rfl

/-- **Without its flag no hover text is shown**, and nothing happens to the session. -/
theorem request_hover_of_disabled (hoff : s.features.hoverEnabled = false) (w : World)
    (hphase : s.phase = .running) {m : Message} {id : RequestId} (hid : m.id = some id) {q : Query}
    (hread : m.params.bind Reader.hover = some q) :
    s.request w m Reader.hover = (some (.result id .null), s) := by
  obtain ⟨params, -, hparams⟩ := Option.bind_eq_some_iff.mp hread
  obtain ⟨u, position, rfl⟩ := exists_of_read_hover hparams
  rw [request, untimely?_eq_none_iff.mpr hphase, hid, hread]
  simp only [answer, hoff, Bool.false_eq_true, if_false]

/-- A request has a result only if it is timely and well formed, and that is the answer to it. -/
theorem answer_of_result {w : World} {m : Message} {read : Reader Query} {id : RequestId}
    {value : Json} (h : (s.request w m read).1 = some (.result id value)) :
    s.phase = .running ∧ m.id = some id ∧ ∃ q, m.params.bind read = some q := by
  rw [request] at h
  split at h
  next why _ _ =>
    -- a refusal is no result
    rw [refuse] at h
    cases hid : m.id <;> rw [hid] at h <;> cases h
  next => cases h
  next id' htimely hid =>
    refine ⟨untimely?_eq_none_iff.mp htimely, ?_⟩
    split at h
    · cases h
    next q hread =>
      split at h <;> cases h
      exact ⟨hid, q, hread⟩

end Session

/-- **The flags follow the editor's last word on each key.** After any turns of a session, with
`told` for the settings that they contributed, which are those of a notification if they set a key,
and else those of the first section in the editor's answer, if it answers without an error:
* each feature is as the last contribution says that has its key, whatever the others say of the
  other key, and as configured if none has it;
* reports are passed on exactly if analytics are enabled;
* without hover texts a request for one has no other result than null, and it has this result, and
  changes nothing, whenever it is well formed and the session runs. -/
theorem flags_follow_editor (settings : Settings) (turns : List Session.Turn) :
    let s := (Session.start settings).run turns
    let told := (Session.start settings).contributed turns
    s.features.hoverEnabled =
        (told.filterMap (·.hoverEnabled)).getLast?.getD settings.features.hoverEnabled ∧
      s.features.analyticsEnabled =
        (told.filterMap (·.analyticsEnabled)).getLast?.getD settings.features.analyticsEnabled ∧
      s.reporter.enabled = s.features.analyticsEnabled ∧
      (s.features.hoverEnabled = false → ∀ (w : World) (m : Message),
        m.method = "textDocument/hover" →
        (∀ id value, (s.receive w m).1 = some (.result id value) → value = .null) ∧
        ∀ id, s.phase = .running → m.id = some id → (m.params.bind Reader.hover).isSome = true →
          s.receive w m = (some (.result id .null), s)) := by
  intro s told
  have hfollows : Session.Follows settings.features told s :=
    (Session.follows_start settings).run turns
  refine ⟨hfollows.hover, hfollows.analytics, hfollows.reporter, ?_⟩
  intro hoff w m hmethod
  have hnull {id : RequestId} (hphase : s.phase = .running) (hid : m.id = some id)
      (hread : (m.params.bind Reader.hover).isSome = true) :
      s.receive w m = (some (.result id .null), s) := by
    obtain ⟨q, hq⟩ := Option.isSome_iff_exists.mp hread
    rw [s.receive_hover w hmethod (by rw [hphase]; decide)]
    exact Session.request_hover_of_disabled hoff w hphase hid hq
  refine ⟨fun id value h => ?_, fun id hphase hid hread => hnull hphase hid hread⟩
  by_cases hover : s.phase = .over
  · rw [Session.receive, if_pos hover] at h
    cases h
  · rw [s.receive_hover w hmethod hover] at h
    obtain ⟨hphase, hid, q, hq⟩ := Session.answer_of_result h
    rw [← s.receive_hover w hmethod hover, hnull hphase hid (by rw [hq]; rfl)] at h
    cases h
    rfl

/-- The editor is asked for its settings, and before it answers a notification turns hover texts on;
the answer turns them off again. Another notification says nothing, so that the editor is asked, and
turns reports off. Then come an answer that is malformed, and a notification that says nothing while
the editor refuses to say more. -/
theorem flags_follow_editor_answered :
    let silent : World := ⟨fun _ _ => .error "", .emptyAt []⟩
    let asked : World :=
      ⟨fun _ _ => .ok (.arr [.obj [("analyticsEnabled", .bool false)]]), .emptyAt []⟩
    let configured (section_ : List (String × Json)) : Message :=
      ⟨"workspace/didChangeConfiguration",
        some (.obj [("settings", .obj [("goodEnoughScala", .obj section_)])]), none⟩
    let greeting : Message :=
      ⟨"initialize", some (.obj [("capabilities", .obj [])]), some (.number 0)⟩
    let hover : Message := ⟨"textDocument/hover", some (.obj [
      ("textDocument", .obj [("uri", .str "file:///a")]),
      ("position", .obj [("line", .nat 0), ("character", .nat 0)])]), some (.number 1)⟩
    let turns : List Session.Turn := [.message silent greeting,
      .ask "workspace/configuration" settingsParams,
      .message silent (configured [("hoverEnabled", .bool true)]),
      .settings (.ok (.arr [.obj [("hoverEnabled", .bool false)]])),
      .message asked (configured []),
      .settings (.ok (.arr [.obj [("hoverEnabled", .str "yes")]])),
      .message silent (configured [])]
    let s := (Session.start .default).run turns
    (Session.start .default).contributed turns =
        [⟨some true, none⟩, ⟨some false, none⟩, ⟨none, some false⟩, .silent] ∧
      (s.features.hoverEnabled = false ∧ s.phase = .running) ∧
      s.features.analyticsEnabled = false ∧ s.reporter.enabled = false ∧
      (s.receive silent hover).1 = some (.result (.number 1) .null) := by
  intro silent asked configured greeting hover turns s
  have htold : (Session.start .default).contributed turns =
      [⟨some true, none⟩, ⟨some false, none⟩, ⟨none, some false⟩, .silent] := by decide +kernel
  have hphase : s.phase = .running := by decide +kernel
  obtain ⟨hhover, hanalytics, hreporter, hnull⟩ := flags_follow_editor .default turns
  rw [htold] at hhover hanalytics
  have hoff : s.features.hoverEnabled = false := hhover
  have hunreported : s.features.analyticsEnabled = false := hanalytics
  obtain ⟨-, hresult⟩ := hnull hoff silent hover rfl
  exact ⟨htold, ⟨hoff, hphase⟩, hunreported, hreporter.trans hunreported,
    congrArg Prod.fst (hresult (.number 1) hphase rfl (by decide +kernel))⟩

end Editor

end SymbolAtlas
