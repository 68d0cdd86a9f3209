import ContractLint.Proofs.Server.Documents
import ContractLint.Proofs.Server.Snapshot
import ContractLint.Proofs.Settings.Readings

namespace ContractLint

structure Analyzer.Chosen (s : Settings) (a : Analyzer) : Prop where
  native : ∀ binary, a = .native binary ↔ s.solc = some binary ∧ binary ≠ ""
  embedded : a = .embedded ↔ s.solc = none ∨ s.solc = some ""

theorem Analyzer.chosen_ofSettings (s : Settings) : Chosen s (.ofSettings s) := by
  have hp : s.solcPath? = s.solc.filter (· != "") := rfl
  cases hs : s.solc with
  | none =>
      rw [hs, Option.filter_none] at hp
      constructor <;> simp [ofSettings, hp, hs]
  | some path =>
      by_cases h : path = ""
      · rw [hs, h, Option.filter_some] at hp
        constructor <;> simp [ofSettings, hp, hs, h]
      · rw [hs, Option.filter_some, if_pos (by simpa using h)] at hp
        constructor
        · intro binary
          simp only [ofSettings, hp, hs, Analyzer.native.injEq, Option.some.injEq]
          constructor
          · rintro rfl
            exact ⟨rfl, h⟩
          · exact And.left
        · simp [ofSettings, hp, hs, h]

namespace Server

def Notification.configuration? : Notification → Option Json
  | .didChangeConfiguration v => if (Settings.part v).isObject then some v else none
  | .didOpen _ | .didChange _ | .didClose _ | .didSave _ => none

def Event.configuration? : Event → Option Json
  | .notification method params =>
      (Notification.ofJson? method params).bind Notification.configuration?
  | _ => none

namespace Store

def Coherent (c : Store) : Prop :=
  c.analyzer = .ofSettings c.settings

variable {c : Store} {e : Event} {v : Json}

theorem heard?_of_unconfigured {n : Notification} (h : n.configuration? = none) :
    ((c.heard? n).getD c).settings = c.settings ∧ ((c.heard? n).getD c).analyzer = c.analyzer := by
  cases n with
  | didOpen | didClose | didSave => exact ⟨rfl, rfl⟩
  | didChange p =>
      rw [heard?, changed?_getD]
      exact ⟨rfl, rfl⟩
  | didChangeConfiguration v =>
      have hv : (Settings.part v).isObject = false := by
        simpa [Notification.configuration?] using h
      rw [heard?, configured?_eq_none_iff.2 hv]
      exact ⟨rfl, rfl⟩

theorem heard?_of_configured {n : Notification} (h : n.configuration? = some v) :
    ∃ s, c.settings.update v = .ok s ∧
      c.heard? n = some { c with settings := s, analyzer := .ofSettings s } := by
  cases n with
  | didOpen | didChange | didClose | didSave => cases h
  | didChangeConfiguration w =>
      obtain ⟨hw, rfl⟩ : (Settings.part w).isObject = true ∧ w = v := by
        simpa [Notification.configuration?] using h
      obtain ⟨s, hs⟩ := Settings.update_of_isObject hw c.settings
      refine ⟨s, hs, ?_⟩
      simp only [heard?, configured?, hs]
      rfl

theorem next_of_unconfigured (h : e.configuration? = none) :
    (c.next e).settings = c.settings ∧ (c.next e).analyzer = c.analyzer := by
  cases e with
  | request | analyze | finish | publish | abandon | stopWorker | outside => exact ⟨rfl, rfl⟩
  | notification method params =>
      rw [next, told?_eq_bind]
      simp only [Event.configuration?] at h
      cases hn : Notification.ofJson? method params with
      | none => exact ⟨rfl, rfl⟩
      | some n =>
          rw [hn, Option.bind_some] at h
          exact heard?_of_unconfigured h

theorem next_of_configured (h : e.configuration? = some v) :
    ∃ s, c.settings.update v = .ok s ∧
      c.next e = { c with settings := s, analyzer := .ofSettings s } := by
  cases e with
  | request | analyze | finish | publish | abandon | stopWorker | outside => cases h
  | notification method params =>
      rw [next, told?_eq_bind]
      obtain ⟨n, hn, hv⟩ := Option.bind_eq_some_iff.1 h
      obtain ⟨s, hs, hc⟩ := heard?_of_configured (c := c) hv
      exact ⟨s, hs, by rw [hn, Option.bind_some, hc, Option.getD_some]⟩

theorem Coherent.next (h : c.Coherent) (e : Event) : (c.next e).Coherent := by
  cases he : e.configuration? with
  | none =>
      obtain ⟨hs, ha⟩ := next_of_unconfigured (c := c) he
      rw [Coherent, hs, ha]
      exact h
  | some v =>
      obtain ⟨s, -, hc⟩ := next_of_configured (c := c) he
      rw [Coherent, hc]

end Store

namespace Run

variable {r : Run} {e : Event} {es : List Event} {t : Task}

theorem unconfigured_step (h : e.configuration? = none) :
    (r.step e).server.settings = r.server.settings ∧
      (r.step e).server.analyzer = r.server.analyzer := by
  have hs : (r.step e).server.store = r.server.store.next e := store_step r e
  obtain ⟨hn, ha⟩ := Store.next_of_unconfigured (c := r.server.store) h
  rw [← hs] at hn ha
  exact ⟨hn, ha⟩

theorem configured_step {v : Json} (h : e.configuration? = some v) :
    r.server.settings.update v = .ok (r.step e).server.settings := by
  have hs : (r.step e).server.store = r.server.store.next e := store_step r e
  obtain ⟨s, hu, hc⟩ := Store.next_of_configured (c := r.server.store) h
  have hn : (r.step e).server.settings = s := by
    change (r.step e).server.store.settings = s
    rw [hs, hc]
  rw [hn]
  exact hu

theorem coherent_step (h : r.server.store.Coherent) (e : Event) :
    (r.step e).server.store.Coherent := by
  rw [store_step]
  exact h.next e

theorem coherent_after (h : r.server.store.Coherent) (es : List Event) :
    (r.after es).server.store.Coherent := by
  induction es generalizing r with
  | nil => exact h
  | cons e es ih => exact ih (coherent_step h e)

theorem settings_after (r : Run) (es : List Event) :
    (es.filterMap Event.configuration?).foldlM Settings.update r.server.settings =
      .ok (r.after es).server.settings := by
  induction es generalizing r with
  | nil => rfl
  | cons e es ih =>
      cases he : e.configuration? with
      | none =>
          have hn : (r.step e).server.settings = r.server.settings := (unconfigured_step he).1
          rw [List.filterMap_cons_none he, after_cons, ← ih, hn]
      | some v =>
          have hu : r.server.settings.update v = .ok (r.step e).server.settings :=
            configured_step he
          rw [List.filterMap_cons_some he, List.foldlM_cons, after_cons, ← ih, hu]
          rfl

theorem configuration?_of_asks {uri : Url} (h : r.asks? e = some uri) :
    e.configuration? = none := by
  cases e with
  | request | analyze | finish | publish | abandon | stopWorker | outside => rfl
  | notification method params =>
      simp only [asks?, asked?] at h
      split at h
      · next p hp =>
          rw [Event.configuration?, hp]
          rfl
      · cases h

theorem configuration?_of_queued (h : r.queued? e = some t) : e.configuration? = none := by
  obtain ⟨uri, hu, -⟩ := attempt_of_queued h
  exact configuration?_of_asks hu

end Run

structure Configured (s : Settings) (t : Task) : Prop where
  noSmt : t.job.options.noSmt = s.noSmt
  asErc20 : t.job.options.asErc20 = s.asErc20
  tags : t.job.options.tags = s.enables.filter Registry.builtin.contains
  analyzer : t.analyzer.Chosen s

theorem Snapshot.configured {s : Server} {disk : Disk} {t : Task} (h : Snapshot s disk t)
    (hc : s.store.Coherent) : Configured s.settings t := by
  have ha : t.analyzer = .ofSettings s.settings := h.analyzer.trans hc
  exact {
    noSmt := by rw [h.options]; rfl
    asErc20 := by rw [h.options]; rfl
    tags := by rw [h.options]; rfl
    analyzer := ha ▸ Analyzer.chosen_ofSettings s.settings }

theorem Run.configured_of_queued {r : Run} {e : Event} {t : Task}
    (hc : r.server.store.Coherent) (h : r.queued? e = some t) :
    Configured r.server.settings t := by
  have hs : (r.step e).server.settings = r.server.settings :=
    (unconfigured_step (configuration?_of_queued h)).1
  have ht : Configured (r.step e).server.settings t :=
    (snapshot_of_queued h).configured (coherent_step hc e)
  rw [hs] at ht
  exact ht

theorem every_job_has_one_configuration (workspace : Workspace) (settings : Settings)
    (world : World) (es : List Event) :
    let r := begin workspace settings world
    (r.after es).server.analyzer = .ofSettings (r.after es).server.settings ∧
      (r.after es).server.analyzer.Chosen (r.after es).server.settings ∧
      (es.filterMap Event.configuration?).foldlM Settings.update settings =
        .ok (r.after es).server.settings ∧
      (∀ e, e.configuration? = none →
        ((r.after es).step e).server.settings = (r.after es).server.settings ∧
          ((r.after es).step e).server.analyzer = (r.after es).server.analyzer) ∧
      ∀ t ∈ r.accepted es, ∃ fs e gs s,
        es = fs ++ e :: gs ∧ (r.after fs).queued? e = some t ∧
          (fs.filterMap Event.configuration?).foldlM Settings.update settings = .ok s ∧
            Configured s t := by
  intro r
  have hc : ∀ fs, (r.after fs).server.store.Coherent := Run.coherent_after rfl
  have ha : (r.after es).server.analyzer = .ofSettings (r.after es).server.settings := hc es
  refine ⟨ha, ?_, Run.settings_after r es, ?_, ?_⟩
  · rw [ha]
    exact Analyzer.chosen_ofSettings _
  · intro e he
    exact Run.unconfigured_step he
  · intro t ht
    obtain ⟨fs, e, gs, rfl, hq⟩ := Run.mem_accepted ht
    exact ⟨fs, e, gs, _, rfl, hq, Run.settings_after r fs, Run.configured_of_queued (hc fs) hq⟩

section Reconfigured

def configure (v : Json) : Event :=
  .notification "workspace/didChangeConfiguration" (.obj [("settings", v)])

def reconfigurations : List Event :=
  [openDraft, configure (.obj [("secbit", .arr [.str "/bin/solc"])]),
    configure (.obj [("solc", .str "/opt/solc"), ("noSMT", .bool true), ("onSave", .str "yes"),
      ("enables", .arr [.str "reentrance", .str "bogus"])]),
    .analyze draft, configure (.obj [("solc", .str "")])]

def nativeDraftTask : Task where
  job := { draftTask.job with options := { noSmt := true, tags := ["reentrance"] } }
  analyzer := .native "/opt/solc"

theorem reconfigured_draft_has_one_configuration :
    let r := begin {} {} bareWorld
    (r.after reconfigurations).server.analyzer = .embedded ∧
      nativeDraftTask ∈ r.accepted reconfigurations ∧
      ∃ fs e gs s,
        reconfigurations = fs ++ e :: gs ∧ (r.after fs).queued? e = some nativeDraftTask ∧
          (fs.filterMap Event.configuration?).foldlM Settings.update {} = .ok s ∧
            Configured s nativeDraftTask := by
  intro r
  have ha : (r.after reconfigurations).server.analyzer = .embedded := by decide +kernel
  have ht : nativeDraftTask ∈ r.accepted reconfigurations := by decide +kernel
  obtain ⟨-, -, -, -, hj⟩ := every_job_has_one_configuration {} {} bareWorld reconfigurations
  exact ⟨ha, ht, hj nativeDraftTask ht⟩

end Reconfigured

end Server

end ContractLint
