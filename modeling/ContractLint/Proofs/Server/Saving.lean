import ContractLint.Proofs.Server.Checks

namespace ContractLint.Server

structure Run.AnalyzesSaved (r : Run) (uri : Url) : Prop where
  onSave : r.server.settings.onSave = true
  admits : r.server.documents.Admits uri
  readable : (r.server.documents.get? uri).isSome ∨
    ∃ text, r.world.disk.readText uri.location = .ok text
  accepting : r.accepting = true

def Event.save (params : Json) : Event :=
  .notification "textDocument/didSave" params

theorem Attempt.unknown_attempt (s : Server) (out : Outside) (uri : Url) :
    (s.attempt out uri).unknown = [] ∨
      (s.attempt out uri).unknown = s.settings.unknownTags .builtin := by
  have ha := attempted s out uri
  generalize s.attempt out uri = a at ha
  cases ha with
  | skipped | unreadable => exact .inl rfl
  | stopped | queued => exact .inr rfl

namespace Run

variable {r : Run} {e : Event} {params : Json} {p : Params.DidSave} {t : Task}

section Decoded

variable (h : Params.DidSave.ofJson? params = some p)

include h

theorem notification_save :
    Notification.ofJson? "textDocument/didSave" params = some (.didSave p) := by
  change (Params.DidSave.ofJson? params).map Notification.didSave = _
  rw [h, Option.map_some]

theorem documents_save (r : Run) :
    (r.step (.save params)).server.documents = r.server.documents.markSaved p.uri p.text := by
  rw [Event.save, documents_step, Event.operation?, notification_save h]
  rfl

theorem configuration?_save : (Event.save params).configuration? = none := by
  rw [Event.save, Event.configuration?, notification_save h]
  rfl

theorem asks?_save (r : Run) :
    r.asks? (.save params) = if r.server.settings.onSave then some p.uri else none := by
  simp only [Event.save, asks?, asked?, notification_save h]

theorem get?_save (r : Run) (uri : Url) :
    (r.step (.save params)).server.documents.get? uri =
      if p.uri = uri then
        (r.server.documents.get? uri).map fun d =>
          { d with content := p.text.getD d.content, isDirty := false }
      else r.server.documents.get? uri := by
  rw [documents_save h]
  exact Documents.get?_apply r.server.documents (.markSaved p.uri p.text) uri

theorem documents_informed_save (r : Run) :
    (r.server.informed (.save params)).documents =
      r.server.documents.markSaved p.uri p.text := by
  rw [← documents_save h]
  exact congrArg Store.documents (store_informed r (.save params))

theorem admits_informed_save (r : Run) :
    (r.server.informed (.save params)).documents.Admits p.uri ↔
      r.server.documents.Admits p.uri := by
  rw [documents_informed_save h, ← Documents.isSolidity_iff, Documents.isSolidity_markSaved,
    Documents.isSolidity_iff]

theorem content_informed_save (r : Run) :
    (∃ text version,
      Content (r.server.informed (.save params)) r.world.disk p.uri text version) ↔
      (r.server.documents.get? p.uri).isSome ∨
        ∃ text, r.world.disk.readText p.uri.location = .ok text := by
  have hd : (r.server.informed (.save params)).documents.get? p.uri =
      (r.server.documents.get? p.uri).map fun d =>
        { d with content := p.text.getD d.content, isDirty := false } := by
    rw [documents_informed_save h, ← documents_save h, get?_save h, if_pos rfl]
  constructor
  · rintro ⟨text, version, hc⟩
    cases hc with
    | opened ho =>
        rw [hd] at ho
        obtain ⟨d, hr, -⟩ := Option.map_eq_some_iff.1 ho
        exact .inl (by rw [hr]; rfl)
    | onDisk _ hr => exact .inr ⟨text, hr⟩
  · intro hr
    cases ho : r.server.documents.get? p.uri with
    | some d => exact ⟨_, _, .opened (by rw [hd, ho]; rfl)⟩
    | none =>
        rcases hr with hs | ⟨text, hr⟩
        · rw [ho] at hs
          cases hs
        · exact ⟨text, none, .onDisk (by rw [hd, ho]; rfl) hr⟩

theorem resolves_save_iff (r : Run) :
    r.Resolves (.save params) ↔
      r.server.settings.onSave = true ∧ r.server.documents.Admits p.uri ∧
        ((r.server.documents.get? p.uri).isSome ∨
          ∃ text, r.world.disk.readText p.uri.location = .ok text) := by
  rw [← admits_informed_save h, ← content_informed_save h]
  constructor
  · rintro ⟨uri, text, version, hu, hg, hc⟩
    rw [asks?_save h] at hu
    split at hu
    · next ho =>
        cases hu
        exact ⟨ho, hg, text, version, hc⟩
    · cases hu
  · rintro ⟨ho, hg, text, version, hc⟩
    exact ⟨p.uri, text, version, by rw [asks?_save h, if_pos ho], hg, hc⟩

end Decoded

theorem isSome_queued?_iff : (r.queued? e).isSome ↔ r.Resolves e ∧ r.accepting = true := by
  constructor
  · intro hq
    obtain ⟨t, ht⟩ := Option.isSome_iff_exists.1 hq
    have hr : r.Resolves e := resolves_of_queued ht
    exact ⟨hr, (queued?_of_resolves hr).symm.trans hq⟩
  · rintro ⟨hr, ha⟩
    exact (queued?_of_resolves hr).trans ha

theorem pending_of_unqueued (he : e.edits = true) (hq : r.queued? e = none) :
    (r.step e).pending = r.pending := by
  rw [pending_step, outlasting_eq_pending fun t _ => Event.ends_of_edits he t.job.id, hq]
  exact List.append_nil _

theorem queued?_save_iff (h : Params.DidSave.ofJson? params = some p) :
    (r.queued? (.save params)).isSome ↔ r.AnalyzesSaved p.uri := by
  rw [isSome_queued?_iff, resolves_save_iff h]
  constructor
  · rintro ⟨⟨ho, hg, hr⟩, ha⟩
    exact ⟨ho, hg, hr, ha⟩
  · intro ha
    exact ⟨⟨ha.onSave, ha.admits, ha.readable⟩, ha.accepting⟩

theorem sent_save (r : Run) (params : Json) :
    ∃ tags, (tags = [] ∨ tags = r.server.settings.unknownTags .builtin) ∧
      (r.step (.save params)).sent = r.sent ++ tags.map Message.unknownCheck := by
  cases ha : r.tries? (.save params) with
  | none =>
      have hs : (r.step (.save params)).sent = r.sent ++ [] := by
        rw [Event.save, step_of_serverStep rfl, notification_eq_tried]
        simp only [Event.save, tries?, asks?, Option.map_eq_none_iff] at ha
        rw [ha]
        rfl
      exact ⟨[], .inl rfl, hs⟩
  | some a =>
      obtain ⟨answer, hm, hs⟩ := sent_of_tries ha
      have hn : answer = none := Option.map_eq_none_iff.1 hm
      obtain ⟨uri, hu, rfl⟩ := Option.map_eq_some_iff.1 ha
      have hc : (r.server.informed (.save params)).settings = r.server.settings :=
        settings_informed hu
      have hk := Attempt.unknown_attempt (r.server.informed (.save params)) r.outside uri
      rw [hc] at hk
      refine ⟨_, hk, ?_⟩
      rw [hs, hn, Option.toList_none, List.append_nil]
      rfl

theorem uri_of_queued_save (h : Params.DidSave.ofJson? params = some p)
    (hq : r.queued? (.save params) = some t) : t.job.uri = p.uri := by
  obtain ⟨uri, hu, ha⟩ := attempt_of_queued hq
  obtain ⟨text, version, -, rfl⟩ := attempt_queued ha
  rw [asks?_save h] at hu
  split at hu
  · exact (Option.some.inj hu).symm
  · cases hu

end Run

theorem saved_text_is_analyzed (r : Run) (params : Json) (p : Params.DidSave)
    (h : Params.DidSave.ofJson? params = some p) :
    let q := r.step (.save params)
    q.server.documents.lastActive = some p.uri ∧
      (∀ d, r.server.documents.get? p.uri = some d →
        q.server.documents.get? p.uri =
          some { d with content := p.text.getD d.content, isDirty := false }) ∧
      (r.server.documents.get? p.uri = none → q.server.documents.get? p.uri = none) ∧
      (∀ uri, uri ≠ p.uri → q.server.documents.get? uri = r.server.documents.get? uri) ∧
      q.server.settings = r.server.settings ∧ q.server.analyzer = r.server.analyzer ∧
      (∃ tags, (tags = [] ∨ tags = r.server.settings.unknownTags .builtin) ∧
        q.sent = r.sent ++ tags.map Message.unknownCheck) ∧
      (¬ r.AnalyzesSaved p.uri → q.pending = r.pending) ∧
      (r.AnalyzesSaved p.uri → ∃ t, q.pending = r.pending ++ [t] ∧ t.job.uri = p.uri ∧
        (∀ d, r.server.documents.get? p.uri = some d →
          t.job.content = p.text.getD d.content ∧ t.job.version = some d.version) ∧
        (r.server.documents.get? p.uri = none →
          r.world.disk.readText p.uri.location = .ok t.job.content ∧ t.job.version = none)) := by
  intro q
  have ho : ∀ d, r.server.documents.get? p.uri = some d →
      q.server.documents.get? p.uri =
        some { d with content := p.text.getD d.content, isDirty := false } := by
    intro d hd
    rw [Run.get?_save h, if_pos rfl, hd, Option.map_some]
  have hn : r.server.documents.get? p.uri = none → q.server.documents.get? p.uri = none := by
    intro hd
    rw [Run.get?_save h, if_pos rfl, hd, Option.map_none]
  obtain ⟨hs, ha⟩ := Run.unconfigured_step (r := r) (Run.configuration?_save h)
  refine ⟨?_, ho, hn, ?_, hs, ha, Run.sent_save r params, ?_, ?_⟩
  · rw [Run.documents_save h]
    rfl
  · intro uri hu
    rw [Run.get?_save h, if_neg (Ne.symm hu)]
  · intro hw
    refine Run.pending_of_unqueued rfl ?_
    rw [← Option.not_isSome_iff_eq_none, Run.queued?_save_iff h]
    exact hw
  · intro hw
    obtain ⟨t, ht⟩ := Option.isSome_iff_exists.1 ((Run.queued?_save_iff h).2 hw)
    have hu : t.job.uri = p.uri := Run.uri_of_queued_save h ht
    have hp : Snapshot q.server r.world.disk t := Run.snapshot_of_queued ht
    refine ⟨t, Run.pending_of_queued ht, hu, ?_, ?_⟩
    · intro d hd
      exact hp.opened _ (hu ▸ ho d hd)
    · intro hd
      obtain ⟨hr, hv⟩ := hp.onDisk (hu ▸ hn hd)
      rw [hp.located, hu] at hr
      exact ⟨hr, hv⟩

section Saved

def savingSettings : Settings where
  enables := ["throw", "nothing"]
  onSave := true

def saveDraft : Json :=
  .obj [("textDocument", .obj [("uri", .str "untitled:A.sol")]), ("text", .str "contract C {}")]

theorem saved_draft_is_analyzed :
    let r := (begin {} savingSettings bareWorld).after [openDraft, editDraft]
    Params.DidSave.ofJson? saveDraft = some ⟨draft, some "contract C {}"⟩ ∧
      r.AnalyzesSaved draft ∧
      (r.step (.save saveDraft)).sent = [.unknownCheck "nothing"] ∧
      ∃ t, (r.step (.save saveDraft)).pending = [t] ∧ t.job.uri = draft ∧
        t.job.content = "contract C {}" ∧ t.job.version = some 2 := by
  intro r
  have hp : Params.DidSave.ofJson? saveDraft = some ⟨draft, some "contract C {}"⟩ := by
    decide +kernel
  have hd : r.server.documents.get? draft =
      some ⟨draft, "solidity", 2, "contract B {}", true⟩ := by decide +kernel
  have ha : r.AnalyzesSaved draft := ⟨rfl, .opened hd rfl, .inl (by rw [hd]; rfl), rfl⟩
  have hb : r.pending = [] := by decide +kernel
  obtain ⟨-, -, -, -, -, -, -, -, hq⟩ := saved_text_is_analyzed r saveDraft _ hp
  obtain ⟨t, ht, hu, hc, -⟩ := hq ha
  obtain ⟨hc, hv⟩ := hc _ hd
  exact ⟨hp, ha, by decide +kernel, t, by rw [ht, hb]; rfl, hu, hc, hv⟩

end Saved

end ContractLint.Server
