import ContractLint.Proofs.Server.History

namespace ContractLint.Server

namespace Event

def edits : Event → Bool
  | .request .. | .notification .. | .analyze _ => true
  | .finish _ | .publish _ | .abandon _ | .stopWorker | .outside _ => false

def below (limit : JobId) : Event → Bool
  | .finish job => job < limit
  | _ => true

theorem ends_of_edits {e : Event} (h : e.edits = true) (job : JobId) : e.ends job = false := by
  cases e with
  | request | notification | analyze => rfl
  | finish | publish | abandon | stopWorker | outside => cases h

end Event

structure Snapshot (s : Server) (disk : Disk) (t : Task) : Prop where
  opened : ∀ d, s.documents.get? t.job.uri = some d →
    t.job.content = d.content ∧ t.job.version = some d.version
  onDisk : s.documents.get? t.job.uri = none →
    disk.readText t.job.path = .ok t.job.content ∧ t.job.version = none
  located : t.job.path = t.job.uri.location
  options : t.job.options = s.settings.resolve .builtin
  analyzer : t.analyzer = s.analyzer

theorem Content.snapshot {s : Server} {disk : Disk} {uri : Url} {text : String}
    {version : Option Int32} (h : Content s disk uri text version) :
    Snapshot s disk (s.task uri uri.location text version) := by
  constructor
  · intro d hd
    cases h with
    | opened ho =>
        cases Option.some.inj (ho.symm.trans hd)
        exact ⟨rfl, rfl⟩
    | onDisk hn _ => cases hn.symm.trans hd
  · intro hd
    cases h with
    | opened ho => cases ho.symm.trans hd
    | onDisk _ hr => exact ⟨hr, rfl⟩
  · rfl
  · rfl
  · rfl

theorem Snapshot.of_store {s s' : Server} {disk : Disk} {t : Task} (h : Snapshot s disk t)
    (hs : s.store = s'.store) : Snapshot s' disk t := by
  have hd : s.documents = s'.documents := congrArg Store.documents hs
  have hc : s.settings = s'.settings := congrArg Store.settings hs
  have ha : s.analyzer = s'.analyzer := congrArg Store.analyzer hs
  exact ⟨hd ▸ h.opened, hd ▸ h.onDisk, h.located, hc ▸ h.options, ha ▸ h.analyzer⟩

namespace Run

variable {r : Run} {e : Event} {es : List Event} {t : Task}

section Queueing

theorem attempt_of_queued (h : r.queued? e = some t) :
    ∃ uri, r.asks? e = some uri ∧
      ((r.server.informed e).attempt r.outside uri).queued = some t := by
  rw [queued?_eq, Option.bind_eq_some_iff] at h
  obtain ⟨a, ha, hq⟩ := h
  obtain ⟨uri, hu, rfl⟩ := Option.map_eq_some_iff.1 ha
  exact ⟨uri, hu, hq⟩

theorem store_informed (r : Run) (e : Event) :
    (r.server.informed e).store = (r.step e).server.store :=
  (store_withStore _ _).trans (store_step r e).symm

theorem snapshot_of_queued (h : r.queued? e = some t) :
    Snapshot (r.step e).server r.world.disk t := by
  obtain ⟨uri, -, hq⟩ := attempt_of_queued h
  obtain ⟨text, version, hc, rfl⟩ := attempt_queued hq
  exact hc.snapshot.of_store (store_informed r e)

theorem asks?_world (r : Run) (e : Event) (w : World) : { r with world := w }.asks? e = r.asks? e := by
  cases e <;> rfl

theorem queued?_of_open (h : r.queued? e = some t) {d : Document}
    (hd : (r.step e).server.documents.get? t.job.uri = some d) (w : World) :
    { r with world := w }.queued? e = some t := by
  obtain ⟨uri, hu, hq⟩ := attempt_of_queued h
  obtain ⟨text, version, -, rfl⟩ := attempt_queued hq
  have hs : (r.server.informed e).documents = (r.step e).server.documents :=
    congrArg Store.documents (store_informed r e)
  have ho : (r.server.informed e).documents.get? uri = some d := by
    rw [hs]
    exact hd
  have ha : (r.server.informed e).attempt { r with world := w }.outside uri =
      (r.server.informed e).attempt r.outside uri := attempt_congr_of_open ho rfl
  rw [queued?_eq, tries?, asks?_world, hu, Option.map_some, Option.bind_some, ha]
  exact hq

theorem edits_of_queued (h : r.queued? e = some t) : e.edits = true := by
  obtain ⟨uri, hu, -⟩ := attempt_of_queued h
  cases e with
  | request | notification | analyze => rfl
  | finish | publish | abandon | stopWorker | outside => cases hu

theorem pending_of_queued (h : r.queued? e = some t) :
    (r.step e).pending = r.pending ++ [t] := by
  have he := edits_of_queued h
  rw [pending_step, outlasting_eq_pending fun u _ => Event.ends_of_edits he u.job.id, h]
  rfl

end Queueing

section Editing

theorem world_of_edits (h : e.edits = true) : (r.step e).world = r.world := by
  cases e with
  | request | notification | analyze => rfl
  | finish | publish | abandon | stopWorker | outside => cases h

def earlier (r : Run) (limit : JobId) : List Task :=
  r.pending.filter fun t => t.job.id < limit

theorem earlier_of_edits {limit : JobId} (hl : limit ≤ r.server.nextJob) (h : e.edits = true) :
    (r.step e).earlier limit = r.earlier limit := by
  have ho : r.outlasting e = r.pending :=
    outlasting_eq_pending fun t _ => Event.ends_of_edits h t.job.id
  rw [earlier, pending_step, ho, List.filter_append, earlier]
  cases hq : r.queued? e with
  | none => simp
  | some t =>
      have hj : ¬ t.job.id < limit := by
        rw [queued_number hq]
        exact Nat.not_lt.2 hl
      simp [hj]

theorem earlier_without {limit : JobId} (r : Run) (job : JobId) :
    (r.without job).earlier limit = (r.earlier limit).filter fun t => t.job.id != job := by
  simp only [earlier, without, List.filter_filter, Bool.and_comm]

theorem task?_earlier {limit job : JobId} (h : job < limit) :
    r.task? job = (r.earlier limit).find? fun t => t.job.id = job := by
  rw [task?, earlier, List.find?_filter]
  congr 1
  funext t
  by_cases hj : t.job.id = job <;> simp [hj, h]

theorem ran_of_publish (r : Run) (job : JobId) :
    (r.step (.publish job)).world = r.world ∧
      ∀ limit, (r.step (.publish job)).earlier limit = r.earlier limit := by
  simp only [step]
  cases r.outcome? job <;> exact ⟨rfl, fun _ => rfl⟩

structure Agree (limit : JobId) (r r' : Run) : Prop where
  world : r.world = r'.world
  earlier : r.earlier limit = r'.earlier limit
  left : limit ≤ r.server.nextJob
  right : limit ≤ r'.server.nextJob

namespace Agree

variable {limit : JobId} {r' : Run}

theorem edited (h : Agree limit r r') (he : e.edits = true) : Agree limit (r.step e) r' where
  world := (world_of_edits he).trans h.world
  earlier := (earlier_of_edits h.left he).trans h.earlier
  left := Nat.le_trans h.left (nextJob_le_step r e)
  right := h.right

theorem step (h : Agree limit r r') (he : e.edits = false) (hb : e.below limit = true) :
    Agree limit (r.step e) (r'.step e) := by
  have hl : limit ≤ (r.step e).server.nextJob := Nat.le_trans h.left (nextJob_le_step r e)
  have hr : limit ≤ (r'.step e).server.nextJob := Nat.le_trans h.right (nextJob_le_step r' e)
  cases e with
  | request | notification | analyze => cases he
  | finish job =>
      have hj : job < limit := by simpa [Event.below] using hb
      have ht : r.task? job = r'.task? job := by
        rw [task?_earlier hj, task?_earlier hj, h.earlier]
      refine ⟨?_, ?_, hl, hr⟩
      · simp only [Run.step, ht]
        cases r'.task? job with
        | none => exact h.world
        | some t => simp only [finish, h.world]
      · simp only [Run.step, ht]
        cases r'.task? job with
        | none => exact h.earlier
        | some t =>
            change (r.without t.job.id).earlier limit = (r'.without t.job.id).earlier limit
            rw [earlier_without, earlier_without, h.earlier]
  | publish job =>
      obtain ⟨hw, he⟩ := ran_of_publish r job
      obtain ⟨hw', he'⟩ := ran_of_publish r' job
      exact ⟨hw.trans (h.world.trans hw'.symm), (he limit).trans (h.earlier.trans (he' limit).symm),
        hl, hr⟩
  | abandon job =>
      refine ⟨h.world, ?_, hl, hr⟩
      change (r.without job).earlier limit = (r'.without job).earlier limit
      rw [earlier_without, earlier_without, h.earlier]
  | stopWorker => exact ⟨h.world, h.earlier, hl, hr⟩
  | outside world => exact ⟨rfl, h.earlier, hl, hr⟩

theorem after (h : Agree limit r r') (hb : ∀ e ∈ es, e.below limit = true) :
    Agree limit (r.after es) (r'.after (es.filter fun e => !e.edits)) := by
  induction es generalizing r r' with
  | nil => exact h
  | cons e es ih =>
      obtain ⟨he, hs⟩ := List.forall_mem_cons.1 hb
      cases hd : e.edits with
      | true =>
          rw [List.filter_cons_of_neg (by simp [hd])]
          exact ih (h.edited hd) hs
      | false =>
          rw [List.filter_cons_of_pos (by simp [hd])]
          exact ih (h.step hd he) hs

end Agree

theorem world_after_edits (r : Run) (hb : ∀ e ∈ es, e.below r.server.nextJob = true) :
    (r.after es).world = (r.after (es.filter fun e => !e.edits)).world := by
  have h : Agree r.server.nextJob r r := ⟨rfl, rfl, Nat.le_refl _, Nat.le_refl _⟩
  exact (h.after hb).world

end Editing

end Run

theorem queued_job_is_isolated (workspace : Workspace) (settings : Settings) (world : World)
    (es : List Event) (e : Event) (t : Task)
    (h : ((begin workspace settings world).after es).queued? e = some t) :
    let r := (begin workspace settings world).after es
    let q := r.step e
    q.pending = r.pending ++ [t] ∧
      Snapshot q.server r.world.disk t ∧
      (∀ d, q.server.documents.get? t.job.uri = some d →
        ∀ w, { r with world := w }.queued? e = some t) ∧
      ∀ fs, (∀ f ∈ fs, f.ends t.job.id = false) →
        (q.after (fs ++ [.finish t.job.id])).sent = (q.after fs).sent ∧
          ∀ gs, (∀ g ∈ gs, g.publishes t.job.id = false) →
            (q.after (fs ++ (.finish t.job.id :: gs ++ [.publish t.job.id]))).sent =
                (q.after (fs ++ .finish t.job.id :: gs)).sent ++
                  (t.outcome (q.after fs).world).messages ∧
              ((∀ f ∈ fs, f.below q.server.nextJob = true) →
                let hs := fs.filter fun f => !f.edits
                (q.after (hs ++ (.finish t.job.id :: gs ++ [.publish t.job.id]))).sent =
                  (q.after (hs ++ .finish t.job.id :: gs)).sent ++
                    (t.outcome (q.after fs).world).messages) := by
  intro r q
  have hp : q.pending = r.pending ++ [t] := Run.pending_of_queued h
  have hn : q.Numbered := ((Run.numbered_begin workspace settings world).after es).step e
  have ht : t ∈ q.pending := by
    rw [hp]
    exact List.mem_append_right _ (List.mem_singleton.2 rfl)
  refine ⟨hp, Run.snapshot_of_queued h, ?_, ?_⟩
  · intro d hd w
    exact Run.queued?_of_open h hd w
  · intro fs hf
    refine ⟨hn.sent_finish_after ht hf, ?_⟩
    intro gs hg
    refine ⟨hn.sent_publish_after ht hf hg, ?_⟩
    intro hb hs
    have hh : ∀ f ∈ hs, f.ends t.job.id = false := fun f hm => hf f (List.mem_filter.1 hm).1
    rw [hn.sent_publish_after ht hh hg, ← Run.world_after_edits q hb]

section Draft

def draft : Url where
  scheme := "untitled"
  authority := none
  host := ""
  path := .plain "A.sol"
  query := none
  fragment := none

def draftTask : Task where
  job := {
    id := 0, uri := draft, path := draft.location, version := some 1, content := "contract A {}"
    options := {} }
  analyzer := .embedded

def bareWorld : World where
  site := {
    disk := {}, compiler := fun _ => default, scratch := Path.ofText "/tmp", freshName := "a" }
  backend := fun _ => .panic "task 1 panicked"

def openDraft : Event :=
  .notification "textDocument/didOpen" (.obj [("textDocument", .obj [
    ("uri", .str "untitled:A.sol"), ("languageId", .str "solidity"), ("version", .int 1),
    ("text", .str "contract A {}")])])

def editDraft : Event :=
  .notification "textDocument/didChange" (.obj [
    ("textDocument", .obj [("uri", .str "untitled:A.sol"), ("version", .int 2)]),
    ("contentChanges", .arr [.obj [("text", .str "contract B {}")]])])

def closeDraft : Event :=
  .notification "textDocument/didClose" (.obj [
    ("textDocument", .obj [("uri", .str "untitled:A.sol")])])

theorem edited_draft_is_isolated :
    let q := (begin {} {} bareWorld).after [openDraft, .analyze draft]
    q.server.documents.get? draft = some ⟨draft, "solidity", 1, "contract A {}", false⟩ ∧
      (q.after [editDraft, .finish 0]).server.documents.get? draft =
        some ⟨draft, "solidity", 2, "contract B {}", true⟩ ∧
      (q.after [editDraft, .finish 0, closeDraft, .publish 0]).sent =
        (draftTask.outcome bareWorld).messages := by
  have h : ((begin {} {} bareWorld).after [openDraft]).queued? (.analyze draft) =
      some draftTask := by decide +kernel
  obtain ⟨-, -, -, hs⟩ := queued_job_is_isolated {} {} bareWorld [openDraft] _ draftTask h
  obtain ⟨-, hs⟩ := hs [editDraft] (by decide)
  exact ⟨by decide +kernel, by decide +kernel, (hs [closeDraft] (by decide)).1⟩

end Draft

end ContractLint.Server
