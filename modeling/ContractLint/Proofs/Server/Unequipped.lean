import ContractLint.Proofs.Server.Configuration
import ContractLint.Proofs.Server.Publication

namespace ContractLint

namespace Settings

variable {s s' : Settings} {v : Json}

theorem solcPath?_eq_none_iff :
    s.solcPath? = none ↔ ∀ path, s.solc = some path → path = "" := by
  simp [solcPath?, Option.filter_eq_none_iff]

theorem solcPath?_update (h : s.update v = .ok s') (hs : s.solcPath? = none)
    (hv : ∀ path, (part v).get? "solc" = some (.str path) → path = "") :
    s'.solcPath? = none := by
  have hm : s'.solc = merged (part v) "solc" path? s.solc := by
    simp only [update] at h
    split at h
    · cases h
      rfl
    · cases h
  rw [solcPath?_eq_none_iff] at hs ⊢
  intro path hp
  rw [hm, merged] at hp
  cases hf : ((part v).get? "solc").bind path? with
  | none =>
      rw [hf] at hp
      exact hs path hp
  | some found =>
      rw [hf, Option.getD_some] at hp
      obtain ⟨w, hw, hr⟩ := Option.bind_eq_some_iff.1 hf
      rw [hp, path?_eq_some_iff] at hr
      rw [hr] at hw
      exact hv path hw

end Settings

namespace Task

variable {t : Task} {world : World}

theorem backend_run (t : Task) (world : World) : (t.run world).world.backend = world.backend := by
  obtain ⟨job, analyzer⟩ := t
  cases analyzer <;> rfl

theorem run_of_unavailable (ht : t.analyzer = .embedded)
    (hb : world.backend = Embedded.unavailable) :
    t.run world = {
      result := Embedded.resultOf .unavailable, world, asked := [Embedded.request t.job] } := by
  simp only [run, ht, Analyzer.run, Embedded.run_eq, hb, Embedded.unavailable]

end Task

namespace Server

structure Event.Unequipped (e : Event) : Prop where
  unset : ∀ v, e.configuration? = some v →
    ∀ path, (Settings.part v).get? "solc" = some (.str path) → path = ""
  unavailable : ∀ world, e = .outside world → world.backend = Embedded.unavailable

namespace Run

variable {r : Run} {e : Event} {es : List Event} {t : Task}

structure Unequipped (r : Run) : Prop where
  unset : r.server.settings.solcPath? = none
  coherent : r.server.store.Coherent
  unavailable : r.world.backend = Embedded.unavailable
  embedded : ∀ t ∈ r.pending, t.analyzer = .embedded

theorem unequipped_begin (workspace : Workspace) {settings : Settings} {world : World}
    (hs : ∀ path, settings.solc = some path → path = "")
    (hb : world.backend = Embedded.unavailable) :
    (begin workspace settings world).Unequipped where
  unset := Settings.solcPath?_eq_none_iff.2 hs
  coherent := rfl
  unavailable := hb
  embedded := fun _ ht => nomatch ht

theorem backend_step (h : ∀ world, e = .outside world → world.backend = r.world.backend) :
    (r.step e).world.backend = r.world.backend := by
  have hh := happened r e
  generalize r.recorded? e = entry, r.step e = r' at hh
  cases hh with
  | server | unknown | published | silent | abandoned | stopped => rfl
  | @finished t => exact t.backend_run r.world
  | outside => exact h _ rfl

theorem solcPath?_step (h : r.server.settings.solcPath? = none) (he : e.Unequipped) :
    (r.step e).server.settings.solcPath? = none := by
  cases hc : e.configuration? with
  | none => rw [(unconfigured_step hc).1, h]
  | some v => exact Settings.solcPath?_update (configured_step hc) h (he.unset v hc)

theorem analyzer_of_unset {s : Server} (hc : s.store.Coherent)
    (h : s.settings.solcPath? = none) : s.analyzer = .embedded := by
  have ha : s.analyzer = .ofSettings s.settings := hc
  rw [ha, Analyzer.ofSettings, h]

namespace Unequipped

theorem step (h : r.Unequipped) (he : e.Unequipped) : (r.step e).Unequipped := by
  have hu : (r.step e).server.settings.solcPath? = none := solcPath?_step h.unset he
  have hc : (r.step e).server.store.Coherent := coherent_step h.coherent e
  refine ⟨hu, hc, ?_, ?_⟩
  · rw [backend_step fun w hw => (he.unavailable w hw).trans h.unavailable.symm]
    exact h.unavailable
  · intro t ht
    rcases (mem_pending_step r e).1 ht with ⟨ht, -⟩ | hq
    · exact h.embedded t ht
    · exact (snapshot_of_queued hq).analyzer.trans (analyzer_of_unset hc hu)

theorem after (h : r.Unequipped) (hes : ∀ e ∈ es, e.Unequipped) : (r.after es).Unequipped := by
  induction es generalizing r with
  | nil => exact h
  | cons e es ih =>
      obtain ⟨he, hs⟩ := List.forall_mem_cons.1 hes
      exact ih (h.step he) hs

theorem run (h : r.Unequipped) (ht : t ∈ r.pending) :
    t.run r.world = {
      result := Embedded.resultOf .unavailable, world := r.world
      asked := [Embedded.request t.job] } :=
  Task.run_of_unavailable (h.embedded t ht) h.unavailable

theorem outcome (h : r.Unequipped) (ht : t ∈ r.pending) :
    t.outcome r.world =
      ⟨t.job.id, t.job.uri, t.job.version, Embedded.resultOf .unavailable⟩ := by
  rw [Task.outcome, h.run ht]

theorem world_finish (h : r.Unequipped) {job : JobId} (ht : r.task? job = some t) :
    (r.step (.finish job)).world = r.world := by
  simp only [Run.step, ht, Run.finish, h.run (List.mem_of_find?_eq_some ht)]

theorem sent_publish_after (h : r.Unequipped) (hn : r.Numbered) {job : JobId}
    (ht : r.task? job = some t) (he : ∀ e ∈ es, e.publishes job = false) :
    (r.after (.finish job :: es ++ [.publish job])).sent = (r.after (.finish job :: es)).sent ++
      [.notice Embedded.unavailableText, .diagnostics t.job.uri t.job.version []] := by
  obtain rfl := job_of_task? ht
  have hp : t ∈ r.pending := List.mem_of_find?_eq_some ht
  have hn' : ∀ e ∈ ([] : List Event), e.ends t.job.id = false := nofun
  have hs := hn.sent_publish_after hp hn' he
  rw [after_nil, h.outcome hp] at hs
  exact hs

theorem shown_of_published (h : r.Unequipped) (hn : r.Numbered) (hu : r.unread = [])
    (hes : ∀ e ∈ es, e.Unequipped) : ∀ o ∈ r.publications es, o.shown = [] := by
  intro o hm
  have hc : o ∈ r.completions es := by
    have hp := (publications_perm hn es).subset (List.mem_append_left _ hm)
    rwa [hu, List.nil_append] at hp
  obtain ⟨fs, e, gs, rfl, hf⟩ := mem_completions hc
  obtain ⟨hf', -⟩ := List.forall_mem_append.1 hes
  obtain ⟨t, hp, -, rfl⟩ := finished_step hf
  rw [(h.after hf').outcome hp]
  rfl

theorem published (h : r.Unequipped) (hn : r.Numbered) (hu : r.unread = [])
    (hes : ∀ e ∈ es, e.Unequipped) (hs : r.sent = [])
    {uri : Url} {version : Option Int32} {ds : List Diagnostic.Published}
    (hm : .diagnostics uri version ds ∈ (r.after es).sent) : ds = [] := by
  have hf : Message.diagnostics uri version ds ∈ (r.after es).sent.filter Message.publishes :=
    List.mem_filter.2 ⟨hm, rfl⟩
  rw [publications_after, hs, List.filter_nil, List.nil_append, List.mem_map] at hf
  obtain ⟨o, ho, hd⟩ := hf
  have hs : o.shown = [] := h.shown_of_published hn hu hes o ho
  cases hd
  exact hs

end Unequipped

section Processes

def invocation? (r : Run) : Event → Option Native.Invocation
  | .finish job => (r.task? job).bind fun t => (t.run r.world).invocation
  | _ => none

def invocations (r : Run) : List Event → List Native.Invocation
  | [] => []
  | e :: es => (r.invocation? e).toList ++ (r.step e).invocations es

theorem Unequipped.invocation? (h : r.Unequipped) (e : Event) : r.invocation? e = none := by
  cases e with
  | request | notification | analyze | publish | abandon | stopWorker | outside => rfl
  | finish job =>
      rw [Run.invocation?, Option.bind_eq_none_iff]
      intro t ht
      rw [h.run (List.mem_of_find?_eq_some ht)]

theorem Unequipped.invocations (h : r.Unequipped) (hes : ∀ e ∈ es, e.Unequipped) :
    r.invocations es = [] := by
  induction es generalizing r with
  | nil => rfl
  | cons e es ih =>
      obtain ⟨he, hs⟩ := List.forall_mem_cons.1 hes
      rw [Run.invocations, h.invocation? e, ih (h.step he) hs]
      rfl

end Processes

end Run

theorem unequipped_server_finds_nothing (workspace : Workspace) (settings : Settings)
    (world : World) (es : List Event)
    (hs : ∀ path, settings.solc = some path → path = "")
    (hb : world.backend = Embedded.unavailable) (hes : ∀ e ∈ es, e.Unequipped) :
    let r := begin workspace settings world
    (∀ fs job gs t, es = fs ++ .finish job :: gs → (r.after fs).task? job = some t →
      (r.after (fs ++ [.finish job])).sent = (r.after fs).sent ∧
        (r.after (fs ++ [.finish job])).world = (r.after fs).world ∧
        ∀ hs, (∀ e ∈ hs, e.publishes job = false) →
          (r.after (fs ++ (.finish job :: hs ++ [.publish job]))).sent =
            (r.after (fs ++ .finish job :: hs)).sent ++
              [.notice Embedded.unavailableText, .diagnostics t.job.uri t.job.version []]) ∧
      (∀ uri version ds, .diagnostics uri version ds ∈ (r.after es).sent → ds = []) ∧
      r.invocations es = [] ∧
      ∀ t ∈ r.accepted es, t.analyzer = .embedded := by
  intro r
  have hr : r.Unequipped := Run.unequipped_begin workspace hs hb
  have hn : r.Numbered := Run.numbered_begin workspace settings world
  refine ⟨?_, ?_, hr.invocations hes, ?_⟩
  · intro fs job gs t heq ht
    have hf : (r.after fs).Unequipped :=
      hr.after fun e hm => hes e (heq ▸ List.mem_append_left _ hm)
    have hm : t ∈ (r.after fs).pending := List.mem_of_find?_eq_some ht
    refine ⟨?_, ?_, ?_⟩
    · obtain rfl := Run.job_of_task? ht
      rw [Run.after_append]
      exact (hn.after fs).sent_finish hm
    · rw [Run.after_append]
      exact hf.world_finish ht
    · intro hs hp
      simpa only [Run.after_append] using hf.sent_publish_after (hn.after fs) ht hp
  · intro uri version ds hm
    exact hr.published hn rfl hes rfl hm
  · intro t ht
    obtain ⟨fs, e, gs, rfl, hq⟩ := Run.mem_accepted ht
    obtain ⟨hf, hg⟩ := List.forall_mem_append.1 hes
    have hp : t ∈ ((r.after fs).step e).pending := (Run.mem_pending_step _ e).2 (.inr hq)
    exact ((hr.after hf).step (hg e List.mem_cons_self)).embedded t hp

section Plain

def plainWorld : World :=
  { bareWorld with backend := Embedded.unavailable }

def plainRun : List Event :=
  [openDraft, configure (.obj [("secbit", .obj [("solc", .str "")])]),
    configure (.obj [("solc", .int 7)]), configure (.arr [.str "/bin/solc"]),
    .analyze draft, .finish 0, .publish 0]

theorem draft_is_published_empty :
    (∀ e ∈ plainRun, e.Unequipped) ∧
      ((begin {} {} plainWorld).after plainRun).sent =
        [.notice Embedded.unavailableText, .diagnostics draft (some 1) []] ∧
      (begin {} {} plainWorld).invocations plainRun = [] := by
  have hv : plainRun.filterMap Event.configuration? =
      [.obj [("secbit", .obj [("solc", .str "")])], .obj [("solc", .int 7)]] := by rfl
  have he : ∀ e ∈ plainRun, e.Unequipped := by
    intro e hm
    constructor
    · intro v hc path hp
      have hmv : v ∈ plainRun.filterMap Event.configuration? := List.mem_filterMap.2 ⟨e, hm, hc⟩
      simp only [hv, List.mem_cons, List.not_mem_nil, or_false] at hmv
      rcases hmv with rfl | rfl
      · cases hp
        rfl
      · cases hp
    · rintro w rfl
      simp [plainRun, openDraft, configure] at hm
  have hf := unequipped_server_finds_nothing {} {} plainWorld plainRun (fun _ h => nomatch h) rfl he
  obtain ⟨hc, -, hi, -⟩ := hf
  obtain ⟨-, -, hs⟩ := hc (plainRun.take 5) 0 [.publish 0] draftTask rfl (by decide +kernel)
  exact ⟨he, hs [] nofun, hi⟩

end Plain

end Server

end ContractLint
