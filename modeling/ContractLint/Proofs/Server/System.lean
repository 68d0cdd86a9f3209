import ContractLint.Proofs.Server.Publication

namespace ContractLint

def Command.task? : Command → Option Task
  | .analyze _ task => some task
  | .shutdown => none

namespace Server

def Event.undisturbed : Event → Bool
  | .abandon _ | .stopWorker => false
  | _ => true

/-- A server beside its worker. The outcome of a task stays on its channel until the thread that was
started for it has read it. -/
structure System where
  server : Server
  world : World
  worker : Worker
  read : List Ticket
  sent : List Message

namespace System

variable {s s' : System} {es fs : List Event} {ws : List Worker.Event} {k : Ticket} {t : Task}
  {o : Outcome}

def start (workspace : Workspace) (settings : Settings) (world : World) : System where
  server := Server.start workspace settings
  world := world
  worker := Worker.new
  read := []
  sent := []

section Views

def waiting (s : System) : List Task :=
  if s.worker.stopped then [] else s.worker.queue.filterMap Command.task?

def pending (s : System) : List Task :=
  s.worker.active.map Prod.snd ++ s.waiting

def unread (s : System) : List (Ticket × Outcome) :=
  s.worker.sent.filter fun x => x.1 ∉ s.read

def view (s : System) : Run where
  server := s.server
  world := s.world
  accepting := s.worker.isOpen
  pending := s.pending
  unread := s.unread.map Prod.snd
  sent := s.sent

end Views

inductive Moves (s : System) : List Event → List Worker.Event → System → Prop where
  | served {e : Event} {st : Step} :
      s.view.serverStep? e = some st → st.queued = none →
        Moves s [e] [] { s with server := st.server, sent := s.sent ++ st.sent }
  | queued {e : Event} {st : Step} {t : Task} {worker : Worker} :
      s.view.serverStep? e = some st → st.queued = some t →
      s.worker.step? (.submit t) = some worker →
        Moves s [e] [.submit t] { s with server := st.server, worker, sent := s.sent ++ st.sent }
  | told {worker : Worker} :
      s.worker.step? .shutdown = some worker → Moves s [] [.shutdown] { s with worker }
  | left {worker : Worker} :
      s.worker.step? .disconnect = some worker →
        Moves s [.stopWorker] [.disconnect] { s with worker }
  | received {worker : Worker} :
      s.worker.step? .receive = some worker → Moves s [] [.receive] { s with worker }
  | finished {k : Ticket} {t : Task} {worker : Worker} :
      (k, t) ∈ s.worker.active → s.worker.step? (.finish k s.world) = some worker →
        Moves s [.finish k] [.finish k s.world]
          { s with worker, world := (t.run s.world).world }
  | abandoned {k : Ticket} {worker : Worker} :
      s.worker.step? (.abandon k) = some worker →
        Moves s [.abandon k] [.abandon k] { s with worker }
  | stopped {worker : Worker} :
      s.worker.step? .stop = some worker →
        Moves s (s.worker.waiting.map .abandon ++ [.stopWorker]) [.stop] { s with worker }
  | published {k : Ticket} {o : Outcome} :
      (k, o) ∈ s.unread →
        Moves s [.publish k] []
          { s with read := s.read ++ [k], sent := s.sent ++ o.messages }
  | outside {world : World} : Moves s [.outside world] [] { s with world }

inductive Runs (s : System) : List Event → List Worker.Event → System → Prop where
  | nil : Runs s [] [] s
  | snoc {es fs : List Event} {ws vs : List Worker.Event} {s' s'' : System} :
      Runs s es ws s' → Moves s' fs vs s'' → Runs s (es ++ fs) (ws ++ vs) s''

section Tickets

structure Ticketed (s : System) : Prop where
  tickets : s.worker.tickets = s.server.nextJob
  waiting : ∀ k t, .analyze k t ∈ s.worker.queue → t.job.id = k
  active : ∀ k t, (k, t) ∈ s.worker.active → t.job.id = k
  sent : ∀ k o, (k, o) ∈ s.worker.sent → o.job = k
  read : ∀ k ∈ s.read, k ∈ s.worker.sent.map Prod.fst

theorem ticketed_start (workspace : Workspace) (settings : Settings) (world : World) :
    (start workspace settings world).Ticketed where
  tickets := rfl
  waiting := by simp [start, Worker.new]
  active := by simp [start, Worker.new]
  sent := by simp [start, Worker.new]
  read := by simp [start]

variable {e : Worker.Event} {worker : Worker}

theorem tickets_step (h : Worker.Stepped s.worker e worker) (he : ∀ t, e ≠ .submit t) :
    worker.tickets = s.worker.tickets := by
  cases h with
  | submitted => exact absurd rfl (he _)
  | told | disconnected | started | dismissed | deserted | finished | abandoned | stopped => rfl

theorem Ticketed.step (ht : s.Ticketed) (h : Worker.Stepped s.worker e worker)
    (hj : ∀ t, e = .submit t → t.job.id = s.worker.tickets) (server : Server) (sent : List Message)
    (hn : worker.tickets = server.nextJob) :
    ({ s with server, worker, sent } : System).Ticketed := by
  refine ⟨hn, ?_, ?_, ?_, ?_⟩
  · intro k t hq
    rcases Worker.mem_queue_step h hq with hq | ⟨task, he, hc⟩ | hc
    · exact ht.waiting k t hq
    · cases hc
      exact hj t he
    · cases hc
  · intro k t ha
    rcases Worker.mem_active_step h ha with ha | ⟨-, -, hq⟩
    · exact ht.active k t ha
    · exact ht.waiting k t (List.mem_of_mem_head? hq)
  · intro k o ho
    rcases Worker.mem_sent_step h ho with ho | ⟨t, world, -, ha, rfl⟩
    · exact ht.sent k o ho
    · exact ht.active k t ha
  · intro k hk
    exact List.map_subset _ (Worker.sent_subset_step h) (ht.read k hk)

theorem Ticketed.work (ht : s.Ticketed) (h : s.worker.step? e = some worker)
    (he : ∀ t, e ≠ .submit t) (world : World) : ({ s with worker, world } : System).Ticketed := by
  have hs := Worker.stepped h
  have hw := ht.step hs (fun t hc => absurd hc (he t)) s.server s.sent
    ((tickets_step hs he).trans ht.tickets)
  exact ⟨hw.tickets, hw.waiting, hw.active, hw.sent, hw.read⟩

theorem nextJob_served {f : Event} {st : Step} (h : s.view.serverStep? f = some st) :
    st.server.nextJob = s.server.nextJob + st.queued.toList.length := by
  have hn := s.view.nextJob_step f
  rw [Run.step_of_serverStep h, Run.queued?_of_serverStep h] at hn
  exact hn

theorem Ticketed.submit {f : Event} {st : Step} (ht : s.Ticketed)
    (hs : s.view.serverStep? f = some st) (hq : st.queued = some t)
    (hw : s.worker.step? (.submit t) = some worker) :
    ({ s with server := st.server, worker, sent := s.sent ++ st.sent } : System).Ticketed := by
  have hj : t.job.id = s.worker.tickets := by
    rw [ht.tickets]
    exact Run.queued_number ((Run.queued?_of_serverStep hs).trans hq)
  refine ht.step (Worker.stepped hw) (fun u hu => ?_) st.server (s.sent ++ st.sent) ?_
  · cases hu
    exact hj
  · rw [nextJob_served hs, hq, ← ht.tickets]
    cases Worker.stepped hw
    rfl

theorem Ticketed.moves (ht : s.Ticketed) (h : s.Moves es ws s') : s'.Ticketed := by
  cases h with
  | served hs hq =>
      refine ⟨?_, ht.waiting, ht.active, ht.sent, ht.read⟩
      rw [nextJob_served hs, hq]
      exact ht.tickets
  | queued hs hq hw => exact ht.submit hs hq hw
  | told hw | left hw | received hw | abandoned hw | stopped hw =>
      exact ht.work hw (by intro t hc; cases hc) s.world
  | finished ha hw => exact ht.work hw (by intro t hc; cases hc) _
  | published ho =>
      refine ⟨ht.tickets, ht.waiting, ht.active, ht.sent, ?_⟩
      intro k hk
      rcases List.mem_append.1 hk with hk | hk
      · exact ht.read k hk
      · cases List.mem_singleton.1 hk
        exact List.mem_map.2 ⟨_, (List.mem_filter.1 ho).1, rfl⟩
  | outside => exact ⟨ht.tickets, ht.waiting, ht.active, ht.sent, ht.read⟩

end Tickets

section Views

theorem Ticketed.id_of_waiting (ht : s.Ticketed) (h : t ∈ s.waiting) :
    t.job.id ∈ s.worker.waiting := by
  have hq : t ∈ s.worker.queue.filterMap Command.task? := by
    rw [System.waiting] at h
    split at h
    · cases h
    · exact h
  obtain ⟨c, hc, hm⟩ := List.mem_filterMap.1 hq
  cases c with
  | shutdown => cases hm
  | analyze k u =>
      cases hm
      exact List.mem_filterMap.2 ⟨_, hc, congrArg some (ht.waiting k t hc).symm⟩

theorem Ticketed.pending_without (ht : s.Ticketed) (h : k ∉ s.worker.waiting) :
    (s.pending.filter fun t => t.job.id != k) =
      (s.worker.drop k).active.map Prod.snd ++ s.waiting := by
  have hw : (s.waiting.filter fun t => t.job.id != k) = s.waiting := by
    rw [List.filter_eq_self]
    intro t hm
    have hj : t.job.id ≠ k := fun hj => h (hj ▸ ht.id_of_waiting hm)
    simp [hj]
  have ha : s.worker.active.filter ((fun t => t.job.id != k) ∘ Prod.snd) =
      s.worker.active.filter fun x => x.1 != k := by
    refine List.filter_congr fun x hx => ?_
    rw [Function.comp_apply, ht.active x.1 x.2 hx]
  rw [pending, List.filter_append, hw, List.filter_map, ha]
  rfl

theorem Ticketed.unread_without (ht : s.Ticketed) (k : Ticket) :
    ((s.unread.map Prod.snd).filter fun o => o.job != k) =
      (s.worker.sent.filter fun x => x.1 ∉ s.read ++ [k]).map Prod.snd := by
  have hu : s.unread.filter ((fun o => o.job != k) ∘ Prod.snd) =
      s.unread.filter fun x => x.1 != k := by
    refine List.filter_congr fun x hx => ?_
    rw [Function.comp_apply, ht.sent x.1 x.2 (List.mem_filter.1 hx).1]
  rw [List.filter_map, hu, unread, List.filter_filter]
  congr 2
  funext x
  by_cases hk : x.1 = k <;> simp [hk]

theorem Ticketed.unread_sent (ht : s.Ticketed) (h : k ∉ s.worker.sent.map Prod.fst)
    (o : Outcome) :
    ((s.worker.sent ++ [(k, o)]).filter fun x => x.1 ∉ s.read).map Prod.snd =
      s.unread.map Prod.snd ++ [o] := by
  have hr : k ∉ s.read := fun hr => h (ht.read k hr)
  rw [List.filter_append, List.map_append]
  simp [hr, unread]

end Views

section Matching

variable {e : Event} {st : Step} {worker : Worker}

theorem view_served (hs : s.view.serverStep? e = some st) (hq : st.queued = none) :
    ({ s with server := st.server, sent := s.sent ++ st.sent } : System).view =
      s.view.step e := by
  rw [Run.step_of_serverStep hs, Run.take, hq, Option.toList_none, List.append_nil]
  rfl

theorem view_queued (hs : s.view.serverStep? e = some st) (hq : st.queued = some t)
    (hw : s.worker.step? (.submit t) = some worker) :
    ({ s with server := st.server, worker, sent := s.sent ++ st.sent } : System).view =
      s.view.step e := by
  simp only [Worker.step?, Option.ite_none_right_eq_some, Option.some.injEq] at hw
  obtain ⟨ho, rfl⟩ := hw
  have hk : s.worker.stopped = false := by
    simp only [Worker.isOpen, Bool.and_eq_true, Bool.not_eq_true'] at ho
    exact ho.2
  rw [Run.step_of_serverStep hs, Run.take, hq]
  simp [view, pending, waiting, hk, Worker.send, Worker.isOpen, Command.task?, unread]

theorem view_told (hw : s.worker.step? .shutdown = some worker) :
    ({ s with worker } : System).view = s.view := by
  cases Worker.stepped hw
  simp [view, pending, waiting, Worker.send, Worker.isOpen, List.filterMap_cons, Command.task?,
    unread]

theorem view_left (hw : s.worker.step? .disconnect = some worker) :
    ({ s with worker } : System).view = s.view.step .stopWorker := by
  cases Worker.stepped hw
  rfl

theorem view_received (hi : s.worker.Idle) (hw : s.worker.step? .receive = some worker) :
    ({ s with worker } : System).view = s.view := by
  cases Worker.stepped hw with
  | @started k t rest hc hq =>
      have hk : s.worker.stopped = false := by
        by_contra hk
        rw [(hi (by simpa using hk)).1] at hc
        cases hc
      simp [view, pending, waiting, hk, Worker.activate, Worker.isOpen, hq, Command.task?, unread]
  | dismissed hc hq =>
      simp [view, pending, waiting, Worker.isOpen, hq, List.filterMap_cons, Command.task?, unread]
  | deserted hc hq => rfl

theorem task?_of_active (ht : s.Ticketed) (hn : s.view.Numbered) (ha : (k, t) ∈ s.worker.active) :
    s.view.task? k = some t := by
  have hm : t ∈ s.view.pending := List.mem_append_left _ (List.mem_map.2 ⟨_, ha, rfl⟩)
  have hj := hn.task?_of_mem hm
  rwa [ht.active k t ha] at hj

theorem view_finished (ht : s.Ticketed) (hn : s.view.Numbered) (hw : s.worker.Numbered)
    (ha : (k, t) ∈ s.worker.active) (hf : s.worker.step? (.finish k s.world) = some worker) :
    ({ s with worker, world := (t.run s.world).world } : System).view =
      s.view.step (.finish k) := by
  cases Worker.stepped hf with
  | @finished _ u _ hu =>
      cases hw.task_unique ha (Worker.mem_active_of_taskUnder? hu)
      have hp := ht.pending_without (hw.not_waiting_of_active ha)
      have hs := ht.unread_sent (hw.not_sent_of_active ha) (t.outcome s.world)
      have hr : s.view.step (.finish k) = s.view.finish t := by
        simp only [Run.step, task?_of_active ht hn ha]
      rw [hr, Run.finish, ht.active k t ha]
      simp only [Run.without, view, hp, ← hs]
      rfl

theorem view_abandoned (ht : s.Ticketed) (hw : s.worker.Numbered)
    (hb : s.worker.step? (.abandon k) = some worker) :
    ({ s with worker } : System).view = s.view.step (.abandon k) := by
  cases Worker.stepped hb with
  | @abandoned _ t _ hu =>
      have hp := ht.pending_without (hw.not_waiting_of_active (Worker.mem_active_of_taskUnder? hu))
      simp only [Run.step, Run.without, view, hp]
      rfl

theorem view_published (ht : s.Ticketed) (hn : s.view.Numbered) (ho : (k, o) ∈ s.unread) :
    ({ s with read := s.read ++ [k], sent := s.sent ++ o.messages } : System).view =
      s.view.step (.publish k) := by
  have hm : o ∈ s.view.unread := List.mem_map.2 ⟨_, ho, rfl⟩
  have hk : o.job = k := ht.sent k o (List.mem_filter.1 ho).1
  have hu := hn.outcome?_of_mem hm
  rw [hk] at hu
  simp only [Run.step, hu, Run.publish, hk]
  rw [view, view, ht.unread_without k]
  rfl

theorem after_abandon (r : Run) {jobs : List JobId} (h : ∀ t ∈ r.pending, t.job.id ∈ jobs) :
    r.after (jobs.map .abandon) = { r with pending := [] } := by
  induction jobs generalizing r with
  | nil =>
      have hp : r.pending = [] := List.eq_nil_iff_forall_not_mem.2 fun t ht => nomatch h t ht
      rw [List.map_nil, Run.after_nil, ← hp]
  | cons job jobs ih =>
      have hj : ∀ t ∈ (r.step (.abandon job)).pending, t.job.id ∈ jobs := by
        intro t ht
        obtain ⟨hm, hne⟩ := List.mem_filter.1 ht
        exact (List.mem_cons.1 (h t hm)).resolve_left (by simpa using hne)
      rw [List.map_cons, Run.after_cons, ih _ hj]
      rfl

theorem view_stopped (ht : s.Ticketed) (hk : s.worker.step? .stop = some worker) :
    ({ s with worker } : System).view =
      s.view.after (s.worker.waiting.map .abandon ++ [.stopWorker]) := by
  cases Worker.stepped hk with
  | stopped hc ha =>
      have hp : ∀ t ∈ s.view.pending, t.job.id ∈ s.worker.waiting := by
        intro t hm
        rcases List.mem_append.1 hm with hm | hm
        · rw [ha] at hm
          cases hm
        · exact ht.id_of_waiting hm
      rw [Run.after_append, after_abandon s.view hp]
      simp [view, pending, waiting, ha, Worker.isOpen, Run.after, Run.step, unread]

end Matching

section Refinement

variable {workspace : Workspace} {settings : Settings} {world : World}

theorem Moves.view_eq (ht : s.Ticketed) (hn : s.view.Numbered) (hw : s.worker.Numbered)
    (hi : s.worker.Idle) (h : s.Moves es ws s') : s'.view = s.view.after es := by
  cases h with
  | served hs hq => exact view_served hs hq
  | queued hs hq hw => exact view_queued hs hq hw
  | told hw => exact view_told hw
  | left hw => exact view_left hw
  | received hw => exact view_received hi hw
  | finished ha hf => exact view_finished ht hn hw ha hf
  | abandoned hb => exact view_abandoned ht hw hb
  | stopped hk => exact view_stopped ht hk
  | published ho => exact view_published ht hn ho
  | outside => rfl

theorem Moves.worker_eq (h : s.Moves es ws s') : s.worker.run? ws = some s'.worker := by
  cases h with
  | served | published | outside => rfl
  | queued _ _ hw => exact Worker.run?_singleton hw
  | told hw | left hw | received hw | abandoned hw | stopped hw => exact Worker.run?_singleton hw
  | finished _ hw => exact Worker.run?_singleton hw

theorem history_abandon (r : Run) (jobs : List JobId) :
    r.history (jobs.map .abandon ++ [.stopWorker]) = [] := by
  induction jobs generalizing r with
  | nil => rfl
  | cons job jobs ih => exact ih (r.step (.abandon job))

structure Tells (s s' : System) (entries : List Entry) : Prop where
  finished : s'.worker.sent.map Prod.snd =
    s.worker.sent.map Prod.snd ++ entries.filterMap Entry.finished?
  published : s'.read = s.read ++ (entries.filterMap Entry.published?).map Outcome.job

theorem Tells.of_eq {entries : List Entry} (hs : s'.worker.sent = s.worker.sent)
    (hr : s'.read = s.read) (hf : entries.filterMap Entry.finished? = [])
    (hp : entries.filterMap Entry.published? = []) : Tells s s' entries := by
  constructor
  · rw [hs, hf, List.append_nil]
  · rw [hr, hp, List.map_nil, List.append_nil]

theorem Moves.tells (ht : s.Ticketed) (hn : s.view.Numbered) (hw : s.worker.Numbered)
    (h : s.Moves es ws s') : Tells s s' (s.view.history es) := by
  cases h with
  | served hs =>
      rw [Run.history_singleton, Run.recorded_of_serverStep hs]
      exact .of_eq rfl rfl rfl rfl
  | queued hs _ hk =>
      rw [Run.history_singleton, Run.recorded_of_serverStep hs]
      cases Worker.stepped hk
      exact .of_eq rfl rfl rfl rfl
  | told hk | left hk | abandoned hk =>
      cases Worker.stepped hk
      exact .of_eq rfl rfl rfl rfl
  | received hk => cases Worker.stepped hk <;> exact .of_eq rfl rfl rfl rfl
  | stopped hk =>
      rw [history_abandon]
      cases Worker.stepped hk
      exact .of_eq rfl rfl rfl rfl
  | @finished k t _ ha hf =>
      rw [Run.history_singleton, Run.recorded?, task?_of_active ht hn ha]
      cases Worker.stepped hf with
      | @finished _ u _ hu =>
          cases hw.task_unique ha (Worker.mem_active_of_taskUnder? hu)
          exact ⟨List.map_append, (List.append_nil _).symm⟩
  | @published k o ho =>
      have hj : o.job = k := ht.sent k o (List.mem_filter.1 ho).1
      have hu := hn.outcome?_of_mem (List.mem_map.2 ⟨_, ho, rfl⟩)
      rw [hj] at hu
      rw [Run.history_singleton, Run.recorded?, hu]
      exact ⟨(List.append_nil _).symm, by rw [← hj]; rfl⟩
  | outside => exact .of_eq rfl rfl rfl rfl

structure Refined (workspace : Workspace) (settings : Settings) (world : World) (es : List Event)
    (ws : List Worker.Event) (s : System) : Prop where
  view : s.view = (begin workspace settings world).after es
  worker : Worker.new.run? ws = some s.worker
  finished : s.worker.sent.map Prod.snd = (begin workspace settings world).completions es
  published : s.read = ((begin workspace settings world).publications es).map Outcome.job
  ticketed : s.Ticketed

theorem Refined.moves {vs : List Worker.Event} (hr : Refined workspace settings world es ws s)
    (h : s.Moves fs vs s') : Refined workspace settings world (es ++ fs) (ws ++ vs) s' := by
  have hn : s.view.Numbered := hr.view ▸ (Run.numbered_begin workspace settings world).after es
  have hw : s.worker.Numbered := Worker.numbered_run hr.worker
  obtain ⟨hf, hp⟩ := h.tells hr.ticketed hn hw
  refine ⟨?_, ?_, ?_, ?_, hr.ticketed.moves h⟩
  · rw [h.view_eq hr.ticketed hn hw (Worker.idle_run hr.worker), hr.view, Run.after_append]
  · rw [Worker.run?_append, hr.worker]
    exact h.worker_eq
  · rw [hf, hr.finished, hr.view, Run.completions, Run.completions, Run.history_append,
      List.filterMap_append]
  · rw [hp, hr.published, hr.view, Run.publications, Run.publications, Run.history_append,
      List.filterMap_append, List.map_append]

theorem refined_of_runs (h : (start workspace settings world).Runs es ws s) :
    Refined workspace settings world es ws s := by
  induction h with
  | nil => exact ⟨rfl, rfl, rfl, rfl, ticketed_start workspace settings world⟩
  | snoc _ hm ih => exact ih.moves hm

end Refinement

section Realization

variable {s'' : System} {vs : List Worker.Event} {e : Event}

structure Ready (s : System) : Prop where
  isOpen : s.worker.isOpen = true
  serving : s.worker.cancelled = false
  taken : s.worker.queue = []

theorem Runs.single (h : s.Moves es ws s') : s.Runs es ws s' :=
  .snoc .nil h

theorem Runs.trans (h : s.Runs es ws s') (h' : s'.Runs fs vs s'') :
    s.Runs (es ++ fs) (ws ++ vs) s'' := by
  induction h' with
  | nil => simpa using h
  | snoc _ hm ih =>
      rw [← List.append_assoc, ← List.append_assoc]
      exact .snoc ih hm

def Realizes (s : System) (e : Event) : Prop :=
  ∃ fs ws s', s.Runs fs ws s' ∧ s'.Ready ∧ s'.view = s.view.step e ∧
    s.view.history fs = s.view.history [e]

theorem realizes_idle (hr : s.Ready) (hs : s.view.step e = s.view)
    (he : s.view.recorded? e = none) : s.Realizes e := by
  refine ⟨[], [], s, .nil, hr, hs.symm, ?_⟩
  rw [Run.history_singleton, he]
  rfl

theorem Ready.idle (hr : s.Ready) : s.worker.Idle := by
  intro hs
  have ho := hr.isOpen
  rw [Worker.isOpen, hs, Bool.not_true, Bool.and_false] at ho
  cases ho

theorem realizes_served {st : Step} (hr : s.Ready) (hs : s.view.serverStep? e = some st) :
    s.Realizes e := by
  cases hq : st.queued with
  | none =>
      exact ⟨[e], [], _, .single (.served hs hq), ⟨hr.isOpen, hr.serving, hr.taken⟩,
        view_served hs hq, rfl⟩
  | some t =>
      let sent : Worker :=
        { s.worker.send (.analyze s.worker.tickets t) with tickets := s.worker.tickets + 1 }
      have hw : s.worker.step? (.submit t) = some sent := if_pos hr.isOpen
      have hi : sent.Idle := fun h => hr.idle h
      have hv : sent.step? .receive =
          some ({ sent with queue := [] }.activate s.worker.tickets t) := by
        simp [sent, Worker.step?, Worker.receive?, Worker.send, hr.serving, hr.taken]
      let taking : System := { s with server := st.server, worker := sent, sent := s.sent ++ st.sent }
      have hm : s.Moves [e] [.submit t] taking := .queued hs hq hw
      have ht : taking.view = s.view.step e := view_queued hs hq hw
      exact ⟨[e], [.submit t, .receive], _, .snoc (.single hm) (.received hv),
        ⟨hr.isOpen, hr.serving, rfl⟩, (view_received (s := taking) hi hv).trans ht, rfl⟩

theorem realizes_finish {job : JobId} (ht : s.Ticketed) (hn : s.view.Numbered)
    (hw : s.worker.Numbered) (hr : s.Ready) : s.Realizes (.finish job) := by
  cases h : s.view.task? job with
  | none =>
      refine realizes_idle hr ?_ ?_
      · simp only [Run.step, h]
      · rw [Run.recorded?, h, Option.map_none]
  | some t =>
      obtain rfl := Run.job_of_task? h
      have hm : t ∈ s.worker.active.map Prod.snd := by
        simpa [view, pending, waiting, hr.taken] using List.mem_of_find?_eq_some h
      obtain ⟨⟨k, u⟩, ha, rfl⟩ := List.mem_map.1 hm
      obtain rfl := ht.active k u ha
      have hf : s.worker.step? (.finish u.job.id s.world) = some
          { s.worker.drop u.job.id with
            sent := s.worker.sent ++ [(u.job.id, u.outcome s.world)] } :=
        Option.map_eq_some_iff.2 ⟨u, hw.taskUnder?_of_mem ha, rfl⟩
      exact ⟨[.finish u.job.id], [.finish u.job.id s.world], _, .single (.finished ha hf),
        ⟨hr.isOpen, hr.serving, hr.taken⟩, view_finished ht hn hw ha hf, rfl⟩

theorem realizes_publish {job : JobId} (ht : s.Ticketed) (hn : s.view.Numbered)
    (hr : s.Ready) : s.Realizes (.publish job) := by
  cases h : s.view.outcome? job with
  | none =>
      refine realizes_idle hr ?_ ?_
      · simp only [Run.step, h]
      · rw [Run.recorded?, h, Option.map_none]
  | some o =>
      obtain rfl := Run.job_of_outcome? h
      obtain ⟨⟨k, p⟩, ho, rfl⟩ := List.mem_map.1 (List.mem_of_find?_eq_some h)
      obtain rfl := ht.sent k p (List.mem_filter.1 ho).1
      exact ⟨[.publish p.job], [], _, .single (.published ho),
        ⟨hr.isOpen, hr.serving, hr.taken⟩, view_published ht hn ho, rfl⟩

theorem realizes (ht : s.Ticketed) (hn : s.view.Numbered) (hw : s.worker.Numbered)
    (hr : s.Ready) (he : e.undisturbed = true) : s.Realizes e := by
  cases e with
  | request | notification | analyze => exact realizes_served hr rfl
  | finish => exact realizes_finish ht hn hw hr
  | publish => exact realizes_publish ht hn hr
  | outside world =>
      exact ⟨[.outside world], [], _, .single .outside, ⟨hr.isOpen, hr.serving, hr.taken⟩, rfl, rfl⟩
  | abandon | stopWorker => cases he

end Realization

end System

/-- However the worker and the threads that read its outcomes take turns, each outcome is published
by its thread, once, or is still on its channel. -/
theorem threads_publish_each_outcome_once {workspace : Workspace} {settings : Settings}
    {world : World} {es : List Event} {ws : List Worker.Event} {s : System}
    (h : (System.start workspace settings world).Runs es ws s) :
    ∃ os : List Outcome, s.sent.filter Message.publishes = os.map Outcome.publication ∧
      s.read = os.map Outcome.job ∧
      (os ++ s.unread.map Prod.snd).Perm (s.worker.sent.map Prod.snd) ∧
      ∀ k, s.worker.outcomes k = (begin workspace settings world).outcomes es k := by
  have hr := System.refined_of_runs h
  have hn : (begin workspace settings world).Numbered :=
    Run.numbered_begin workspace settings world
  have hs : s.sent = ((begin workspace settings world).after es).sent :=
    congrArg Run.sent hr.view
  have hu : s.unread.map Prod.snd = ((begin workspace settings world).after es).unread :=
    congrArg Run.unread hr.view
  refine ⟨(begin workspace settings world).publications es, ?_, hr.published, ?_, ?_⟩
  · rw [hs]
    exact publications_after _ es
  · rw [hu, hr.finished]
    exact Run.publications_perm hn es
  · intro k
    have hk : s.worker.sent.filter ((fun o => o.job = k) ∘ Prod.snd) =
        s.worker.sent.filter fun x => x.1 = k := by
      refine List.filter_congr fun x hx => ?_
      rw [Function.comp_apply, hr.ticketed.sent x.1 x.2 hx]
    rw [Run.outcomes, ← hr.finished, List.filter_map, Worker.outcomes, ← hk]

theorem each_undisturbed_run_is_one_of_threads (workspace : Workspace) (settings : Settings)
    (world : World) (es : List Event) (h : ∀ e ∈ es, e.undisturbed = true) :
    let r := begin workspace settings world
    ∃ fs ws s, (System.start workspace settings world).Runs fs ws s ∧ s.Ready ∧
      s.view = r.after es ∧ r.history fs = r.history es := by
  intro r
  induction es using List.reverseRecOn with
  | nil => exact ⟨[], [], _, .nil, ⟨rfl, rfl, rfl⟩, rfl, rfl⟩
  | append_singleton es e ih =>
      obtain ⟨hes, he⟩ := List.forall_mem_append.1 h
      obtain ⟨fs, ws, s, hs, hr, hv, hh⟩ := ih hes
      have hf := System.refined_of_runs hs
      have hn : s.view.Numbered := hv ▸ (Run.numbered_begin workspace settings world).after es
      obtain ⟨gs, vs, s', hs', hr', hv', hh'⟩ := System.realizes hf.ticketed hn
        (Worker.numbered_run hf.worker) hr (he e (List.mem_singleton.2 rfl))
      refine ⟨fs ++ gs, ws ++ vs, s', hs.trans hs', hr', ?_, ?_⟩
      · rw [hv', hv, Run.after_append]
        rfl
      · rw [Run.history_append, Run.history_append, hh, ← hf.view, hh', hv]

end Server

end ContractLint
