import ContractLint.Proofs.Analysis.Outcomes
import ContractLint.Proofs.Server.Store

namespace ContractLint

namespace Outcome

def shown (o : Outcome) : List Diagnostic.Published :=
  match o.result with
  | .ok fs => (Diagnostic.normalize .builtin fs).map Diagnostic.publish
  | .error _ => []

def notice? (o : Outcome) : Option String :=
  match o.result with
  | .ok _ => none
  | .error failure => failure.notice?

def publication (o : Outcome) : Message :=
  .diagnostics o.uri o.version o.shown

theorem messages_eq (o : Outcome) :
    o.messages = (o.notice?.map Message.notice).toList ++ [o.publication] := by
  obtain ⟨job, uri, version, result⟩ := o
  cases result <;> rfl

end Outcome

namespace Server

inductive Entry where
  | step (st : Step)
  | finished (o : Outcome)
  | published (o : Outcome)

namespace Entry

def messages : Entry → List Message
  | .step st => st.sent
  | .finished _ => []
  | .published o => o.messages

def queued? : Entry → Option Task
  | .step st => st.queued
  | .finished _ | .published _ => none

def finished? : Entry → Option Outcome
  | .finished o => some o
  | .step _ | .published _ => none

def published? : Entry → Option Outcome
  | .published o => some o
  | .step _ | .finished _ => none

end Entry

namespace Event

def ends : Event → JobId → Bool
  | .finish job, id => id == job
  | .abandon job, id => id == job
  | _, _ => false

def publishes : Event → JobId → Bool
  | .publish job, id => id == job
  | _, _ => false

end Event

namespace Run

variable {r : Run} {e : Event} {es : List Event} {t : Task} {o : Outcome}

section Entries

def recorded? (r : Run) : Event → Option Entry
  | .finish job => (r.task? job).map fun t => .finished (t.outcome r.world)
  | .publish job => (r.outcome? job).map .published
  | e => (r.serverStep? e).map .step

inductive Happened (r : Run) : Event → Option Entry → Run → Prop where
  | server {e : Event} {st : Step} :
      r.serverStep? e = some st → Happened r e (some (.step st)) (r.take st)
  | finished {t : Task} :
      r.task? t.job.id = some t →
        Happened r (.finish t.job.id) (some (.finished (t.outcome r.world))) (r.finish t)
  | unknown {job : JobId} : r.task? job = none → Happened r (.finish job) none r
  | published {o : Outcome} :
      r.outcome? o.job = some o →
        Happened r (.publish o.job) (some (.published o)) (r.publish o)
  | silent {job : JobId} : r.outcome? job = none → Happened r (.publish job) none r
  | abandoned {job : JobId} : Happened r (.abandon job) none (r.without job)
  | stopped : Happened r .stopWorker none { r with accepting := false }
  | outside {world : World} : Happened r (.outside world) none { r with world }

theorem job_of_task? {job : JobId} (h : r.task? job = some t) : t.job.id = job := by
  simpa using List.find?_some h

theorem job_of_outcome? {job : JobId} (h : r.outcome? job = some o) : o.job = job := by
  simpa using List.find?_some h

theorem happened (r : Run) (e : Event) : Happened r e (r.recorded? e) (r.step e) := by
  cases e with
  | request | notification | analyze => exact .server rfl
  | finish job =>
      cases h : r.task? job with
      | none =>
          simp only [recorded?, step, h]
          exact .unknown h
      | some t =>
          have hj := job_of_task? h
          subst hj
          simp only [recorded?, step, h]
          exact .finished h
  | publish job =>
      cases h : r.outcome? job with
      | none =>
          simp only [recorded?, step, h]
          exact .silent h
      | some o =>
          have hj := job_of_outcome? h
          subst hj
          simp only [recorded?, step, h]
          exact .published h
  | abandon job => exact .abandoned
  | stopWorker => exact .stopped
  | outside world => exact .outside

end Entries

section Steps

def queued? (r : Run) (e : Event) : Option Task :=
  (r.recorded? e).bind Entry.queued?

def finished? (r : Run) (e : Event) : Option Outcome :=
  (r.recorded? e).bind Entry.finished?

def published? (r : Run) (e : Event) : Option Outcome :=
  (r.recorded? e).bind Entry.published?

theorem queued?_eq (r : Run) (e : Event) : r.queued? e = (r.tries? e).bind Attempt.queued := by
  have h := happened r e
  simp only [queued?]
  generalize r.recorded? e = entry, r.step e = r' at h
  cases h with
  | server hs =>
      obtain ⟨answer, -, rfl⟩ := serverStep_eq_tried hs
      rfl
  | finished | unknown | published | silent | abandoned | stopped | outside => rfl

theorem recorded_of_serverStep {st : Step} (h : r.serverStep? e = some st) :
    r.recorded? e = some (.step st) := by
  cases e with
  | request | notification | analyze => cases h; rfl
  | finish | publish | abandon | stopWorker | outside => cases h

theorem queued?_of_serverStep {st : Step} (h : r.serverStep? e = some st) :
    r.queued? e = st.queued := by
  rw [queued?, recorded_of_serverStep h]
  rfl

theorem queued_number (h : r.queued? e = some t) : t.job.id = r.server.nextJob := by
  rw [queued?_eq, Option.bind_eq_some_iff] at h
  obtain ⟨a, ha, hq⟩ := h
  obtain ⟨uri, -, rfl⟩ := Option.map_eq_some_iff.1 ha
  obtain ⟨text, version, -, rfl⟩ := attempt_queued hq
  rfl

theorem sent_step (r : Run) (e : Event) :
    (r.step e).sent = r.sent ++ (r.recorded? e).toList.flatMap Entry.messages := by
  have h := happened r e
  generalize r.recorded? e = entry, r.step e = r' at h
  cases h with
  | server => simp [take, Entry.messages]
  | finished => simp [finish, without, Entry.messages]
  | published => simp [publish, Entry.messages]
  | unknown | silent | abandoned | stopped | outside => simp [without]

theorem nextJob_count (s : Server) (q : Option Task) :
    (s.count q).nextJob = s.nextJob + q.toList.length := by
  cases q <;> rfl

theorem nextJob_step (r : Run) (e : Event) :
    (r.step e).server.nextJob = r.server.nextJob + (r.queued? e).toList.length := by
  have h := happened r e
  simp only [queued?]
  generalize r.recorded? e = entry, r.step e = r' at h
  cases h with
  | server hs =>
      obtain ⟨answer, -, rfl⟩ := serverStep_eq_tried hs
      exact nextJob_count _ _
  | finished | unknown | published | silent | abandoned | stopped | outside => rfl

theorem answer_cases {answer : Option Message} {asked : Option RequestId}
    (h : answer.map Message.answers? = asked.map some) :
    (answer = none ∧ asked = none) ∨
      ∃ m id, answer = some m ∧ asked = some id ∧ m.answers? = some id := by
  cases answer with
  | none =>
      cases asked with
      | none => exact .inl ⟨rfl, rfl⟩
      | some id => cases h
  | some m =>
      cases asked with
      | none => cases h
      | some id => exact .inr ⟨m, id, rfl, rfl, Option.some.inj h⟩

theorem filterMap_sent_of_serverStep {α : Type} {st : Step} (f : Message → Option α)
    (hf : ∀ text, f (.notice text) = none) (h : r.serverStep? e = some st) :
    ∃ answer : Option Message,
      answer.map Message.answers? = e.request?.map some ∧
        st.sent.filterMap f = answer.toList.filterMap f := by
  obtain ⟨answer, ha, rfl⟩ := serverStep_eq_tried h
  refine ⟨answer, ha, ?_⟩
  have hn : ∀ a : Attempt, a.notices.filterMap f = [] := by
    intro a
    rw [Attempt.notices, List.filterMap_map, List.filterMap_eq_nil_iff]
    exact fun tag _ => hf _
  simp only [tried, List.filterMap_append]
  cases r.tries? e with
  | none => rfl
  | some a => simp [hn a]

def outlasting (r : Run) (e : Event) : List Task :=
  r.pending.filter fun t => !e.ends t.job.id

theorem mem_outlasting : t ∈ r.outlasting e ↔ t ∈ r.pending ∧ e.ends t.job.id = false := by
  simp [outlasting]

theorem outlasting_eq_pending (h : ∀ t ∈ r.pending, e.ends t.job.id = false) :
    r.outlasting e = r.pending :=
  filter_spared h

theorem outlasting_of_unknown {job : JobId} (h : r.task? job = none) :
    r.outlasting (.finish job) = r.pending :=
  outlasting_eq_pending (spared_of_find? h)

theorem ends_of_serverStep {st : Step} (h : r.serverStep? e = some st) (job : JobId) :
    e.ends job = false := by
  cases e with
  | request | notification | analyze => rfl
  | finish | publish | abandon | stopWorker | outside => cases h

theorem pending_step (r : Run) (e : Event) :
    (r.step e).pending = r.outlasting e ++ (r.queued? e).toList := by
  have h := happened r e
  simp only [queued?]
  generalize r.recorded? e = entry, r.step e = r' at h
  cases h with
  | server hs =>
      rw [outlasting_eq_pending fun t _ => ends_of_serverStep hs t.job.id]
      rfl
  | finished | abandoned => exact (List.append_nil _).symm
  | unknown hu =>
      rw [outlasting_of_unknown hu]
      exact (List.append_nil _).symm
  | published | silent | stopped | outside =>
      rw [outlasting_eq_pending fun _ _ => rfl]
      exact (List.append_nil _).symm

def remaining (r : Run) (e : Event) : List Outcome :=
  r.unread.filter fun o => !e.publishes o.job

theorem mem_remaining : o ∈ r.remaining e ↔ o ∈ r.unread ∧ e.publishes o.job = false := by
  simp [remaining]

theorem remaining_eq_unread (h : ∀ o ∈ r.unread, e.publishes o.job = false) :
    r.remaining e = r.unread :=
  filter_spared h

theorem remaining_of_silent {job : JobId} (h : r.outcome? job = none) :
    r.remaining (.publish job) = r.unread :=
  remaining_eq_unread (spared_of_find? h)

theorem publishes_of_serverStep {st : Step} (h : r.serverStep? e = some st) (job : JobId) :
    e.publishes job = false := by
  cases e with
  | request | notification | analyze => rfl
  | finish | publish | abandon | stopWorker | outside => cases h

theorem unread_step (r : Run) (e : Event) :
    (r.step e).unread = r.remaining e ++ (r.finished? e).toList := by
  have h := happened r e
  simp only [finished?]
  generalize r.recorded? e = entry, r.step e = r' at h
  cases h with
  | server hs =>
      rw [remaining_eq_unread fun o _ => publishes_of_serverStep hs o.job]
      exact (List.append_nil _).symm
  | published => exact (List.append_nil _).symm
  | silent hu =>
      rw [remaining_of_silent hu]
      exact (List.append_nil _).symm
  | finished =>
      rw [remaining_eq_unread fun _ _ => rfl]
      rfl
  | unknown | abandoned | stopped | outside =>
      rw [remaining_eq_unread fun _ _ => rfl]
      exact (List.append_nil _).symm

theorem finished_step (h : r.finished? e = some o) :
    ∃ t ∈ r.pending, e = .finish t.job.id ∧ o = t.outcome r.world := by
  have hh := happened r e
  simp only [finished?] at h
  generalize r.recorded? e = entry, r.step e = r' at h hh
  cases hh with
  | @finished t ht =>
      cases h
      exact ⟨t, List.mem_of_find?_eq_some ht, rfl, rfl⟩
  | server | unknown | published | silent | abandoned | stopped | outside => cases h

theorem ends_of_finished (h : r.finished? e = some o) : e.ends o.job = true := by
  obtain ⟨t, -, rfl, rfl⟩ := finished_step h
  exact BEq.rfl

theorem published_step (h : r.published? e = some o) : e = .publish o.job ∧ o ∈ r.unread := by
  have hh := happened r e
  simp only [published?] at h
  generalize r.recorded? e = entry, r.step e = r' at h hh
  cases hh with
  | @published o ho =>
      cases h
      exact ⟨rfl, List.mem_of_find?_eq_some ho⟩
  | server | finished | unknown | silent | abandoned | stopped | outside => cases h

end Steps

section Numbers

structure Numbered (r : Run) : Prop where
  distinct : (r.pending.map fun t => t.job.id).Nodup
  single : (r.unread.map fun o => o.job).Nodup
  apart : ∀ t ∈ r.pending, ∀ o ∈ r.unread, o.job ≠ t.job.id
  below : ∀ t ∈ r.pending, t.job.id < r.server.nextJob
  spent : ∀ o ∈ r.unread, o.job < r.server.nextJob

theorem numbered_begin (workspace : Workspace) (settings : Settings) (world : World) :
    (begin workspace settings world).Numbered where
  distinct := .nil
  single := .nil
  apart := by simp [begin]
  below := by simp [begin]
  spent := by simp [begin]

theorem mem_pending_step (r : Run) (e : Event) :
    t ∈ (r.step e).pending ↔
      (t ∈ r.pending ∧ e.ends t.job.id = false) ∨ r.queued? e = some t := by
  rw [pending_step, List.mem_append, mem_outlasting, Option.mem_toList]

theorem mem_unread_step (r : Run) (e : Event) :
    o ∈ (r.step e).unread ↔
      (o ∈ r.unread ∧ e.publishes o.job = false) ∨ r.finished? e = some o := by
  rw [unread_step, List.mem_append, mem_remaining, Option.mem_toList]

theorem nextJob_le_step (r : Run) (e : Event) :
    r.server.nextJob ≤ (r.step e).server.nextJob := by
  rw [nextJob_step]
  exact Nat.le_add_right _ _

namespace Numbered

theorem spent_finished (hn : r.Numbered) (h : r.finished? e = some o) :
    o.job < r.server.nextJob := by
  obtain ⟨t, ht, -, rfl⟩ := finished_step h
  exact hn.below t ht

theorem distinct_step (hn : r.Numbered) (e : Event) :
    ((r.step e).pending.map fun t => t.job.id).Nodup := by
  have hs : (r.outlasting e).Sublist r.pending := List.filter_sublist
  rw [pending_step, List.map_append, List.nodup_append]
  refine ⟨hn.distinct.sublist (hs.map _), ?_, ?_⟩
  · cases r.queued? e <;> simp
  · intro i hi j hj
    obtain ⟨t, ht, rfl⟩ := List.mem_map.1 hi
    obtain ⟨q, hq, rfl⟩ := List.mem_map.1 hj
    rw [queued_number (Option.mem_toList.1 hq)]
    exact Nat.ne_of_lt (hn.below t (hs.subset ht))

theorem single_step (hn : r.Numbered) (e : Event) :
    ((r.step e).unread.map fun o => o.job).Nodup := by
  have hs : (r.remaining e).Sublist r.unread := List.filter_sublist
  rw [unread_step, List.map_append, List.nodup_append]
  refine ⟨hn.single.sublist (hs.map _), ?_, ?_⟩
  · cases r.finished? e <;> simp
  · intro i hi j hj
    obtain ⟨o, ho, rfl⟩ := List.mem_map.1 hi
    obtain ⟨p, hp, rfl⟩ := List.mem_map.1 hj
    obtain ⟨t, ht, -, rfl⟩ := finished_step (Option.mem_toList.1 hp)
    exact hn.apart t ht o (hs.subset ho)

theorem apart_step (hn : r.Numbered) (e : Event) :
    ∀ t ∈ (r.step e).pending, ∀ o ∈ (r.step e).unread, o.job ≠ t.job.id := by
  intro t ht o ho
  rcases (mem_pending_step r e).1 ht with ⟨ht, he⟩ | hq
  · rcases (mem_unread_step r e).1 ho with ⟨ho, -⟩ | hf
    · exact hn.apart t ht o ho
    · -- The job that finishes is no longer pending.
      intro hj
      rw [← hj, ends_of_finished hf] at he
      cases he
  · rw [queued_number hq]
    rcases (mem_unread_step r e).1 ho with ⟨ho, -⟩ | hf
    · exact Nat.ne_of_lt (hn.spent o ho)
    · exact Nat.ne_of_lt (hn.spent_finished hf)

theorem step (hn : r.Numbered) (e : Event) : (r.step e).Numbered where
  distinct := hn.distinct_step e
  single := hn.single_step e
  apart := hn.apart_step e
  below := by
    intro t ht
    rcases (mem_pending_step r e).1 ht with ⟨ht, -⟩ | hq
    · exact Nat.lt_of_lt_of_le (hn.below t ht) (nextJob_le_step r e)
    · rw [nextJob_step, hq, queued_number hq]
      exact Nat.lt_succ_self _
  spent := by
    intro o ho
    refine Nat.lt_of_lt_of_le ?_ (nextJob_le_step r e)
    rcases (mem_unread_step r e).1 ho with ⟨ho, -⟩ | hf
    · exact hn.spent o ho
    · exact hn.spent_finished hf

theorem after (hn : r.Numbered) (es : List Event) : (r.after es).Numbered := by
  induction es generalizing r with
  | nil => exact hn
  | cons e es ih => exact ih (hn.step e)

theorem task?_of_mem (hn : r.Numbered) (ht : t ∈ r.pending) : r.task? t.job.id = some t := by
  rw [task?, ← List.head?_filter, filter_key hn.distinct ht]
  rfl

theorem outcome?_of_mem (hn : r.Numbered) (ho : o ∈ r.unread) : r.outcome? o.job = some o := by
  rw [outcome?, ← List.head?_filter, filter_key hn.single ho]
  rfl

theorem finished?_of_mem (hn : r.Numbered) (ht : t ∈ r.pending) :
    r.finished? (.finish t.job.id) = some (t.outcome r.world) := by
  rw [finished?, recorded?, hn.task?_of_mem ht]
  rfl

theorem sent_finish (hn : r.Numbered) (ht : t ∈ r.pending) :
    (r.step (.finish t.job.id)).sent = r.sent := by
  rw [sent_step, recorded?, hn.task?_of_mem ht]
  exact List.append_nil _

theorem unread_finish (hn : r.Numbered) (ht : t ∈ r.pending) :
    (r.step (.finish t.job.id)).unread = r.unread ++ [t.outcome r.world] := by
  rw [unread_step, hn.finished?_of_mem ht, remaining_eq_unread fun _ _ => rfl]
  rfl

theorem sent_publish (hn : r.Numbered) (ho : o ∈ r.unread) :
    (r.step (.publish o.job)).sent = r.sent ++ o.messages := by
  rw [sent_step, recorded?, hn.outcome?_of_mem ho]
  simp [Entry.messages]

end Numbered

theorem mem_pending_after (ht : t ∈ r.pending) (h : ∀ e ∈ es, e.ends t.job.id = false) :
    t ∈ (r.after es).pending := by
  induction es generalizing r with
  | nil => exact ht
  | cons e es ih =>
      obtain ⟨he, hs⟩ := List.forall_mem_cons.1 h
      exact ih ((mem_pending_step r e).2 (.inl ⟨ht, he⟩)) hs

theorem mem_unread_after (ho : o ∈ r.unread) (h : ∀ e ∈ es, e.publishes o.job = false) :
    o ∈ (r.after es).unread := by
  induction es generalizing r with
  | nil => exact ho
  | cons e es ih =>
      obtain ⟨he, hs⟩ := List.forall_mem_cons.1 h
      exact ih ((mem_unread_step r e).2 (.inl ⟨ho, he⟩)) hs

theorem Numbered.sent_finish_after (hn : r.Numbered) (ht : t ∈ r.pending)
    (he : ∀ e ∈ es, e.ends t.job.id = false) :
    (r.after (es ++ [.finish t.job.id])).sent = (r.after es).sent := by
  rw [after_append]
  exact (hn.after es).sent_finish (mem_pending_after ht he)

theorem Numbered.sent_publish_after {fs : List Event} (hn : r.Numbered) (ht : t ∈ r.pending)
    (he : ∀ e ∈ es, e.ends t.job.id = false) (hf : ∀ f ∈ fs, f.publishes t.job.id = false) :
    (r.after (es ++ (.finish t.job.id :: fs ++ [.publish t.job.id]))).sent =
      (r.after (es ++ .finish t.job.id :: fs)).sent ++ (t.outcome (r.after es).world).messages := by
  have hm : t ∈ (r.after es).pending := mem_pending_after ht he
  have ho : t.outcome (r.after es).world ∈ ((r.after es).step (.finish t.job.id)).unread := by
    rw [(hn.after es).unread_finish hm]
    exact List.mem_append_right _ (List.mem_singleton.2 rfl)
  rw [← List.append_assoc, after_append, after_append]
  exact (((hn.after es).step _).after fs).sent_publish (mem_unread_after ho hf)

end Numbers

section Histories

def history (r : Run) : List Event → List Entry
  | [] => []
  | e :: es => (r.recorded? e).toList ++ (r.step e).history es

def accepted (r : Run) (es : List Event) : List Task :=
  (r.history es).filterMap Entry.queued?

def completions (r : Run) (es : List Event) : List Outcome :=
  (r.history es).filterMap Entry.finished?

def publications (r : Run) (es : List Event) : List Outcome :=
  (r.history es).filterMap Entry.published?

def outcomes (r : Run) (es : List Event) (job : JobId) : List Outcome :=
  (r.completions es).filter fun o => o.job = job

def published (r : Run) (es : List Event) (job : JobId) : List Outcome :=
  (r.publications es).filter fun o => o.job = job

theorem history_append (r : Run) (es fs : List Event) :
    r.history (es ++ fs) = r.history es ++ (r.after es).history fs := by
  induction es generalizing r with
  | nil => rfl
  | cons e es ih => rw [List.cons_append, history, ih, history, List.append_assoc, after_cons]

theorem history_singleton (r : Run) (e : Event) : r.history [e] = (r.recorded? e).toList :=
  List.append_nil _

theorem sent_after (r : Run) (es : List Event) :
    (r.after es).sent = r.sent ++ (r.history es).flatMap Entry.messages := by
  induction es generalizing r with
  | nil => simp [after, history]
  | cons e es ih =>
      rw [after_cons, ih, sent_step, history, List.flatMap_append, List.append_assoc]

theorem mem_history {entry : Entry} (h : entry ∈ r.history es) :
    ∃ fs e gs, es = fs ++ e :: gs ∧ (r.after fs).recorded? e = some entry := by
  induction es generalizing r with
  | nil => cases h
  | cons e es ih =>
      rw [history, List.mem_append, Option.mem_toList] at h
      rcases h with hr | hs
      · exact ⟨[], e, es, rfl, hr⟩
      · obtain ⟨fs, f, gs, rfl, hr⟩ := ih hs
        exact ⟨e :: fs, f, gs, rfl, hr⟩

section Found

variable {α : Type} {f : Entry → Option α} {x : α}

theorem mem_found (h : x ∈ (r.history es).filterMap f) :
    ∃ fs e gs, es = fs ++ e :: gs ∧ ((r.after fs).recorded? e).bind f = some x := by
  obtain ⟨entry, hm, hx⟩ := List.mem_filterMap.1 h
  obtain ⟨fs, e, gs, hes, hr⟩ := mem_history hm
  exact ⟨fs, e, gs, hes, by rw [hr]; exact hx⟩

theorem found_cons (f : Entry → Option α) (r : Run) (e : Event) (es : List Event) :
    (r.history (e :: es)).filterMap f =
      ((r.recorded? e).bind f).toList ++ ((r.step e).history es).filterMap f := by
  rw [history, List.filterMap_append]
  cases r.recorded? e with
  | none => rfl
  | some entry => cases h : f entry <;> simp [h]

end Found

theorem mem_accepted (h : t ∈ r.accepted es) :
    ∃ fs e gs, es = fs ++ e :: gs ∧ (r.after fs).queued? e = some t :=
  mem_found h

theorem mem_completions (h : o ∈ r.completions es) :
    ∃ fs e gs, es = fs ++ e :: gs ∧ (r.after fs).finished? e = some o :=
  mem_found h

theorem mem_publications (h : o ∈ r.publications es) :
    ∃ fs e gs, es = fs ++ e :: gs ∧ (r.after fs).published? e = some o :=
  mem_found h

theorem accepted_cons (r : Run) (e : Event) (es : List Event) :
    r.accepted (e :: es) = (r.queued? e).toList ++ (r.step e).accepted es :=
  found_cons Entry.queued? r e es

theorem completions_cons (r : Run) (e : Event) (es : List Event) :
    r.completions (e :: es) = (r.finished? e).toList ++ (r.step e).completions es :=
  found_cons Entry.finished? r e es

theorem publications_cons (r : Run) (e : Event) (es : List Event) :
    r.publications (e :: es) = (r.published? e).toList ++ (r.step e).publications es :=
  found_cons Entry.published? r e es

theorem outcomes_cons_of_ne {job : JobId} (h : ∀ o, r.finished? e = some o → o.job ≠ job) :
    r.outcomes (e :: es) job = (r.step e).outcomes es job := by
  simp only [outcomes, completions_cons, List.filter_append]
  cases hc : r.finished? e with
  | none => rfl
  | some o => simp [h o hc]

end Histories

section Deliveries

theorem remaining_perm (hn : r.Numbered) (e : Event) :
    ((r.published? e).toList ++ r.remaining e).Perm r.unread := by
  have h := happened r e
  simp only [published?]
  generalize r.recorded? e = entry, r.step e = r' at h
  cases h with
  | server hs =>
      rw [remaining_eq_unread fun o _ => publishes_of_serverStep hs o.job]
      rfl
  | @published o ho =>
      have hk : r.unread.filter (fun p => p.job = o.job) = [o] :=
        filter_key hn.single (List.mem_of_find?_eq_some ho)
      have hp := List.filter_append_perm (fun p : Outcome => p.job = o.job) r.unread
      rw [hk] at hp
      exact hp
  | silent hu =>
      rw [remaining_of_silent hu]
      rfl
  | finished | unknown | abandoned | stopped | outside =>
      rw [remaining_eq_unread fun _ _ => rfl]
      rfl

theorem publication_step (hn : r.Numbered) (e : Event) :
    ((r.published? e).toList ++ (r.step e).unread).Perm (r.unread ++ (r.finished? e).toList) := by
  rw [unread_step, ← List.append_assoc]
  exact (remaining_perm hn e).append_right _

theorem publications_perm (hn : r.Numbered) (es : List Event) :
    (r.publications es ++ (r.after es).unread).Perm (r.unread ++ r.completions es) := by
  induction es generalizing r with
  | nil => exact .of_eq (List.append_nil _).symm
  | cons e es ih =>
      rw [publications_cons, completions_cons, after_cons, List.append_assoc]
      refine ((ih (hn.step e)).append_left _).trans ?_
      rw [← List.append_assoc, ← List.append_assoc]
      exact (publication_step hn e).append_right _

end Deliveries

section Fates

theorem accepted_number (ht : t ∈ r.accepted es) : r.server.nextJob ≤ t.job.id := by
  induction es generalizing r with
  | nil => cases ht
  | cons e es ih =>
      rw [accepted_cons, List.mem_append, Option.mem_toList] at ht
      rcases ht with hq | ht
      · exact Nat.le_of_eq (queued_number hq).symm
      · exact Nat.le_trans (nextJob_le_step r e) (ih ht)

theorem accepted_ascending (r : Run) (es : List Event) :
    (r.accepted es).Pairwise fun t u => t.job.id < u.job.id := by
  induction es generalizing r with
  | nil => exact .nil
  | cons e es ih =>
      rw [accepted_cons]
      cases hq : r.queued? e with
      | none => exact ih (r.step e)
      | some t =>
          refine .cons ?_ (ih (r.step e))
          intro u hu
          have hs : (r.step e).server.nextJob = r.server.nextJob + 1 := by
            rw [nextJob_step, hq]
            rfl
          have hle := accepted_number hu
          rw [hs] at hle
          rw [queued_number hq]
          exact hle

theorem outcomes_of_gone {job : JobId} (hn : r.Numbered) (hj : job < r.server.nextJob)
    (hp : ∀ t ∈ r.pending, t.job.id ≠ job) : r.outcomes es job = [] := by
  induction es generalizing r with
  | nil => rfl
  | cons e es ih =>
      have hf : ∀ o, r.finished? e = some o → o.job ≠ job := by
        intro o ho
        obtain ⟨t, ht, -, rfl⟩ := finished_step ho
        exact hp t ht
      rw [outcomes_cons_of_ne hf]
      refine ih (hn.step e) (Nat.lt_of_lt_of_le hj (nextJob_le_step r e)) ?_
      intro t ht
      rcases (mem_pending_step r e).1 ht with ⟨ht, -⟩ | hq
      · exact hp t ht
      · rw [queued_number hq]
        exact Nat.ne_of_gt hj

inductive Fate (r : Run) (es : List Event) (t : Task) : Prop where
  | pending : t ∈ (r.after es).pending → r.outcomes es t.job.id = [] → Fate r es t
  | finished (fs gs : List Event) :
      es = fs ++ .finish t.job.id :: gs → t ∈ (r.after fs).pending →
        r.outcomes es t.job.id = [t.outcome (r.after fs).world] → Fate r es t
  | abandoned (fs gs : List Event) :
      es = fs ++ .abandon t.job.id :: gs → t ∈ (r.after fs).pending →
        r.outcomes es t.job.id = [] → Fate r es t

theorem Fate.cons (hf : (r.step e).Fate es t)
    (h : ∀ o, r.finished? e = some o → o.job ≠ t.job.id) : r.Fate (e :: es) t := by
  have ho : r.outcomes (e :: es) t.job.id = (r.step e).outcomes es t.job.id :=
    outcomes_cons_of_ne h
  cases hf with
  | pending hp hs => exact .pending hp (ho.trans hs)
  | finished fs gs he hp hs =>
      exact .finished (e :: fs) gs (congrArg (e :: ·) he) hp (ho.trans hs)
  | abandoned fs gs he hp hs =>
      exact .abandoned (e :: fs) gs (congrArg (e :: ·) he) hp (ho.trans hs)

theorem outcomes_of_ended (hn : r.Numbered) (ht : t ∈ r.pending) (he : e.ends t.job.id = true) :
    (r.step e).outcomes es t.job.id = [] := by
  refine outcomes_of_gone (hn.step e) ?_ ?_
  · exact Nat.lt_of_lt_of_le (hn.below t ht) (nextJob_le_step r e)
  · intro u hu hj
    rcases (mem_pending_step r e).1 hu with ⟨-, hu⟩ | hq
    · rw [hj, he] at hu
      cases hu
    · rw [queued_number hq] at hj
      exact Nat.ne_of_gt (hn.below t ht) hj

theorem fate_of_pending (hn : r.Numbered) (ht : t ∈ r.pending) : r.Fate es t := by
  induction es generalizing r with
  | nil => exact .pending ht rfl
  | cons e es ih =>
      cases he : e.ends t.job.id with
      | false =>
          refine (ih (hn.step e) ((mem_pending_step r e).2 (.inl ⟨ht, he⟩))).cons ?_
          intro o ho hj
          rw [← hj, ends_of_finished ho] at he
          cases he
      | true =>
          -- The job leaves with this event, and its number is gone for good.
          have hg : (r.step e).outcomes es t.job.id = [] := outcomes_of_ended hn ht he
          cases e with
          | finish job =>
              have hj : t.job.id = job := by simpa [Event.ends] using he
              subst hj
              refine .finished [] es rfl ht ?_
              rw [outcomes] at hg ⊢
              rw [completions_cons, hn.finished?_of_mem ht, List.filter_append, hg]
              simp [Task.outcome, after]
          | abandon job =>
              have hj : t.job.id = job := by simpa [Event.ends] using he
              subst hj
              refine .abandoned [] es rfl ht ?_
              rw [outcomes_cons_of_ne (by intro o ho; cases ho), hg]
          | request | notification | analyze | publish | stopWorker | outside => cases he

theorem fate_of_accepted (hn : r.Numbered) (ht : t ∈ r.accepted es) : r.Fate es t := by
  induction es generalizing r with
  | nil => cases ht
  | cons e es ih =>
      have hf : (r.step e).Fate es t := by
        rw [accepted_cons, List.mem_append, Option.mem_toList] at ht
        rcases ht with hq | ht
        · exact fate_of_pending (hn.step e) ((mem_pending_step r e).2 (.inr hq))
        · exact ih (hn.step e) ht
      refine hf.cons fun o ho => ?_
      exact Nat.ne_of_lt (Nat.lt_of_lt_of_le (hn.spent_finished ho) (accepted_number ht))

end Fates

end Run

end Server

end ContractLint
