import ContractLint.Analysis.Worker
import Mathlib.Data.List.Induction
import Mathlib.Data.List.Nodup

namespace ContractLint

theorem filter_key {α β : Type} [DecidableEq β] {f : α → β} {l : List α} {a : α}
    (hd : (l.map f).Nodup) (h : a ∈ l) : l.filter (fun b => f b = f a) = [a] := by
  induction l with
  | nil => cases h
  | cons b l ih =>
      obtain ⟨hb, hl⟩ := List.nodup_cons.1 hd
      rcases List.mem_cons.1 h with rfl | h
      · have hf : l.filter (fun c => f c = f a) = [] := by
          rw [List.filter_eq_nil_iff]
          intro c hc he
          exact hb (List.mem_map.2 ⟨c, hc, by simpa using he⟩)
        simp [hf]
      · have hne : ¬ f b = f a := fun he => hb (List.mem_map.2 ⟨a, h, he.symm⟩)
        simpa [hne] using ih hl h

theorem filter_behind {α β : Type} [DecidableEq β] {f : α → β} {l : List α} {a : α}
    (hd : ((a :: l).map f).Nodup) : (a :: l).filter (fun b => !(f b == f a)) = l := by
  have hl : l.filter (fun b => !(f b == f a)) = l := by
    rw [List.filter_eq_self]
    intro b hb
    have hne : f b ≠ f a := fun he => (List.nodup_cons.1 hd).1 (List.mem_map.2 ⟨b, hb, he⟩)
    simp [hne]
  rw [List.filter_cons_of_neg (by simp), hl]

theorem filter_spared {α : Type} {p : α → Bool} {l : List α} (h : ∀ a ∈ l, p a = false) :
    l.filter (fun a => !p a) = l :=
  List.filter_eq_self.2 fun a ha => by rw [h a ha]; rfl

theorem spared_of_find? {α β : Type} [DecidableEq β] {f : α → β} {l : List α} {b : β}
    (h : l.find? (fun a => f a = b) = none) : ∀ a ∈ l, (f a == b) = false := by
  intro a ha
  simpa using List.find?_eq_none.1 h a ha

def Command.ticket? : Command → Option Ticket
  | .analyze ticket _ => some ticket
  | .shutdown => none

namespace Worker

variable {w w' v : Worker} {e : Event} {es fs gs : List Event} {k : Ticket} {task : Task}
  {world : World}

section Steps

inductive Stepped (w : Worker) : Event → Worker → Prop where
  | submitted {task : Task} :
      Stepped w (.submit task)
        { w.send (.analyze w.tickets task) with tickets := w.tickets + 1 }
  | told : Stepped w .shutdown (w.send .shutdown)
  | disconnected : Stepped w .disconnect { w with connected := false }
  | started {k : Ticket} {task : Task} {rest : List Command} :
      w.cancelled = false → w.queue = .analyze k task :: rest →
        Stepped w .receive ({ w with queue := rest }.activate k task)
  | dismissed {rest : List Command} :
      w.cancelled = false → w.queue = .shutdown :: rest →
        Stepped w .receive { w with queue := rest, cancelled := true }
  | deserted :
      w.cancelled = false → w.queue = [] → Stepped w .receive { w with cancelled := true }
  | finished {k : Ticket} {task : Task} {world : World} :
      w.taskUnder? k = some task →
        Stepped w (.finish k world)
          { w.drop k with sent := w.sent ++ [(k, task.outcome world)] }
  | abandoned {k : Ticket} {task : Task} :
      w.cancelled = true → w.taskUnder? k = some task → Stepped w (.abandon k) (w.drop k)
  | stopped : w.cancelled = true → w.active = [] → Stepped w .stop { w with stopped := true }

theorem stepped_receive (h : w.receive? = some w') : Stepped w .receive w' := by
  simp only [receive?] at h
  split at h
  · cases h
  · next hc =>
      have hc : w.cancelled = false := by simpa using hc
      split at h
      · next hq => cases h; exact .started hc hq
      · next hq => cases h; exact .dismissed hc hq
      · next hq =>
          split at h
          · cases h
          · cases h; exact .deserted hc hq

theorem stepped (h : w.step? e = some w') : Stepped w e w' := by
  cases e with
  | submit task =>
      simp only [step?, Option.ite_none_right_eq_some, Option.some.injEq] at h
      obtain ⟨-, rfl⟩ := h
      exact .submitted
  | shutdown =>
      simp only [step?, Option.ite_none_right_eq_some, Option.some.injEq] at h
      obtain ⟨-, rfl⟩ := h
      exact .told
  | disconnect =>
      simp only [step?, Option.ite_none_right_eq_some, Option.some.injEq] at h
      obtain ⟨-, rfl⟩ := h
      exact .disconnected
  | receive => exact stepped_receive h
  | finish k world =>
      obtain ⟨task, ht, rfl⟩ := Option.map_eq_some_iff.1 h
      exact .finished ht
  | abandon k =>
      simp only [step?, abandon?, Option.ite_none_right_eq_some] at h
      obtain ⟨hc, hm⟩ := h
      obtain ⟨task, ht, rfl⟩ := Option.map_eq_some_iff.1 hm
      exact .abandoned hc ht
  | stop =>
      simp only [step?, Option.ite_none_right_eq_some, Option.some.injEq, Bool.and_eq_true,
        List.isEmpty_iff] at h
      obtain ⟨⟨⟨hc, -⟩, ha⟩, rfl⟩ := h
      exact .stopped hc ha

theorem mem_active_of_taskUnder? (h : w.taskUnder? k = some task) : (k, task) ∈ w.active := by
  obtain ⟨⟨j, t⟩, hf, rfl⟩ := Option.map_eq_some_iff.1 h
  have hj : j = k := by simpa using List.find?_some hf
  exact hj ▸ List.mem_of_find?_eq_some hf

theorem mem_active_drop {x : Ticket × Task} :
    x ∈ (w.drop k).active ↔ x ∈ w.active ∧ x.1 ≠ k := by
  simp [drop]

end Steps

def new : Worker :=
  {}

section Runs

theorem run?_append (w : Worker) (es fs : List Event) :
    w.run? (es ++ fs) = (w.run? es).bind (·.run? fs) := by
  induction es generalizing w with
  | nil => rfl
  | cons e es ih =>
      simp only [List.cons_append, run?]
      cases w.step? e with
      | none => rfl
      | some w' => exact ih w'

theorem run?_concat (w : Worker) (es : List Event) (e : Event) :
    w.run? (es ++ [e]) = (w.run? es).bind (·.step? e) := by
  rw [run?_append]
  congr 1
  funext v
  simp [run?]

theorem run?_singleton (h : w.step? e = some w') : w.run? [e] = some w' := by
  simp [run?, h]

theorem run?_split (h : w.run? (es ++ fs) = some w') :
    ∃ v, w.run? es = some v ∧ v.run? fs = some w' := by
  rw [run?_append] at h
  exact Option.bind_eq_some_iff.1 h

theorem run?_induction {P : Worker → Prop} (hs : ∀ {w e w'}, P w → Stepped w e w' → P w')
    (hw : P w) (h : w.run? es = some w') : P w' := by
  induction es generalizing w with
  | nil => cases h; exact hw
  | cons e es ih =>
      obtain ⟨v, hv, h⟩ := Option.bind_eq_some_iff.1 h
      exact ih (hs hw (stepped hv)) h

end Runs

section Tickets

def waiting (w : Worker) : List Ticket :=
  w.queue.filterMap Command.ticket?

def issued (w : Worker) : List Ticket :=
  w.waiting ++ (w.active.map Prod.fst ++ w.sent.map Prod.fst)

structure Numbered (w : Worker) : Prop where
  distinct : w.issued.Nodup
  below : ∀ k ∈ w.issued, k < w.tickets

theorem numbered_new : new.Numbered :=
  ⟨.nil, by simp [new, issued, waiting]⟩

theorem active_perm_drop (hd : (w.active.map Prod.fst).Nodup) (h : (k, task) ∈ w.active) :
    (w.active.map Prod.fst).Perm (k :: (w.drop k).active.map Prod.fst) := by
  have hk : k ∈ w.active.map Prod.fst := List.mem_map.2 ⟨_, h, rfl⟩
  have he : (w.drop k).active.map Prod.fst = (w.active.map Prod.fst).erase k := by
    rw [hd.erase_eq_filter, List.filter_map]
    rfl
  rw [he]
  exact List.perm_cons_erase hk

theorem Numbered.active_distinct (hn : w.Numbered) : (w.active.map Prod.fst).Nodup :=
  (hn.distinct.sublist (List.sublist_append_right _ _)).sublist (List.sublist_append_left _ _)

theorem issued_drop (hn : w.Numbered) (h : (k, task) ∈ w.active) :
    w.issued.Perm (k :: (w.drop k).issued) := by
  have hp := active_perm_drop hn.active_distinct h
  exact (List.Perm.append_left _ (hp.append_right _)).trans List.perm_middle

theorem issued_step (hn : w.Numbered) (h : Stepped w e w') :
    (w'.issued.Perm (w.tickets :: w.issued) ∧ w'.tickets = w.tickets + 1) ∨
      (∃ gone, w.issued.Perm (gone ++ w'.issued)) ∧ w'.tickets = w.tickets := by
  cases h with
  | submitted =>
      refine .inl ⟨?_, rfl⟩
      simp only [issued, waiting, send, List.filterMap_append, List.filterMap_cons,
        Command.ticket?, List.filterMap_nil, List.append_assoc]
      exact List.perm_middle
  | told =>
      refine .inr ⟨⟨[], .of_eq ?_⟩, rfl⟩
      simp [issued, waiting, send, Command.ticket?]
  | disconnected | deserted | stopped => exact .inr ⟨⟨[], .refl _⟩, rfl⟩
  | started hc hq =>
      refine .inr ⟨⟨[], ?_⟩, rfl⟩
      simp only [issued, waiting, activate, hq, List.filterMap_cons, Command.ticket?,
        List.map_append, List.map_cons, List.map_nil, List.append_assoc, List.cons_append,
        List.nil_append]
      exact List.perm_middle.symm.trans (List.Perm.append_left _ List.perm_middle.symm)
  | dismissed hc hq =>
      refine .inr ⟨⟨[], .of_eq ?_⟩, rfl⟩
      simp only [issued, waiting, hq]
      rfl
  | @finished k task world ht =>
      refine .inr ⟨⟨[], (issued_drop hn (mem_active_of_taskUnder? ht)).trans ?_⟩, rfl⟩
      simp only [issued, waiting, drop, List.map_append, List.map_cons, List.map_nil,
        List.nil_append, ← List.append_assoc]
      exact (List.perm_append_singleton _ _).symm
  | @abandoned k task hc ht =>
      exact .inr ⟨⟨[k], issued_drop hn (mem_active_of_taskUnder? ht)⟩, rfl⟩

theorem Numbered.step (hn : w.Numbered) (h : Stepped w e w') : w'.Numbered := by
  rcases issued_step hn h with ⟨hp, ht⟩ | ⟨⟨gone, hp⟩, ht⟩
  · refine ⟨hp.nodup_iff.2 (List.nodup_cons.2 ⟨?_, hn.distinct⟩), ?_⟩
    · intro hm
      exact Nat.lt_irrefl _ (hn.below _ hm)
    · intro k hk
      rw [ht]
      rcases List.mem_cons.1 (hp.mem_iff.1 hk) with rfl | hk
      · exact Nat.lt_succ_self _
      · exact Nat.lt_succ_of_lt (hn.below k hk)
  · have hs : w'.issued.Sublist (gone ++ w'.issued) := List.sublist_append_right _ _
    refine ⟨(hp.nodup_iff.1 hn.distinct).sublist hs, ?_⟩
    intro k hk
    rw [ht]
    exact hn.below k (hp.mem_iff.2 (hs.subset hk))

theorem numbered_run (h : new.run? es = some w) : w.Numbered :=
  run?_induction (fun hn hs => hn.step hs) numbered_new h

theorem mem_issued_step (hn : w.Numbered) (h : Stepped w e w') (hk : k ∈ w'.issued) :
    k ∈ w.issued ∨ k = w.tickets := by
  rcases issued_step hn h with ⟨hp, -⟩ | ⟨⟨gone, hp⟩, -⟩
  · exact (List.mem_cons.1 (hp.mem_iff.1 hk)).symm
  · exact .inl (hp.mem_iff.2 (List.mem_append_right _ hk))

theorem tickets_le_step (hn : w.Numbered) (h : Stepped w e w') : w.tickets ≤ w'.tickets := by
  rcases issued_step hn h with ⟨-, ht⟩ | ⟨-, ht⟩
  · exact ht ▸ Nat.le_succ _
  · exact Nat.le_of_eq ht.symm

end Tickets

section Outcomes

def outcomes (w : Worker) (k : Ticket) : List Outcome :=
  (w.sent.filter fun x => x.1 = k).map Prod.snd

theorem outcomes_eq_nil (h : k ∉ w.sent.map Prod.fst) : w.outcomes k = [] := by
  rw [outcomes, List.map_eq_nil_iff, List.filter_eq_nil_iff]
  intro x hx hk
  exact h (List.mem_map.2 ⟨x, hx, by simpa using hk⟩)

theorem Numbered.sent_distinct (hn : w.Numbered) : (w.sent.map Prod.fst).Nodup :=
  (hn.distinct.sublist (List.sublist_append_right _ _)).sublist (List.sublist_append_right _ _)

theorem Numbered.outcomes_of_mem (hn : w.Numbered) {o : Outcome} (h : (k, o) ∈ w.sent) :
    w.outcomes k = [o] := by
  have hk : w.sent.filter (fun x => x.1 = k) = [(k, o)] := filter_key hn.sent_distinct h
  rw [outcomes, hk]
  rfl

theorem Numbered.outcomes_cases (hn : w.Numbered) (k : Ticket) :
    w.outcomes k = [] ∨ ∃ o, (k, o) ∈ w.sent ∧ w.outcomes k = [o] := by
  by_cases h : k ∈ w.sent.map Prod.fst
  · obtain ⟨⟨j, o⟩, ho, rfl⟩ := List.mem_map.1 h
    exact .inr ⟨o, ho, hn.outcomes_of_mem ho⟩
  · exact .inl (outcomes_eq_nil h)

theorem outcomes_of_not_issued (h : k ∉ w.issued) : w.outcomes k = [] :=
  outcomes_eq_nil fun hs => h (List.mem_append_right _ (List.mem_append_right _ hs))

theorem Numbered.not_sent_of_active (hn : w.Numbered) (h : (k, task) ∈ w.active) :
    k ∉ w.sent.map Prod.fst := by
  have hd := hn.distinct.sublist (List.sublist_append_right _ _)
  exact fun hs => (List.nodup_append.1 hd).2.2 k (List.mem_map.2 ⟨_, h, rfl⟩) k hs rfl

theorem Numbered.not_waiting_of_active (hn : w.Numbered) (h : (k, task) ∈ w.active) :
    k ∉ w.waiting := by
  intro hw
  refine (List.nodup_append.1 hn.distinct).2.2 k hw k (List.mem_append_left _ ?_) rfl
  exact List.mem_map.2 ⟨_, h, rfl⟩

theorem Numbered.outcomes_of_waiting (hn : w.Numbered) (h : k ∈ w.waiting) :
    w.outcomes k = [] := by
  refine outcomes_eq_nil fun hs => ?_
  exact (List.nodup_append.1 hn.distinct).2.2 k h k (List.mem_append_right _ hs) rfl

theorem Numbered.outcomes_of_active (hn : w.Numbered) (h : (k, task) ∈ w.active) :
    w.outcomes k = [] :=
  outcomes_eq_nil (hn.not_sent_of_active h)

end Outcomes

section Histories

def Met (es : List Event) (e : Event) (P : Worker → Prop) : Prop :=
  ∃ fs gs v, es = fs ++ e :: gs ∧ new.run? fs = some v ∧ P v

variable {P : Worker → Prop} {f : Event}

theorem Met.concat (h : Met es e P) : Met (es ++ [f]) e P := by
  obtain ⟨fs, gs, v, rfl, hv, hp⟩ := h
  exact ⟨fs, gs ++ [f], v, by simp, hv, hp⟩

theorem met_last (h : new.run? es = some w) (hp : P w) : Met (es ++ [e]) e P :=
  ⟨es, [], w, rfl, h, hp⟩

theorem met_concat (h : new.run? es = some w) (hm : Met (es ++ [f]) e P) :
    Met es e P ∨ f = e ∧ P w := by
  obtain ⟨fs, gs, v, he, hv, hp⟩ := hm
  rcases List.eq_nil_or_concat gs with rfl | ⟨gs, g, rfl⟩
  · obtain ⟨rfl, hf⟩ := List.append_inj' he rfl
    cases h.symm.trans hv
    exact .inr ⟨List.singleton_inj.1 hf, hp⟩
  · rw [List.concat_eq_append, ← List.cons_append, ← List.append_assoc] at he
    exact .inl ⟨fs, gs, v, (List.append_inj' he rfl).1, hv, hp⟩

def Submitted (es : List Event) (k : Ticket) (task : Task) : Prop :=
  Met es (.submit task) fun v => v.tickets = k

def Received (es : List Event) (k : Ticket) (task : Task) : Prop :=
  Met es .receive fun v => v.cancelled = false ∧ v.queue.head? = some (.analyze k task)

def Finished (es : List Event) (k : Ticket) (task : Task) (world : World) : Prop :=
  Met es (.finish k world) fun v => (k, task) ∈ v.active

def Abandoned (es : List Event) (k : Ticket) : Prop :=
  Met es (.abandon k) fun v => v.cancelled = true

inductive Fate (es : List Event) (w : Worker) (k : Ticket) (task : Task) : Prop where
  | active : (k, task) ∈ w.active → w.outcomes k = [] → Fate es w k task
  | finished (world : World) :
      Finished es k task world → w.outcomes k = [task.outcome world] → Fate es w k task
  | abandoned : Abandoned es k → w.outcomes k = [] → Fate es w k task

structure Recorded (es : List Event) (w : Worker) : Prop where
  waiting : ∀ k task, .analyze k task ∈ w.queue → Submitted es k task
  active : ∀ k task, (k, task) ∈ w.active → Received es k task
  sent : ∀ k o, (k, o) ∈ w.sent →
    ∃ task world, Received es k task ∧ Finished es k task world ∧ o = task.outcome world
  abandoned : ∀ k, Abandoned es k → k < w.tickets ∧ k ∉ w.issued
  received : ∀ k task, Received es k task →
    (k, task) ∈ w.active ∨ (∃ world, Finished es k task world ∧ (k, task.outcome world) ∈ w.sent) ∨
      Abandoned es k

theorem recorded_new : Recorded [] new where
  waiting := by simp [new]
  active := by simp [new]
  sent := by simp [new]
  abandoned := by simp [Abandoned, Met]
  received := by simp [Received, Met]

theorem mem_queue_step {c : Command} (h : Stepped w e w') (hc : c ∈ w'.queue) :
    c ∈ w.queue ∨ (∃ task, e = .submit task ∧ c = .analyze w.tickets task) ∨ c = .shutdown := by
  cases h with
  | @submitted task =>
      rcases List.mem_append.1 hc with hc | hc
      · exact .inl hc
      · exact .inr (.inl ⟨task, rfl, List.mem_singleton.1 hc⟩)
  | told =>
      rcases List.mem_append.1 hc with hc | hc
      · exact .inl hc
      · exact .inr (.inr (List.mem_singleton.1 hc))
  | started _ hq | dismissed _ hq =>
      rw [hq]
      exact .inl (List.mem_cons_of_mem _ hc)
  | disconnected | deserted | finished | abandoned | stopped => exact .inl hc

theorem mem_active_step (h : Stepped w e w') (ha : (k, task) ∈ w'.active) :
    (k, task) ∈ w.active ∨
      e = .receive ∧ w.cancelled = false ∧ w.queue.head? = some (.analyze k task) := by
  cases h with
  | started hc hq =>
      rcases List.mem_append.1 ha with ha | ha
      · exact .inl ha
      · cases List.mem_singleton.1 ha
        exact .inr ⟨rfl, hc, by simp [hq]⟩
  | finished | abandoned => exact .inl (mem_active_drop.1 ha).1
  | submitted | told | disconnected | dismissed | deserted | stopped => exact .inl ha

theorem mem_sent_step {o : Outcome} (h : Stepped w e w') (hs : (k, o) ∈ w'.sent) :
    (k, o) ∈ w.sent ∨
      ∃ task world, e = .finish k world ∧ (k, task) ∈ w.active ∧ o = task.outcome world := by
  cases h with
  | finished ht =>
      rcases List.mem_append.1 hs with hs | hs
      · exact .inl hs
      · cases List.mem_singleton.1 hs
        exact .inr ⟨_, _, rfl, mem_active_of_taskUnder? ht, rfl⟩
  | submitted | told | disconnected | started | dismissed | deserted | abandoned | stopped =>
      exact .inl hs

theorem sent_subset_step (h : Stepped w e w') : w.sent ⊆ w'.sent := by
  cases h with
  | finished => exact List.subset_append_left _ _
  | submitted | told | disconnected | started | dismissed | deserted | abandoned | stopped =>
      exact List.Subset.refl _

theorem active_of_received (h : Stepped w .receive w')
    (hq : w.queue.head? = some (.analyze k task)) : (k, task) ∈ w'.active := by
  cases h with
  | started hc hs =>
      rw [hs] at hq
      cases hq
      exact List.mem_append_right _ (List.mem_singleton.2 rfl)
  | dismissed hc hs | deserted hc hs =>
      rw [hs] at hq
      cases hq

theorem Numbered.task_unique {t u : Task} (hn : w.Numbered) (ht : (k, t) ∈ w.active)
    (hu : (k, u) ∈ w.active) : t = u :=
  (Prod.mk.inj (List.inj_on_of_nodup_map hn.active_distinct ht hu rfl)).2

theorem Numbered.taskUnder?_of_mem (hn : w.Numbered) (ha : (k, task) ∈ w.active) :
    w.taskUnder? k = some task := by
  have hk : w.active.filter (fun x => x.1 = k) = [(k, task)] := filter_key hn.active_distinct ha
  rw [taskUnder?, ← List.head?_filter, hk]
  rfl

theorem active_step (hn : w.Numbered) (h : Stepped w e w') (ha : (k, task) ∈ w.active) :
    (k, task) ∈ w'.active ∨
      (∃ world, e = .finish k world ∧ (k, task.outcome world) ∈ w'.sent) ∨
      e = .abandon k ∧ w.cancelled = true := by
  cases h with
  | @finished j other world ht =>
      by_cases hk : k = j
      · subst hk
        cases hn.task_unique ha (mem_active_of_taskUnder? ht)
        exact .inr (.inl ⟨world, rfl, List.mem_append_right _ (List.mem_singleton.2 rfl)⟩)
      · exact .inl (mem_active_drop.2 ⟨ha, hk⟩)
  | @abandoned j other hc ht =>
      by_cases hk : k = j
      · subst hk
        exact .inr (.inr ⟨rfl, hc⟩)
      · exact .inl (mem_active_drop.2 ⟨ha, hk⟩)
  | started => exact .inl (List.mem_append_left _ ha)
  | submitted | told | disconnected | dismissed | deserted | stopped => exact .inl ha

theorem not_issued_of_abandoned (hn : w.Numbered) (h : Stepped w (.abandon k) w') :
    k < w'.tickets ∧ k ∉ w'.issued := by
  cases h with
  | abandoned hc ht =>
      have hp := issued_drop hn (mem_active_of_taskUnder? ht)
      refine ⟨hn.below k (hp.mem_iff.2 List.mem_cons_self), ?_⟩
      exact (List.nodup_cons.1 (hp.nodup_iff.1 hn.distinct)).1

theorem Recorded.step (hr : Recorded es w) (h : new.run? es = some w) (hs : Stepped w e w') :
    Recorded (es ++ [e]) w' := by
  have hn := numbered_run h
  constructor
  · intro k task hq
    rcases mem_queue_step hs hq with hq | ⟨t, rfl, ht⟩ | hc
    · exact (hr.waiting k task hq).concat
    · cases ht
      exact met_last h rfl
    · cases hc
  · intro k task ha
    rcases mem_active_step hs ha with ha | ⟨rfl, hc, hq⟩
    · exact (hr.active k task ha).concat
    · exact met_last h ⟨hc, hq⟩
  · intro k o ho
    rcases mem_sent_step hs ho with ho | ⟨task, world, rfl, ha, rfl⟩
    · obtain ⟨task, world, hk, hf, rfl⟩ := hr.sent k o ho
      exact ⟨task, world, hk.concat, hf.concat, rfl⟩
    · exact ⟨task, world, (hr.active k task ha).concat, met_last h ha, rfl⟩
  · intro k hk
    rcases met_concat h hk with hk | ⟨rfl, -⟩
    · obtain ⟨hl, hi⟩ := hr.abandoned k hk
      refine ⟨Nat.lt_of_lt_of_le hl (tickets_le_step hn hs), fun hm => ?_⟩
      rcases mem_issued_step hn hs hm with hm | rfl
      · exact hi hm
      · exact Nat.lt_irrefl _ hl
    · exact not_issued_of_abandoned hn hs
  · intro k task hk
    rcases met_concat h hk with hk | ⟨rfl, -, hq⟩
    · rcases hr.received k task hk with ha | ⟨world, hf, ho⟩ | hb
      · rcases active_step hn hs ha with ha' | ⟨world, rfl, ho⟩ | ⟨rfl, hc⟩
        · exact .inl ha'
        · exact .inr (.inl ⟨world, met_last h ha, ho⟩)
        · exact .inr (.inr (met_last h hc))
      · exact .inr (.inl ⟨world, hf.concat, sent_subset_step hs ho⟩)
      · exact .inr (.inr hb.concat)
    · exact .inl (active_of_received hs hq)

theorem recorded_run (h : new.run? es = some w) : Recorded es w := by
  induction es using List.reverseRecOn generalizing w with
  | nil =>
      cases h
      exact recorded_new
  | append_singleton es e ih =>
      rw [run?_concat] at h
      obtain ⟨v, hv, hs⟩ := Option.bind_eq_some_iff.1 h
      exact (ih hv).step hv (stepped hs)

theorem fate_of_received (h : new.run? es = some w) (hk : Received es k task) :
    Fate es w k task := by
  have hn := numbered_run h
  have hr := recorded_run h
  rcases hr.received k task hk with ha | ⟨world, hf, ho⟩ | hb
  · exact .active ha (hn.outcomes_of_active ha)
  · exact .finished world hf (hn.outcomes_of_mem ho)
  · exact .abandoned hb (outcomes_of_not_issued (hr.abandoned k hb).2)

theorem submitted_of_received (h : Received es k task) : Submitted es k task := by
  obtain ⟨fs, gs, v, rfl, hv, -, hq⟩ := h
  obtain ⟨fs', gs', u, rfl, hu, hk⟩ :=
    (recorded_run hv).waiting k task (List.mem_of_mem_head? hq)
  exact ⟨fs', gs' ++ .receive :: gs, u, by simp, hu, hk⟩

end Histories

section Shutdown

inductive Behind (k : Ticket) (w : Worker) : Prop where
  | queued (before behind : List Command) (task : Task) :
      w.queue = before ++ .shutdown :: behind → .analyze k task ∈ behind → Behind k w
  | left (task : Task) : w.cancelled = true → .analyze k task ∈ w.queue → Behind k w

theorem Behind.waiting (h : Behind k w) : k ∈ w.waiting := by
  cases h with
  | queued before behind task hq hm =>
      refine List.mem_filterMap.2 ⟨.analyze k task, ?_, rfl⟩
      rw [hq]
      exact List.mem_append_right _ (List.mem_cons_of_mem _ hm)
  | left task _ hm => exact List.mem_filterMap.2 ⟨_, hm, rfl⟩

theorem Behind.send (h : Behind k w) (c : Command) : Behind k (w.send c) := by
  cases h with
  | queued before behind task hq hm =>
      refine .queued before (behind ++ [c]) task ?_ (List.mem_append_left _ hm)
      simp [Worker.send, hq]
  | left task hc hm => exact .left task hc (List.mem_append_left _ hm)

theorem Behind.of_queue (h : Behind k w) (hq : w'.queue = w.queue)
    (hc : w'.cancelled = w.cancelled) : Behind k w' := by
  cases h with
  | queued before behind task hs hm => exact .queued before behind task (hq.trans hs) hm
  | left task hl hm => exact .left task (hc.trans hl) (hq ▸ hm)

theorem Behind.step (h : Behind k w) (hs : Stepped w e w') : Behind k w' := by
  cases hs with
  | submitted => exact (h.send _).of_queue rfl rfl
  | told => exact h.send _
  | started hc hq =>
      cases h with
      | queued before behind task hb hm =>
          cases before with
          | nil => cases hq.symm.trans hb
          | cons c before =>
              have ht := (List.cons.inj (hq.symm.trans hb)).2
              exact .queued before behind task ht hm
      | left task hl => cases hc.symm.trans hl
  | dismissed hc hq =>
      cases h with
      | queued before behind task hb hm =>
          refine .left task rfl ?_
          cases before with
          | nil =>
              have ht := (List.cons.inj (hq.symm.trans hb)).2
              exact ht ▸ hm
          | cons c before =>
              have ht := (List.cons.inj (hq.symm.trans hb)).2
              exact ht ▸ List.mem_append_right _ (List.mem_cons_of_mem _ hm)
      | left task hl => cases hc.symm.trans hl
  | deserted hc hq =>
      have hw := h.waiting
      simp [Worker.waiting, hq] at hw
  | disconnected | finished | abandoned | stopped => exact h.of_queue rfl rfl

theorem Behind.run (h : Behind k w) (hr : w.run? es = some w') : Behind k w' :=
  run?_induction (fun hb hs => hb.step hs) h hr

def Idle (w : Worker) : Prop :=
  w.stopped = true → w.cancelled = true ∧ w.active = []

theorem Idle.step (h : Idle w) (hs : Stepped w e w') : Idle w' := by
  intro hw
  cases hs with
  | submitted | told | disconnected => exact h hw
  | started hc | dismissed hc | deserted hc => cases hc.symm.trans (h hw).1
  | finished | abandoned =>
      obtain ⟨hc, ha⟩ := h hw
      exact ⟨hc, by simp [drop, ha]⟩
  | stopped hc ha => exact ⟨hc, ha⟩

theorem idle_run (h : new.run? es = some w) : Idle w :=
  run?_induction (fun hi hs => hi.step hs) (by intro hw; cases hw) h

end Shutdown

theorem each_taken_task_has_one_outcome (es : List Event) (w : Worker)
    (h : new.run? es = some w) :
    (∀ k, (w.outcomes k).length ≤ 1) ∧
      (∀ k o, (k, o) ∈ w.sent →
        ∃ task world, Submitted es k task ∧ Received es k task ∧ Finished es k task world ∧
          o.job = task.job.id ∧ o.uri = task.job.uri ∧ o.version = task.job.version ∧
          o.result = (task.analyzer.run world task.job).result) ∧
      (∀ k task, Received es k task → Fate es w k task) ∧
      (∀ k task world, (k, task) ∈ w.active →
        ∃ w', w.step? (.finish k world) = some w' ∧ w'.outcomes k = [task.outcome world]) ∧
      (∀ fs gs v k before behind task, es = fs ++ gs → new.run? fs = some v →
        v.queue = before ++ .shutdown :: behind → .analyze k task ∈ behind →
          w.outcomes k = []) ∧
      (w.stopped = true → w.active = []) := by
  have hn := numbered_run h
  have hr := recorded_run h
  refine ⟨?_, ?_, ?_, ?_, ?_, ?_⟩
  · intro k
    rcases hn.outcomes_cases k with ho | ⟨o, -, ho⟩ <;> simp [ho]
  · intro k o ho
    obtain ⟨task, world, hk, hf, rfl⟩ := hr.sent k o ho
    exact ⟨task, world, submitted_of_received hk, hk, hf, rfl, rfl, rfl, rfl⟩
  · intro k task hk
    exact fate_of_received h hk
  · intro k task world ha
    have hs : w.step? (.finish k world) =
        some { w.drop k with sent := w.sent ++ [(k, task.outcome world)] } :=
      Option.map_eq_some_iff.2 ⟨task, hn.taskUnder?_of_mem ha, rfl⟩
    refine ⟨_, hs, (hn.step (stepped hs)).outcomes_of_mem ?_⟩
    exact List.mem_append_right _ (List.mem_singleton.2 rfl)
  · intro fs gs v k before behind task he hv hq hm
    subst he
    obtain ⟨u, hu, hg⟩ := run?_split h
    cases hv.symm.trans hu
    exact hn.outcomes_of_waiting ((Behind.queued before behind task hq hm).run hg).waiting
  · intro hs
    exact (idle_run h hs).2

section Dismissal

def noteTask (job : JobId) : Task where
  job := {
    id := job, uri := ⟨"untitled", none, "", .plain "A.sol", none, none⟩, path := Path.ofText "A.sol"
    version := some 1, content := "contract A {}", options := {} }
  analyzer := .embedded

def panicWorld : World where
  site := {
    disk := {}, compiler := fun _ => default, scratch := Path.ofText "/tmp", freshName := "a" }
  backend := fun _ => .panic "task 3 panicked"

def dismissal : List Event :=
  [.submit (noteTask 7), .receive, .submit (noteTask 8), .shutdown, .submit (noteTask 9),
    .receive, .receive, .finish 0 panicWorld, .abandon 1, .stop]

theorem panicking_task_has_one_outcome :
    ∃ w, new.run? dismissal = some w ∧ w.outcomes 0 = [(noteTask 7).outcome panicWorld] ∧
      ((noteTask 7).outcome panicWorld).result =
        .error (.backend "compile task did not finish: task 3 panicked" false) ∧
      w.outcomes 2 = [] ∧ w.stopped = true ∧ w.active = [] := by
  obtain ⟨-, -, -, -, hb, ha⟩ := each_taken_task_has_one_outcome dismissal _ rfl
  refine ⟨_, rfl, rfl, rfl, ?_, rfl, ha rfl⟩
  exact hb (dismissal.take 5) (dismissal.drop 5) _ 2 [.analyze 1 (noteTask 8)] _ (noteTask 9)
    rfl rfl rfl (List.mem_singleton.2 rfl)

end Dismissal

end Worker

end ContractLint
