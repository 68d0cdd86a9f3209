import ContractLint.Proofs.Server.Snapshot

namespace ContractLint

def Message.publishes : Message → Bool
  | .diagnostics .. => true
  | _ => false

def Message.listFor? (uri : Url) : Message → Option (List Diagnostic.Published)
  | .diagnostics u _ ds => if u = uri then some ds else none
  | _ => none

def Client : Type :=
  Url → Option (List Diagnostic.Published)

namespace Client

def blank : Client :=
  fun _ => none

def receive (c : Client) : Message → Client
  | .diagnostics uri _ ds => fun u => if u = uri then some ds else c u
  | _ => c

theorem receive_eq (c : Client) (m : Message) (uri : Url) :
    c.receive m uri = (m.listFor? uri).or (c uri) := by
  cases m with
  | reply | refusal | notice => rfl
  | diagnostics u version ds =>
      change (if uri = u then some ds else c uri) = Option.or (if u = uri then some ds else none) _
      by_cases h : u = uri
      · rw [if_pos h, if_pos h.symm, Option.some_or]
      · rw [if_neg h, if_neg (Ne.symm h), Option.none_or]

theorem foldl_receive (c : Client) (ms : List Message) (uri : Url) :
    ms.foldl receive c uri = ((ms.filterMap (Message.listFor? uri)).getLast?).or (c uri) := by
  induction ms generalizing c with
  | nil => simp
  | cons m ms ih =>
      rw [List.foldl_cons, ih, receive_eq]
      cases hm : m.listFor? uri with
      | none => rw [List.filterMap_cons_none hm, Option.none_or]
      | some ds =>
          rw [List.filterMap_cons_some hm, List.getLast?_cons]
          cases (ms.filterMap (Message.listFor? uri)).getLast? <;> rfl

end Client

namespace Server

section Origins

variable {α : Type} {f : Message → Option α}

theorem filterMap_recorded (hn : ∀ text, f (.notice text) = none)
    (ha : ∀ m : Message, m.answers?.isSome → f m = none) (r : Run) (e : Event) :
    ((r.recorded? e).toList.flatMap Entry.messages).filterMap f =
      (r.published? e).toList.filterMap fun o => f o.publication := by
  have h := r.happened e
  simp only [Run.published?]
  generalize r.recorded? e = entry, r.step e = r' at h
  cases h with
  | server hs =>
      obtain ⟨answer, hq, hf⟩ := Run.filterMap_sent_of_serverStep f hn hs
      simp only [Option.toList_some, List.flatMap_singleton, Entry.messages, hf]
      rcases Run.answer_cases hq with ⟨rfl, -⟩ | ⟨m, id, rfl, -, hm⟩
      · rfl
      · have hs : m.answers?.isSome := by
          rw [hm]
          rfl
        simp [ha m hs, Entry.published?]
  | @published o ho =>
      simp only [Option.toList_some, List.flatMap_singleton, Entry.messages, Outcome.messages_eq,
        List.filterMap_append]
      have hp : [o.publication].filterMap f = [o].filterMap fun o => f o.publication := by
        simp only [List.filterMap_cons]
        rfl
      cases o.notice? <;> simp [hn, Entry.published?, hp]
  | finished | unknown | silent | abandoned | stopped | outside => rfl

theorem filterMap_sent (hn : ∀ text, f (.notice text) = none)
    (ha : ∀ m : Message, m.answers?.isSome → f m = none) (r : Run) (es : List Event) :
    (r.after es).sent.filterMap f =
      r.sent.filterMap f ++ (r.publications es).filterMap fun o => f o.publication := by
  induction es generalizing r with
  | nil => exact (List.append_nil _).symm
  | cons e es ih =>
      rw [Run.after_cons, ih, Run.sent_step, List.filterMap_append, filterMap_recorded hn ha,
        Run.publications_cons, List.filterMap_append, List.append_assoc]

end Origins

section Publications

variable {r : Run} {es : List Event}

theorem publications_after (r : Run) (es : List Event) :
    (r.after es).sent.filter Message.publishes =
      r.sent.filter Message.publishes ++ (r.publications es).map Outcome.publication := by
  have ha : ∀ m : Message, m.answers?.isSome → Option.guard Message.publishes m = none := by
    intro m hm
    cases m with
    | reply | refusal | notice => rfl
    | diagnostics => cases hm
  have h := filterMap_sent (fun _ => rfl) ha r es
  rw [List.filterMap_eq_filter] at h
  rw [h, ← List.filterMap_eq_map]
  rfl

theorem lists_after (r : Run) (es : List Event) (uri : Url) :
    (r.after es).sent.filterMap (Message.listFor? uri) =
      r.sent.filterMap (Message.listFor? uri) ++
        ((r.publications es).filter fun o => o.uri = uri).map Outcome.shown := by
  have ha : ∀ m : Message, m.answers?.isSome → m.listFor? uri = none := by
    intro m hm
    cases m with
    | reply | refusal | notice => rfl
    | diagnostics => cases hm
  rw [filterMap_sent (fun _ => rfl) ha]
  congr 1
  induction r.publications es with
  | nil => rfl
  | cons o os ih =>
      by_cases hu : o.uri = uri <;> simp [Outcome.publication, Message.listFor?, hu, ← ih]

theorem shown_after (workspace : Workspace) (settings : Settings) (world : World)
    (es : List Event) (uri : Url) :
    let r := begin workspace settings world
    (r.after es).sent.foldl Client.receive Client.blank uri =
      (((r.publications es).filter fun o => o.uri = uri).getLast?).map Outcome.shown := by
  intro r
  have hb : r.sent.filterMap (Message.listFor? uri) = [] := rfl
  rw [Client.foldl_receive, lists_after, hb, List.nil_append, List.getLast?_map]
  exact Option.or_none

end Publications

namespace Run

variable {r : Run} {e : Event} {es : List Event} {o p : Outcome} {uri : Url}

section Deliveries

inductive Delivery (r : Run) (es : List Event) (o : Outcome) : Prop where
  | unread : o ∈ (r.after es).unread → r.published es o.job = [] → Delivery r es o
  | published (fs gs : List Event) :
      es = fs ++ .publish o.job :: gs → o ∈ (r.after fs).unread →
        r.published es o.job = [o] → o ∉ (r.after es).unread → Delivery r es o

theorem published_append (hn : r.Numbered) (hu : r.unread = []) (h : r.outcomes es o.job = [o]) :
    r.published es o.job ++ (r.after es).unread.filter (fun p => p.job = o.job) = [o] := by
  have hp := (publications_perm hn es).filter fun p => p.job = o.job
  rw [hu, List.nil_append, List.filter_append] at hp
  rw [outcomes] at h
  rw [h] at hp
  exact List.perm_singleton.1 hp

theorem delivery_of_outcomes (hn : r.Numbered) (hu : r.unread = [])
    (h : r.outcomes es o.job = [o]) : r.Delivery es o := by
  rcases List.append_eq_singleton_iff.1 (published_append hn hu h) with ⟨hp, hr⟩ | ⟨hp, hr⟩
  · have ho : o ∈ (r.after es).unread.filter fun p => p.job = o.job := by
      rw [hr]
      exact List.mem_singleton.2 rfl
    exact .unread (List.mem_filter.1 ho).1 hp
  · have ho : o ∈ r.published es o.job := by
      rw [hp]
      exact List.mem_singleton.2 rfl
    obtain ⟨fs, e, gs, hes, hf⟩ := mem_publications (List.mem_filter.1 ho).1
    obtain ⟨rfl, hm⟩ := published_step hf
    refine .published fs gs hes hm hp fun hl => ?_
    have hl : o ∈ (r.after es).unread.filter fun p => p.job = o.job :=
      List.mem_filter.2 ⟨hl, by simp⟩
    rw [hr] at hl
    cases hl

theorem completions_accepted (ho : o ∈ r.completions es) :
    (∃ t ∈ r.pending, o.job = t.job.id) ∨ ∃ t ∈ r.accepted es, o.job = t.job.id := by
  induction es generalizing r with
  | nil => cases ho
  | cons e es ih =>
      rw [completions_cons, List.mem_append, Option.mem_toList] at ho
      rw [accepted_cons]
      rcases ho with ho | ho
      · obtain ⟨t, ht, -, rfl⟩ := finished_step ho
        exact .inl ⟨t, ht, rfl⟩
      · rcases ih ho with ⟨t, ht, hj⟩ | ⟨t, ht, hj⟩
        · rcases (mem_pending_step r e).1 ht with ⟨ht, -⟩ | hq
          · exact .inl ⟨t, ht, hj⟩
          · exact .inr ⟨t, List.mem_append_left _ (Option.mem_toList.2 hq), hj⟩
        · exact .inr ⟨t, List.mem_append_right _ ht, hj⟩

structure Origin (r : Run) (es : List Event) (o : Outcome) (t : Task) (fs gs : List Event) :
    Prop where
  accepted : t ∈ r.accepted es
  split : es = fs ++ .finish t.job.id :: gs
  pending : t ∈ (r.after fs).pending
  outcome : o = t.outcome (r.after fs).world
  only : r.outcomes es t.job.id = [o]

theorem origin_of_completion (hn : r.Numbered) (hp : r.pending = [])
    (ho : o ∈ r.completions es) : ∃ t fs gs, r.Origin es o t fs gs := by
  have ht : ∃ t ∈ r.accepted es, o.job = t.job.id := by
    rcases completions_accepted ho with ⟨t, ht, -⟩ | ht
    · rw [hp] at ht
      cases ht
    · exact ht
  obtain ⟨t, ht, hj⟩ := ht
  have hm : o ∈ r.outcomes es t.job.id := List.mem_filter.2 ⟨ho, by simp [hj]⟩
  cases fate_of_accepted hn ht with
  | pending _ h | abandoned _ _ _ _ h =>
      rw [h] at hm
      cases hm
  | finished fs gs hes hf h =>
      rw [h] at hm
      have heq := List.mem_singleton.1 hm
      exact ⟨t, fs, gs, ht, hes, hf, heq, heq ▸ h⟩

end Deliveries

section Turns

def inTurn (r : Run) (uri : Url) : Event → Bool
  | .publish job =>
      (r.outcome? job).all fun o =>
        o.uri != uri ||
          ((r.unread.filter fun p => p.uri = uri).head?.map fun p => p.job) == some job
  | _ => true

def orderly (r : Run) (uri : Url) : List Event → Bool
  | [] => true
  | e :: es => r.inTurn uri e && (r.step e).orderly uri es

theorem Numbered.outcome_unique (hn : r.Numbered) (ho : o ∈ r.unread) (hp : p ∈ r.unread)
    (h : o.job = p.job) : o = p :=
  List.inj_on_of_nodup_map hn.single ho hp h

theorem Numbered.head_of_inTurn (hn : r.Numbered) (ho : o ∈ r.unread) (hu : o.uri = uri)
    (h : r.inTurn uri (.publish o.job) = true) :
    (r.unread.filter fun p => p.uri = uri).head? = some o := by
  rw [inTurn, hn.outcome?_of_mem ho] at h
  simp only [Option.all_some, hu, bne_self_eq_false, Bool.false_or, beq_iff_eq,
    Option.map_eq_some_iff] at h
  obtain ⟨p, hp, hj⟩ := h
  have hm : p ∈ r.unread := (List.mem_filter.1 (List.mem_of_mem_head? hp)).1
  rw [hp, hn.outcome_unique hm ho hj]

theorem remaining_of_unpublished (hn : r.Numbered) (h : r.published? e = none) :
    r.remaining e = r.unread := by
  have hp := remaining_perm hn e
  rw [h] at hp
  exact List.filter_sublist.eq_of_length hp.length_eq

theorem remaining_filter (o : Outcome) (uri : Url) :
    (r.remaining (.publish o.job)).filter (fun p => p.uri = uri) =
      (r.unread.filter fun p => p.uri = uri).filter fun p => !(p.job == o.job) :=
  List.filter_comm ..

theorem remaining_inTurn (hn : r.Numbered) (h : r.inTurn uri e = true) :
    ((r.published? e).toList ++ r.remaining e).filter (fun p => p.uri = uri) =
      r.unread.filter fun p => p.uri = uri := by
  cases hp : r.published? e with
  | none =>
      rw [remaining_of_unpublished hn hp]
      rfl
  | some o =>
      obtain ⟨rfl, ho⟩ := published_step hp
      rw [Option.toList_some, List.filter_append, remaining_filter]
      by_cases hu : o.uri = uri
      · obtain ⟨rest, hr⟩ := List.head?_eq_some_iff.1 (hn.head_of_inTurn ho hu h)
        have hd : ((o :: rest).map fun p => p.job).Nodup := by
          rw [← hr]
          exact hn.single.sublist (List.filter_sublist.map _)
        rw [hr, filter_behind hd]
        simp [hu]
      · have hk : ∀ p ∈ r.unread.filter (fun p => p.uri = uri), !(p.job == o.job) := by
          intro p hm
          obtain ⟨hm, hv⟩ := List.mem_filter.1 hm
          have hj : p.job ≠ o.job := by
            intro hj
            rw [hn.outcome_unique hm ho hj] at hv
            exact hu (by simpa using hv)
          simp [hj]
        rw [List.filter_eq_self.2 hk]
        simp [hu]

theorem publications_inTurn (hn : r.Numbered) (h : r.orderly uri es = true) :
    (r.publications es ++ (r.after es).unread).filter (fun p => p.uri = uri) =
      (r.unread ++ r.completions es).filter fun p => p.uri = uri := by
  induction es generalizing r with
  | nil => exact congrArg _ (List.append_nil _).symm
  | cons e es ih =>
      obtain ⟨he, hs⟩ := Bool.and_eq_true_iff.1 h
      rw [publications_cons, completions_cons, after_cons, List.append_assoc, List.filter_append,
        ih (hn.step e) hs, ← List.filter_append, unread_step, ← List.append_assoc,
        ← List.append_assoc, List.filter_append, List.filter_append, remaining_inTurn hn he]
      simp only [List.filter_append, List.append_assoc]

end Turns

end Run

theorem each_outcome_is_published_once (workspace : Workspace) (settings : Settings)
    (world : World) (es : List Event) :
    let r := begin workspace settings world
    (r.after es).sent = (r.history es).flatMap Entry.messages ∧
      (r.after es).sent.filter Message.publishes = (r.publications es).map Outcome.publication ∧
      ((r.accepted es).map fun t => t.job.id).Nodup ∧
      (∀ t ∈ r.accepted es, r.Fate es t) ∧
      (∀ o ∈ r.completions es, ∃ t fs gs, r.Origin es o t fs gs) ∧
      (r.publications es ++ (r.after es).unread).Perm (r.completions es) ∧
      (∀ o ∈ r.completions es, r.Delivery es o) ∧
      (∀ t ∈ (r.after es).pending,
        (r.after (es ++ [.finish t.job.id])).sent = (r.after es).sent ∧
          (r.after (es ++ [.finish t.job.id])).unread =
            (r.after es).unread ++ [t.outcome (r.after es).world]) ∧
      (∀ o ∈ (r.after es).unread,
        (r.after (es ++ [.publish o.job])).sent =
          (r.after es).sent ++ (o.notice?.map Message.notice).toList ++ [o.publication]) ∧
      ∀ uri,
        let shown := (r.after es).sent.foldl Client.receive Client.blank uri
        shown = (((r.publications es).filter fun o => o.uri = uri).getLast?).map Outcome.shown ∧
          (r.orderly uri es = true → (r.after es).unread.filter (fun o => o.uri = uri) = [] →
            shown =
              (((r.completions es).filter fun o => o.uri = uri).getLast?).map Outcome.shown) := by
  intro r
  have hn : r.Numbered := Run.numbered_begin workspace settings world
  refine ⟨?_, ?_, ?_, ?_, ?_, ?_, ?_, ?_, ?_, ?_⟩
  · exact Run.sent_after r es
  · exact publications_after r es
  · rw [List.Nodup, List.pairwise_map]
    exact (Run.accepted_ascending r es).imp fun h => Nat.ne_of_lt h
  · intro t ht
    exact Run.fate_of_accepted hn ht
  · intro o ho
    exact Run.origin_of_completion hn rfl ho
  · exact Run.publications_perm hn es
  · intro o ho
    obtain ⟨t, fs, gs, h⟩ := Run.origin_of_completion hn rfl ho
    have hj : o.job = t.job.id := congrArg Outcome.job h.outcome
    exact Run.delivery_of_outcomes hn rfl (hj ▸ h.only)
  · intro t ht
    rw [Run.after_append]
    exact ⟨(hn.after es).sent_finish ht, (hn.after es).unread_finish ht⟩
  · intro o ho
    rw [Run.after_append, List.append_assoc, ← Outcome.messages_eq]
    exact (hn.after es).sent_publish ho
  · intro uri shown
    have hs := shown_after workspace settings world es uri
    refine ⟨hs, fun ho hu => ?_⟩
    have hb : r.unread = [] := rfl
    have hp := Run.publications_inTurn hn ho
    rw [List.filter_append, hu, List.append_nil, hb, List.nil_append] at hp
    rw [← hp]
    exact hs

section Overtaking

def markedFinding : String :=
  "\x7b\"tag\":\"throw\",\"desc\":\"\",\"startline\":1,\"startcolumn\":1,\"endline\":1," ++
    "\"endcolumn\":6\x7d"

def markedWorld : World :=
  { bareWorld with
    backend := fun q =>
      .output ("\x7b\"errors\":[" ++ (if q.source = "contract A {}" then markedFinding else "") ++
        "]\x7d") }

def draftsFinished : List Event :=
  [openDraft, .analyze draft, editDraft, .analyze draft, .finish 0, .finish 1]

theorem overtaking_outcome_is_replaced :
    let r := begin {} {} markedWorld
    let es := draftsFinished ++ [.publish 1, .publish 0]
    let q := r.after es
    q.accepting = true ∧ q.pending = [] ∧ q.unread = [] ∧
      (r.completions es).map (fun o => (o.uri, o.version, o.shown.length)) =
        [(draft, some 1, 1), (draft, some 2, 0)] ∧
      (q.sent.foldl Client.receive Client.blank draft).map List.length = some 1 ∧
      q.sent.foldl Client.receive Client.blank draft ≠
        (((r.completions es).filter fun o => o.uri = draft).getLast?).map Outcome.shown := by
  decide +kernel

theorem awaited_drafts_are_shown_in_turn :
    let r := begin {} {} markedWorld
    let es := draftsFinished ++ [.publish 0, .publish 1]
    r.orderly draft es = true ∧
      (r.after es).sent.foldl Client.receive Client.blank draft =
        (((r.completions es).filter fun o => o.uri = draft).getLast?).map Outcome.shown ∧
      (((r.completions es).filter fun o => o.uri = draft).getLast?).map Outcome.version =
        some (some 2) := by
  have ho : (begin {} {} markedWorld).orderly draft (draftsFinished ++ [.publish 0, .publish 1]) =
      true := by decide +kernel
  obtain ⟨-, -, -, -, -, -, -, -, -, hc⟩ :=
    each_outcome_is_published_once {} {} markedWorld (draftsFinished ++ [.publish 0, .publish 1])
  exact ⟨ho, (hc draft).2 ho (by decide +kernel), by decide +kernel⟩

end Overtaking

end Server

end ContractLint
