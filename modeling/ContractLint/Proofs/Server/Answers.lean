import ContractLint.Proofs.Server.History
import ContractLint.Server.Wire

namespace ContractLint.Server

variable {s : Server} {out : Outside} {id : RequestId} {method : String} {params : Json}
  {refusal : Refusal}

section Cases

inductive NotFound (method : String) (params : Json) : Refusal → Prop where
  | method : method ≠ executeCommand → NotFound method params (.unhandledMethod method)
  | command {c : Params.ExecuteCommand} :
      method = executeCommand → Params.ExecuteCommand.ofJson params = .ok c →
        c.command ≠ CommandName.analyze → c.command ≠ CommandName.describeRules →
        NotFound method params (.unknownCommand c.command)

inductive Fails (s : Server) (out : Outside) (params : Json) : Refusal → Prop where
  | undecodable {cause : Json.Cause} :
      Params.ExecuteCommand.ofJson params = .error cause → Fails s out params (.badParams cause)
  | noActiveDocument {c : Params.ExecuteCommand} :
      Params.ExecuteCommand.ofJson params = .ok c → c.command = CommandName.analyze →
        c.arguments = [] → s.documents.lastActive = none → Fails s out params .noActiveDocument
  | badArgument {c : Params.ExecuteCommand} {v : Json} {vs : List Json} {refusal : Refusal} :
      Params.ExecuteCommand.ofJson params = .ok c → c.command = CommandName.analyze →
        c.arguments = v :: vs → s.urlOfArgument v = .error refusal → Fails s out params refusal
  | unreadable {c : Params.ExecuteCommand} {uri : Url} {e : IoError} :
      Params.ExecuteCommand.ofJson params = .ok c → c.command = CommandName.analyze →
        s.target c.arguments = .ok uri → s.documents.isSolidity uri = true →
        s.documents.get? uri = none → out.disk.readText uri.location = .error e →
        Fails s out params (.unreadable uri.location)
  | workerStopped {c : Params.ExecuteCommand} {uri : Url} {text : String}
      {version : Option Int32} :
      Params.ExecuteCommand.ofJson params = .ok c → c.command = CommandName.analyze →
        s.target c.arguments = .ok uri → s.documents.isSolidity uri = true →
        Content s out.disk uri text version → out.accepting = false →
        Fails s out params .workerStopped

inductive Succeeds (s : Server) (out : Outside) (params : Json) : Reply → Option Task → Prop where
  | rules {c : Params.ExecuteCommand} :
      Params.ExecuteCommand.ofJson params = .ok c → c.command = CommandName.describeRules →
        Succeeds s out params (.rules Registry.builtin.listing) none
  | skipped {c : Params.ExecuteCommand} {uri : Url} :
      Params.ExecuteCommand.ofJson params = .ok c → c.command = CommandName.analyze →
        s.target c.arguments = .ok uri → s.documents.isSolidity uri = false →
        Succeeds s out params (.analyzed uri none) none
  | queued {c : Params.ExecuteCommand} {uri : Url} {text : String} {version : Option Int32} :
      Params.ExecuteCommand.ofJson params = .ok c → c.command = CommandName.analyze →
        s.target c.arguments = .ok uri → s.documents.isSolidity uri = true →
        Content s out.disk uri text version → out.accepting = true →
        Succeeds s out params (.analyzed uri (some s.nextJob))
          (some (s.task uri uri.location text version))

theorem target_eq_error_iff {arguments : List Json} :
    s.target arguments = .error refusal ↔
      (arguments = [] ∧ s.documents.lastActive = none ∧ refusal = .noActiveDocument) ∨
        ∃ v vs, arguments = v :: vs ∧ s.urlOfArgument v = .error refusal := by
  cases arguments with
  | nil =>
      simp only [target]
      cases s.documents.lastActive <;> simp [eq_comm]
  | cons v vs => simp [target]

theorem notFound_or_fails_or_succeeds (s : Server) (out : Outside) (method : String)
    (params : Json) :
    (∃ refusal, NotFound method params refusal) ∨
      method = executeCommand ∧
        ((∃ refusal, Fails s out params refusal) ∨ ∃ reply task, Succeeds s out params reply task) := by
  by_cases hm : method = executeCommand
  · cases hp : Params.ExecuteCommand.ofJson params with
    | error cause => exact .inr ⟨hm, .inl ⟨_, .undecodable hp⟩⟩
    | ok c =>
        by_cases ha : c.command = CommandName.analyze
        · refine .inr ⟨hm, ?_⟩
          cases ht : s.target c.arguments with
          | error refusal =>
              rcases target_eq_error_iff.1 ht with ⟨hn, hl, rfl⟩ | ⟨v, vs, hv, hu⟩
              · exact .inl ⟨_, .noActiveDocument hp ha hn hl⟩
              · exact .inl ⟨_, .badArgument hp ha hv hu⟩
          | ok uri =>
              obtain ⟨a, ha'⟩ : ∃ a, Attempted s out uri a := ⟨_, attempted s out uri⟩
              cases ha' with
              | skipped hs => exact .inr ⟨_, _, .skipped hp ha ht hs⟩
              | unreadable hs hd hr => exact .inl ⟨_, .unreadable hp ha ht hs hd hr⟩
              | stopped hs hc hw => exact .inl ⟨_, .workerStopped hp ha ht hs hc hw⟩
              | queued hs hc hw => exact .inr ⟨_, _, .queued hp ha ht hs hc hw⟩
        · by_cases hd : c.command = CommandName.describeRules
          · exact .inr ⟨hm, .inr ⟨_, _, .rules hp hd⟩⟩
          · exact .inl ⟨_, .command hm hp ha hd⟩
  · exact .inl ⟨_, .method hm⟩

end Cases

section Outcomes

theorem request_of_notFound (id : RequestId) (h : NotFound method params refusal) :
    s.request out id method params = s.refuse id refusal := by
  cases h with
  | method hm => simp only [request, if_neg hm]
  | command hm hp ha hd =>
      simp only [request, if_pos hm, answerCommand, hp, if_neg ha, if_neg hd]

theorem request_of_analyze {c : Params.ExecuteCommand} (id : RequestId)
    (hp : Params.ExecuteCommand.ofJson params = .ok c) (ha : c.command = CommandName.analyze) :
    s.request out id executeCommand params = s.answerAnalyze out id c.arguments := by
  simp only [request, if_true, answerCommand, hp, if_pos ha]

theorem answerAnalyze_of_refused {arguments : List Json} (id : RequestId)
    (h : s.target arguments = .error refusal) :
    s.answerAnalyze out id arguments = s.refuse id refusal := by
  simp only [answerAnalyze, h]

theorem request_of_fails (id : RequestId) (h : Fails s out params refusal) :
    ∃ tags : List String, s.request out id executeCommand params =
      { server := s, sent := tags.map Message.unknownCheck ++ [.refusal id refusal] } := by
  cases h with
  | undecodable hp => exact ⟨[], by simp only [request, if_true, answerCommand, hp]; rfl⟩
  | noActiveDocument hp ha hn hl =>
      have ht := target_eq_error_iff.2 (.inl ⟨hn, hl, rfl⟩)
      exact ⟨[], by rw [request_of_analyze id hp ha, answerAnalyze_of_refused id ht]; rfl⟩
  | badArgument hp ha hv hu =>
      have ht := target_eq_error_iff.2 (.inr ⟨_, _, hv, hu⟩)
      exact ⟨[], by rw [request_of_analyze id hp ha, answerAnalyze_of_refused id ht]; rfl⟩
  | unreadable hp ha ht hs hd hr =>
      refine ⟨[], ?_⟩
      rw [request_of_analyze id hp ha, answerAnalyze_of_target id ht,
        attempt_of_unreadable hs hd hr]
      rfl
  | workerStopped hp ha ht hs hc hw =>
      refine ⟨s.settings.unknownTags .builtin, ?_⟩
      rw [request_of_analyze id hp ha, answerAnalyze_of_target id ht, attempt_of_content hs hc, hw]
      rfl

theorem request_of_succeeds {reply : Reply} {task : Option Task} (id : RequestId)
    (h : Succeeds s out params reply task) :
    ∃ tags : List String, s.request out id executeCommand params =
      { server := s.count task, sent := tags.map Message.unknownCheck ++ [.reply id reply]
        queued := task } := by
  cases h with
  | rules hp hd =>
      have ha : CommandName.describeRules ≠ CommandName.analyze := by decide
      exact ⟨[], by simp only [request, if_true, answerCommand, hp, hd, if_neg ha]; rfl⟩
  | skipped hp ha ht hs =>
      refine ⟨[], ?_⟩
      rw [request_of_analyze id hp ha, answerAnalyze_of_target id ht, attempt_of_skipped hs]
      rfl
  | queued hp ha ht hs hc hw =>
      refine ⟨s.settings.unknownTags .builtin, ?_⟩
      rw [request_of_analyze id hp ha, answerAnalyze_of_target id ht, attempt_of_content hs hc, hw]
      rfl

theorem code_of_notFound (h : NotFound method params refusal) : refusal.code = -32601 := by
  cases h <;> rfl

theorem code_of_urlOfPath {text : String} (h : s.urlOfPath text = .error refusal) :
    refusal.code = -32603 := by
  simp only [urlOfPath] at h
  split at h
  · cases h
  · cases h; rfl

theorem code_of_urlOfText {text : String} (h : s.urlOfText text = .error refusal) :
    refusal.code = -32603 := by
  simp only [urlOfText] at h
  split at h
  · split at h
    · cases h
    · cases h; rfl
  · exact code_of_urlOfPath h

theorem code_of_urlOfArgument {v : Json} (h : s.urlOfArgument v = .error refusal) :
    refusal.code = -32603 := by
  simp only [urlOfArgument] at h
  split at h
  · exact code_of_urlOfText h
  · split at h
    · exact code_of_urlOfText h
    · split at h
      · exact code_of_urlOfPath h
      · cases h; rfl
  · cases h; rfl

theorem code_of_fails (h : Fails s out params refusal) : refusal.code = -32603 := by
  cases h with
  | badArgument _ _ _ hu => exact code_of_urlOfArgument hu
  | undecodable | noActiveDocument | unreadable | workerStopped => rfl

end Outcomes

section Answers

variable {answer : Message}

theorem last_of_notFound (id : RequestId) (h : NotFound method params refusal) :
    (s.request out id method params).sent.getLast? = some (.refusal id refusal) := by
  rw [request_of_notFound id h]
  rfl

theorem last_of_fails (id : RequestId) (h : Fails s out params refusal) :
    (s.request out id executeCommand params).sent.getLast? = some (.refusal id refusal) := by
  obtain ⟨tags, hr⟩ := request_of_fails id h
  rw [hr]
  exact List.getLast?_concat

theorem last_of_succeeds {reply : Reply} {task : Option Task} (id : RequestId)
    (h : Succeeds s out params reply task) :
    (s.request out id executeCommand params).sent.getLast? = some (.reply id reply) := by
  obtain ⟨tags, hr⟩ := request_of_succeeds id h
  rw [hr]
  exact List.getLast?_concat

theorem answer_notFound_iff (h : (s.request out id method params).sent.getLast? = some answer) :
    (∃ refusal, answer = .refusal id refusal ∧ refusal.code = -32601) ↔
      ∃ refusal, NotFound method params refusal := by
  constructor
  · rintro ⟨refusal, rfl, hc⟩
    rcases notFound_or_fails_or_succeeds s out method params with hn | ⟨rfl, ⟨_, hf⟩ | ⟨_, _, hs⟩⟩
    · exact hn
    · cases h.symm.trans (last_of_fails id hf)
      rw [code_of_fails hf] at hc
      exact absurd hc (by decide)
    · cases h.symm.trans (last_of_succeeds id hs)
  · rintro ⟨refusal, hn⟩
    exact ⟨refusal, Option.some.inj (h.symm.trans (last_of_notFound id hn)), code_of_notFound hn⟩

theorem answer_failed_iff (h : (s.request out id method params).sent.getLast? = some answer) :
    (∃ refusal, answer = .refusal id refusal ∧ refusal.code = -32603) ↔
      method = executeCommand ∧ ∃ refusal, Fails s out params refusal := by
  constructor
  · rintro ⟨refusal, rfl, hc⟩
    rcases notFound_or_fails_or_succeeds s out method params with ⟨_, hn⟩ | ⟨rfl, hf | ⟨_, _, hs⟩⟩
    · cases h.symm.trans (last_of_notFound id hn)
      rw [code_of_notFound hn] at hc
      exact absurd hc (by decide)
    · exact ⟨rfl, hf⟩
    · cases h.symm.trans (last_of_succeeds id hs)
  · rintro ⟨rfl, refusal, hf⟩
    exact ⟨refusal, Option.some.inj (h.symm.trans (last_of_fails id hf)), code_of_fails hf⟩

theorem answer_reply_iff (h : (s.request out id method params).sent.getLast? = some answer) :
    (∃ reply, answer = .reply id reply) ↔
      ¬ (∃ refusal, NotFound method params refusal) ∧
        ¬ (method = executeCommand ∧ ∃ refusal, Fails s out params refusal) := by
  rw [← answer_notFound_iff h, ← answer_failed_iff h]
  constructor
  · rintro ⟨reply, rfl⟩
    constructor
    · rintro ⟨_, hr, -⟩
      cases hr
    · rintro ⟨_, hr, -⟩
      cases hr
  · rintro ⟨hn, hf⟩
    rw [answer_notFound_iff h] at hn
    rw [answer_failed_iff h] at hf
    rcases notFound_or_fails_or_succeeds s out method params with hn' | ⟨rfl, hf' | ⟨reply, _, hs⟩⟩
    · exact absurd hn' hn
    · exact absurd ⟨rfl, hf'⟩ hf
    · exact ⟨reply, Option.some.inj (h.symm.trans (last_of_succeeds id hs))⟩

theorem queued_of_refusal
    (h : (s.request out id method params).sent.getLast? = some (.refusal id refusal)) :
    (s.request out id method params).queued = none := by
  rcases notFound_or_fails_or_succeeds s out method params with
    ⟨_, hn⟩ | ⟨rfl, ⟨_, hf⟩ | ⟨_, _, hs⟩⟩
  · rw [request_of_notFound id hn]
    rfl
  · obtain ⟨tags, hr⟩ := request_of_fails id hf
    rw [hr]
  · cases h.symm.trans (last_of_succeeds id hs)

theorem succeeds_of_reply {reply : Reply}
    (h : (s.request out id method params).sent.getLast? = some (.reply id reply)) :
    Succeeds s out params reply (s.request out id method params).queued := by
  rcases notFound_or_fails_or_succeeds s out method params with
    ⟨_, hn⟩ | ⟨rfl, ⟨_, hf⟩ | ⟨_, _, hs⟩⟩
  · cases h.symm.trans (last_of_notFound id hn)
  · cases h.symm.trans (last_of_fails id hf)
  · cases h.symm.trans (last_of_succeeds id hs)
    obtain ⟨tags, hr⟩ := request_of_succeeds id hs
    rw [hr]
    exact hs

theorem request_sent (s : Server) (out : Outside) (id : RequestId) (method : String)
    (params : Json) :
    ∃ (tags : List String) (answer : Message), answer.answers? = some id ∧
      (s.request out id method params).sent = tags.map Message.unknownCheck ++ [answer] := by
  obtain ⟨answer, ha, hr⟩ := request_eq_tried s out id method params
  rw [hr]
  cases (s.asked? (.request id method params)).map (s.attempt out) with
  | none => exact ⟨[], answer, ha, rfl⟩
  | some a => exact ⟨a.unknown, answer, ha, rfl⟩

theorem request_store (s : Server) (out : Outside) (id : RequestId) (method : String)
    (params : Json) : (s.request out id method params).server.store = s.store := by
  obtain ⟨answer, -, hr⟩ := request_eq_tried s out id method params
  rw [hr]
  exact store_count s _

structure Answered (s : Server) (out : Outside) (id : RequestId) (method : String) (params : Json)
    (st : Step) (answer : Message) : Prop where
  answers : answer.answers? = some id
  store : st.server.store = s.store
  notFound :
    (∃ refusal, answer = .refusal id refusal ∧ refusal.code = -32601) ↔
      ∃ refusal, NotFound method params refusal
  failed :
    (∃ refusal, answer = .refusal id refusal ∧ refusal.code = -32603) ↔
      method = executeCommand ∧ ∃ refusal, Fails s out params refusal
  otherwise :
    (∃ reply, answer = .reply id reply) ↔
      ¬ (∃ refusal, NotFound method params refusal) ∧
        ¬ (method = executeCommand ∧ ∃ refusal, Fails s out params refusal)
  idle : ∀ refusal, answer = .refusal id refusal → st.queued = none
  analyzed : ∀ c reply, method = executeCommand → Params.ExecuteCommand.ofJson params = .ok c →
    c.command = CommandName.analyze → answer = .reply id reply →
      ∃ uri, s.target c.arguments = .ok uri ∧ (∀ t ∈ st.queued, t.job.uri = uri) ∧
        ∀ jobName, reply.toJson jobName = .obj [
          ("uri", .str uri.text), ("analyzed", .bool st.queued.isSome),
          ("jobId", (st.queued.map fun t => Json.str (jobName t.job.id)).getD .null)]

theorem analyzed_of_succeeds {reply : Reply} {task : Option Task} {c : Params.ExecuteCommand}
    (h : Succeeds s out params reply task) (hc : Params.ExecuteCommand.ofJson params = .ok c)
    (ha : c.command = CommandName.analyze) :
    ∃ uri, s.target c.arguments = .ok uri ∧ (∀ t ∈ task, t.job.uri = uri) ∧
      ∀ jobName, reply.toJson jobName = .obj [
        ("uri", .str uri.text), ("analyzed", .bool task.isSome),
        ("jobId", (task.map fun t => Json.str (jobName t.job.id)).getD .null)] := by
  cases h with
  | rules hp hd =>
      cases hc.symm.trans hp
      rw [hd] at ha
      exact absurd ha (by decide)
  | @skipped c' uri hp _ ht _ =>
      cases hc.symm.trans hp
      exact ⟨uri, ht, by simp, fun _ => rfl⟩
  | @queued c' uri text version hp _ ht _ _ _ =>
      cases hc.symm.trans hp
      refine ⟨uri, ht, ?_, fun _ => rfl⟩
      intro t hq
      cases hq
      rfl

theorem answered (s : Server) (out : Outside) (id : RequestId) (method : String) (params : Json) :
    ∃ (tags : List String) (answer : Message),
      (s.request out id method params).sent = tags.map Message.unknownCheck ++ [answer] ∧
        Answered s out id method params (s.request out id method params) answer := by
  obtain ⟨tags, answer, ha, hs⟩ := request_sent s out id method params
  have hl : (s.request out id method params).sent.getLast? = some answer := by
    rw [hs]
    exact List.getLast?_concat
  refine ⟨tags, answer, hs, ha, request_store .., answer_notFound_iff hl, answer_failed_iff hl,
    answer_reply_iff hl, ?_, ?_⟩
  · rintro refusal rfl
    exact queued_of_refusal hl
  · rintro c reply - hc hca rfl
    exact analyzed_of_succeeds (succeeds_of_reply hl) hc hca

end Answers

section Runs

theorem answers_recorded (r : Run) (e : Event) :
    ((r.recorded? e).toList.flatMap Entry.messages).filterMap Message.answers? =
      e.request?.toList := by
  have h := r.happened e
  generalize r.recorded? e = entry, r.step e = r' at h
  cases h with
  | @server e st hs =>
      obtain ⟨answer, ha, hf⟩ :=
        Run.filterMap_sent_of_serverStep Message.answers? (fun _ => rfl) hs
      simp only [Option.toList_some, List.flatMap_singleton, Entry.messages, hf]
      rcases Run.answer_cases ha with ⟨rfl, hq⟩ | ⟨m, id, rfl, hq, hm⟩
      · rw [hq]
        rfl
      · rw [hq]
        simp [hm]
  | @published o ho =>
      simp only [Option.toList_some, List.flatMap_singleton, Entry.messages, Outcome.messages_eq,
        Outcome.publication]
      cases o.notice? <;> rfl
  | finished | unknown | silent | abandoned | stopped | outside => rfl

theorem answers_after (r : Run) (es : List Event) :
    (r.after es).sent.filterMap Message.answers? =
      r.sent.filterMap Message.answers? ++ es.filterMap Event.request? := by
  induction es generalizing r with
  | nil => exact (List.append_nil _).symm
  | cons e es ih =>
      rw [Run.after_cons, ih, Run.sent_step, List.filterMap_append, answers_recorded,
        List.append_assoc]
      cases h : e.request? <;> simp [h]

theorem one_answer_to_each_request :
    (∀ (s : Server) (out : Outside) (id : RequestId) (method : String) (params : Json),
      ∃ (tags : List String) (answer : Message),
        (s.request out id method params).sent = tags.map Message.unknownCheck ++ [answer] ∧
          Answered s out id method params (s.request out id method params) answer) ∧
      ∀ (r : Run) (es : List Event),
        (r.after es).sent.filterMap Message.answers? =
          r.sent.filterMap Message.answers? ++ es.filterMap Event.request? := by
  constructor
  · intro s out id method params
    exact answered s out id method params
  · intro r es
    exact answers_after r es

end Runs

end ContractLint.Server
