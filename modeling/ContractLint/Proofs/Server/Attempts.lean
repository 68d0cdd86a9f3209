import ContractLint.Server.Run
import ContractLint.Session.Demand

namespace ContractLint

def Message.answers? : Message → Option RequestId
  | .reply id _ => some id
  | .refusal id _ => some id
  | .notice _ => none
  | .diagnostics .. => none

namespace Server

variable {s : Server} {out : Outside} {uri : Url} {text : String} {version : Option Int32}

section Content

inductive Content (s : Server) (disk : Disk) (uri : Url) : String → Option Int32 → Prop where
  | opened {d : Document} :
      s.documents.get? uri = some d → Content s disk uri d.content (some d.version)
  | onDisk {text : String} :
      s.documents.get? uri = none → disk.readText uri.location = .ok text →
        Content s disk uri text none

theorem content_of_open {d : Document} (h : s.documents.get? uri = some d) (disk : Disk)
    (path : Path) : s.content disk uri path = .ok (d.content, some d.version) := by
  simp only [content, h]

theorem content_of_unreadable {disk : Disk} {path : Path} {e : IoError}
    (hn : s.documents.get? uri = none) (hr : disk.readText path = .error e) :
    s.content disk uri path = .error (.unreadable path) := by
  simp only [content, hn, hr]

theorem Content.content_eq {disk : Disk} (h : Content s disk uri text version) :
    s.content disk uri uri.location = .ok (text, version) := by
  cases h with
  | opened hd => exact content_of_open hd disk _
  | onDisk hn hr => simp only [content, hn, hr]

end Content

section Attempts

theorem attempt_of_skipped (hs : s.documents.isSolidity uri = false) :
    s.attempt out uri = { outcome := .ok none } := by
  simp only [attempt, hs, Bool.false_eq_true, if_false]

theorem attempt_of_unreadable {e : IoError} (hs : s.documents.isSolidity uri = true)
    (hn : s.documents.get? uri = none) (hr : out.disk.readText uri.location = .error e) :
    s.attempt out uri = { outcome := .error (.unreadable uri.location) } := by
  simp only [attempt, hs, if_true, content_of_unreadable hn hr]

theorem attempt_of_content (hs : s.documents.isSolidity uri = true)
    (hc : Content s out.disk uri text version) :
    s.attempt out uri = {
      unknown := s.settings.unknownTags .builtin
      outcome :=
        if out.accepting then .ok (some (s.task uri uri.location text version))
        else .error .workerStopped } := by
  simp only [attempt, hs, if_true, hc.content_eq]

inductive Attempted (s : Server) (out : Outside) (uri : Url) : Attempt → Prop where
  | skipped :
      s.documents.isSolidity uri = false → Attempted s out uri { outcome := .ok none }
  | unreadable {e : IoError} :
      s.documents.isSolidity uri = true → s.documents.get? uri = none →
        out.disk.readText uri.location = .error e →
        Attempted s out uri { outcome := .error (.unreadable uri.location) }
  | stopped {text : String} {version : Option Int32} :
      s.documents.isSolidity uri = true → Content s out.disk uri text version →
        out.accepting = false →
        Attempted s out uri {
          unknown := s.settings.unknownTags .builtin, outcome := .error .workerStopped }
  | queued {text : String} {version : Option Int32} :
      s.documents.isSolidity uri = true → Content s out.disk uri text version →
        out.accepting = true →
        Attempted s out uri {
          unknown := s.settings.unknownTags .builtin
          outcome := .ok (some (s.task uri uri.location text version)) }

theorem attempted_of_content (hs : s.documents.isSolidity uri = true)
    (hc : Content s out.disk uri text version) : Attempted s out uri (s.attempt out uri) := by
  rw [attempt_of_content hs hc]
  cases ha : out.accepting with
  | true => exact .queued hs hc ha
  | false => exact .stopped hs hc ha

theorem attempted (s : Server) (out : Outside) (uri : Url) :
    Attempted s out uri (s.attempt out uri) := by
  cases hs : s.documents.isSolidity uri with
  | false =>
      rw [attempt_of_skipped hs]
      exact .skipped hs
  | true =>
      cases hd : s.documents.get? uri with
      | some d => exact attempted_of_content hs (.opened hd)
      | none =>
          cases hr : out.disk.readText uri.location with
          | ok text => exact attempted_of_content hs (.onDisk hd hr)
          | error e =>
              rw [attempt_of_unreadable hs hd hr]
              exact .unreadable hs hd hr

theorem attempt_queued {t : Task} (h : (s.attempt out uri).queued = some t) :
    ∃ text version, Content s out.disk uri text version ∧
      t = s.task uri uri.location text version := by
  have ha := attempted s out uri
  generalize s.attempt out uri = a at h ha
  cases ha with
  | skipped => cases h
  | unreadable => cases h
  | stopped => cases h
  | @queued text version _ hc => exact ⟨text, version, hc, (Option.some.inj h).symm⟩

theorem attempt_congr_of_open {out' : Outside} {d : Document}
    (h : s.documents.get? uri = some d) (ha : out.accepting = out'.accepting) :
    s.attempt out uri = s.attempt out' uri := by
  simp only [attempt, content_of_open h, ha]

end Attempts

section Trying

def tried (s : Server) (a : Option Attempt) (answer : Option Message) : Step where
  server := s.count (a.bind Attempt.queued)
  sent := (a.map Attempt.notices).getD [] ++ answer.toList
  queued := a.bind Attempt.queued

theorem tried_none (s : Server) (answer : Option Message) :
    s.tried none answer = { server := s, sent := answer.toList } := rfl

theorem analyze_eq_tried (s : Server) (out : Outside) (uri : Url) :
    (s.analyze out uri).1 = s.tried (some (s.attempt out uri)) none := by
  simp [analyze, tried]

def Attempt.answer (a : Attempt) (id : RequestId) (uri : Url) : Message :=
  match a.outcome with
  | .ok task => .reply id (.analyzed uri (task.map fun t => t.job.id))
  | .error refusal => .refusal id refusal

theorem Attempt.answers?_answer (a : Attempt) (id : RequestId) (uri : Url) :
    (a.answer id uri).answers? = some id := by
  simp only [answer]
  cases a.outcome <;> rfl

theorem answerAnalyze_of_target {arguments : List Json} (id : RequestId)
    (h : s.target arguments = .ok uri) :
    s.answerAnalyze out id arguments =
      s.tried (some (s.attempt out uri)) (some ((s.attempt out uri).answer id uri)) := by
  simp only [answerAnalyze, h, analyze, tried, Attempt.answer]
  cases (s.attempt out uri).outcome <;> rfl

theorem refuse_eq_tried (s : Server) (id : RequestId) (refusal : Refusal) :
    s.refuse id refusal = s.tried none (some (.refusal id refusal)) := rfl

theorem request_eq_tried (s : Server) (out : Outside) (id : RequestId) (method : String)
    (params : Json) :
    ∃ answer, answer.answers? = some id ∧
      s.request out id method params =
        s.tried ((s.asked? (.request id method params)).map (s.attempt out)) (some answer) := by
  by_cases hm : method = executeCommand
  · simp only [request, asked?, if_pos hm, answerCommand]
    cases hp : Params.ExecuteCommand.ofJson params with
    | error cause => exact ⟨_, rfl, refuse_eq_tried ..⟩
    | ok c =>
        by_cases ha : c.command = CommandName.analyze
        · simp only [if_pos ha]
          cases ht : s.target c.arguments with
          | error refusal =>
              simp only [answerAnalyze, ht]
              exact ⟨_, rfl, refuse_eq_tried ..⟩
          | ok uri => exact ⟨_, Attempt.answers?_answer .., answerAnalyze_of_target id ht⟩
        · simp only [if_neg ha]
          split
          · exact ⟨_, rfl, (tried_none s (some (.reply id _))).symm⟩
          · exact ⟨_, rfl, refuse_eq_tried ..⟩
  · simp only [request, asked?, if_neg hm]
    exact ⟨_, rfl, refuse_eq_tried ..⟩

end Trying

end Server

end ContractLint
