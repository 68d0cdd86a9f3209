import ContractLint.Analysis.Analyzer

namespace ContractLint

theorem Report.decode_eq_ok_iff {kind : Report} {text : String} {fs : List Finding} :
    kind.decode text = .ok fs ↔ kind.read text = .ok fs := by
  simp only [decode]
  cases kind.read text <;> simp

theorem Report.decode_eq_error_iff {kind : Report} {text : String} {failure : Failure} :
    kind.decode text = .error failure ↔
      ∃ e, kind.read text = .error e ∧ failure = .malformed (.undecodable kind e) := by
  simp only [decode]
  cases kind.read text <;> simp [eq_comm]

namespace Embedded

variable {answer : Answer} {fs : List Finding}

section Results

theorem resultOf_eq_ok_iff :
    resultOf answer = .ok fs ↔
      ∃ text, answer = .output text ∧ Report.embedded.read text = .ok fs := by
  cases answer with
  | output text => simp [resultOf, Report.decode_eq_ok_iff]
  | failure | unavailable | panic => simp [resultOf]

theorem resultOf_eq_malformed_iff {what : Malformed} :
    resultOf answer = .error (.malformed what) ↔
      ∃ text e, answer = .output text ∧ Report.embedded.read text = .error e ∧
        what = .undecodable .embedded e := by
  cases answer with
  | output text => simp [resultOf, Report.decode_eq_error_iff]
  | failure | unavailable | panic => simp [resultOf]

theorem exists_malformed_iff :
    (∃ what, resultOf answer = .error (.malformed what)) ↔
      ∃ text, answer = .output text ∧ ∀ fs, Report.embedded.read text ≠ .ok fs := by
  simp only [resultOf_eq_malformed_iff]
  constructor
  · rintro ⟨what, text, e, ha, he, -⟩
    exact ⟨text, ha, fun fs hf => nomatch he.symm.trans hf⟩
  · rintro ⟨text, ha, hn⟩
    cases he : Report.embedded.read text with
    | ok fs => exact absurd he (hn fs)
    | error e => exact ⟨_, text, e, ha, he, rfl⟩

theorem exists_backend_iff :
    (∃ reason notify, resultOf answer = .error (.backend reason notify)) ↔
      ∀ text, answer ≠ .output text := by
  cases answer with
  | output text => simp [resultOf, Report.decode_eq_error_iff]
  | failure | unavailable | panic => simp [resultOf]

theorem notice_resultOf_iff {notice : String} :
    (∃ failure, resultOf answer = .error failure ∧ failure.notice? = some notice) ↔
      answer = .unavailable notice := by
  cases answer with
  | output text =>
      refine iff_of_false ?_ nofun
      rintro ⟨failure, hf, hn⟩
      obtain ⟨e, -, rfl⟩ := Report.decode_eq_error_iff.1 hf
      cases hn
  | failure | unavailable | panic => simp [resultOf, Failure.notice?]

end Results

section Calls

variable {σ : Type}

theorem request_of_noSmt (job : Job) (noSmt : Bool) :
    request { job with options := { job.options with noSmt } } = request job :=
  rfl

theorem run_invoke_recorded (call : Request → StateM σ Answer) (job : Job) (s : σ)
    (asked : List Request) :
    (invoke (recorded call) job).run (s, asked) =
      (resultOf ((call (request job)).run s).1, ((call (request job)).run s).2,
        asked ++ [request job]) :=
  rfl

theorem invoke_congr {m : Type → Type} [Monad m] (call : Request → m Answer) {job job' : Job}
    (h : request job = request job') : invoke call job = invoke call job' := by
  rw [invoke, h, invoke]

theorem run_embedded (world : World) (job : Job) :
    (invoke (recorded fun q => (pure (world.backend q) : StateM Unit Answer)) job).run ((), []) =
      ((Analyzer.embedded.run world job).result, (),
        (Analyzer.embedded.run world job).asked) :=
  rfl

theorem answer_to_one_call_decides {σ : Type} (call : Request → StateM σ Answer) (job : Job) (s : σ)
    (asked : List Request) :
    ∃ answer after result,
      (call (request job)).run s = (answer, after) ∧
        (invoke (recorded call) job).run (s, asked) = (result, after, asked ++ [request job]) ∧
        request job = {
          source := job.content, optimize := true, secbitMode := true, noSmt := true
          asErc20 := job.options.asErc20, tags := String.intercalate "," job.options.tags } ∧
        (∀ noSmt, invoke (recorded call) { job with options := { job.options with noSmt } } =
          invoke (recorded call) job) ∧
        (∀ fs, result = .ok fs ↔
          ∃ text, answer = .output text ∧ Report.embedded.read text = .ok fs) ∧
        ((∃ what, result = .error (.malformed what)) ↔
          ∃ text, answer = .output text ∧ ∀ fs, Report.embedded.read text ≠ .ok fs) ∧
        ((∃ reason notify, result = .error (.backend reason notify)) ↔
          ∀ text, answer ≠ .output text) ∧
        (∀ notice, (∃ failure, result = .error failure ∧ failure.notice? = some notice) ↔
          answer = .unavailable notice) ∧
        (∀ text, answer = .failure text → result = .error (.backend text false)) ∧
        (∀ cause, answer = .panic cause → result = .error (.backend (panicText cause) false)) ∧
        ∀ world : World,
          (invoke (recorded fun q => (pure (world.backend q) : StateM Unit Answer)) job).run
              ((), []) =
            ((Analyzer.embedded.run world job).result, (),
              (Analyzer.embedded.run world job).asked) := by
  let answer := ((call (request job)).run s).1
  refine ⟨answer, ((call (request job)).run s).2, resultOf answer, rfl,
    run_invoke_recorded call job s asked, rfl, ?_, ?_, ?_, ?_, ?_, ?_, ?_,
    fun world => run_embedded world job⟩
  · intro noSmt
    exact invoke_congr _ (request_of_noSmt job noSmt)
  · intro fs
    exact resultOf_eq_ok_iff
  · exact exists_malformed_iff
  · exact exists_backend_iff
  · intro notice
    exact notice_resultOf_iff
  · intro text ha
    rw [ha, resultOf]
  · intro cause ha
    rw [ha, resultOf]

example :
    resultOf (.failure unavailableText) = .error (.backend unavailableText false) ∧
      resultOf (.unavailable "not linked") = .error (.backend "not linked" true) := by
  constructor <;> rfl

end Calls

end Embedded

end ContractLint
