import ContractLint.Analysis.Failure
import ContractLint.Analysis.Job

namespace ContractLint.Embedded

structure Request where
  source : String
  optimize : Bool
  secbitMode : Bool
  noSmt : Bool
  asErc20 : Bool
  tags : String
  deriving DecidableEq, Repr

def unavailableText : String :=
  "No embedded SECBIT compiler is available; set `secbit.solc` to a SECBIT solc binary"

inductive Answer where
  | output (text : String)
  | failure (text : String)
  | unavailable (text : String := unavailableText)
  | panic (cause : String)
  deriving DecidableEq, Repr, Inhabited

abbrev Backend := Request → Answer

def unavailable : Backend :=
  fun _ => .unavailable

def request (job : Job) : Request where
  source := job.content
  optimize := true
  secbitMode := true
  noSmt := true
  asErc20 := job.options.asErc20
  tags := String.intercalate "," job.options.tags

def panicText (cause : String) : String :=
  "compile task did not finish: " ++ cause

def resultOf : Answer → AnalysisResult
  | .output text => Report.embedded.decode text
  | .failure text => .error (.backend text false)
  | .unavailable text => .error (.backend text true)
  | .panic cause => .error (.backend (panicText cause) false)

section Effects

def invoke {m : Type → Type} [Monad m] (call : Request → m Answer) (job : Job) :
    m AnalysisResult := do
  let answer ← call (request job)
  return resultOf answer

def recorded {σ : Type} (call : Request → StateM σ Answer) (q : Request) :
    StateM (σ × List Request) Answer :=
  fun (s, asked) =>
    let (answer, s) := (call q).run s
    (answer, s, asked ++ [q])

end Effects

def run (backend : Backend) (job : Job) : AnalysisResult × List Request :=
  let call : Request → StateM Unit Answer := fun q => pure (backend q)
  let (result, _, asked) := (invoke (recorded call) job).run ((), [])
  (result, asked)

theorem run_eq (backend : Backend) (job : Job) :
    run backend job = (resultOf (backend (request job)), [request job]) :=
  rfl

end ContractLint.Embedded
