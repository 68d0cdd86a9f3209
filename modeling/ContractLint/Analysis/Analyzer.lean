import ContractLint.Analysis.Embedded
import ContractLint.Analysis.Native

namespace ContractLint

inductive Analyzer where
  | native (binary : String)
  | embedded
  deriving DecidableEq, Repr, Inhabited

namespace Analyzer

def ofSettings (s : Settings) : Analyzer :=
  match s.solcPath? with
  | some binary => .native binary
  | none => .embedded

def isNative : Analyzer → Bool
  | .native _ => true
  | .embedded => false

def describe : Analyzer → String
  | .native binary => "external solc (" ++ binary ++ ")"
  | .embedded => "embedded compiler"

end Analyzer

structure World where
  site : Native.Site
  backend : Embedded.Backend

def World.disk (w : World) : Disk :=
  w.site.disk

def World.withDisk (w : World) (disk : Disk) : World :=
  { w with site := { w.site with disk } }

structure Completion where
  result : AnalysisResult
  world : World
  invocation : Option Native.Invocation := none
  asked : List Embedded.Request := []

def Analyzer.run (analyzer : Analyzer) (world : World) (job : Job) : Completion :=
  match analyzer with
  | .native binary =>
      let run := Native.run world.site binary job
      { result := run.result, world := world.withDisk run.disk, invocation := run.invocation }
  | .embedded =>
      let (result, asked) := Embedded.run world.backend job
      { result, world, asked }

structure Task where
  job : Job
  analyzer : Analyzer
  deriving DecidableEq, Repr, Inhabited

def Task.run (t : Task) (world : World) : Completion :=
  t.analyzer.run world t.job

structure Outcome where
  job : JobId
  uri : Url
  version : Option Int32
  result : AnalysisResult

def Task.outcome (t : Task) (world : World) : Outcome where
  job := t.job.id
  uri := t.job.uri
  version := t.job.version
  result := (t.run world).result

end ContractLint
