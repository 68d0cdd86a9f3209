import ContractLint.Analysis.CommandLine
import ContractLint.Analysis.Failure
import ContractLint.Analysis.Job

namespace ContractLint.Native

open Text CommandLine

structure Invocation where
  arguments : List Argument
  source : Bytes
  deriving DecidableEq, Repr

inductive Leftover where
  | nothing
  | file (content : Bytes)
  | directory
  deriving DecidableEq, Repr, Inhabited

inductive ExitStatus where
  | code (n : Int)
  | signal
  deriving DecidableEq, Repr, Inhabited

def ExitStatus.code? : ExitStatus → Option Int
  | .code n => some n
  | .signal => none

structure Behaviour where
  report : Leftover := .nothing
  changesInput : Option Bytes := none
  removesInput : Bool := false
  stdout : Bytes := []
  stderr : Bytes := []
  status : ExitStatus := .code 0
  deriving DecidableEq, Repr, Inhabited

abbrev Compiler := Invocation → Behaviour

/-- Where a run takes place: the disk, the directories in which programs are looked for, what starting
one does, and names that are free: a scratch directory, and a part of the name of the hidden copy. -/
structure Site where
  disk : Disk
  search : List Path := []
  compiler : Compiler
  scratch : Path
  freshName : String

structure Run where
  result : AnalysisResult
  disk : Disk
  invocation : Option Invocation := none
  inputLeft : Bool := false

def Leftover.apply (l : Leftover) (report : Path) (disk : Disk) : Disk :=
  match l with
  | .nothing => disk
  | .file content => (disk.write report content).toOption.getD disk
  | .directory => (disk.createDirectory report).toOption.getD disk

def rewrite (changes : Option Bytes) (input : Path) (disk : Disk) : Disk :=
  match changes with
  | some content => (disk.write input content).toOption.getD disk
  | none => disk

def Behaviour.apply (b : Behaviour) (report input : Path) (disk : Disk) : Disk :=
  let disk := rewrite b.changesInput input (b.report.apply report disk)
  if b.removesInput then disk.remove input else disk

def stderrText (b : Behaviour) : String :=
  Text.trimmed (Bytes.shown b.stderr)

def resultOf (b : Behaviour) (report : Path) (disk : Disk) : AnalysisResult :=
  if b.status != .code 0 then .error (.nonZeroExit b.status.code? (stderrText b))
  else
    match disk.readText report with
    | .error e => .error (.malformed (.unreadable report e))
    | .ok text => Report.native.decode text

def maxArgument : Nat :=
  0x1FFFF

def continuesSearch : IoError → Bool
  | .denied | .notFound | .notDirectory => true
  | _ => false

-- A program that may not be started outweighs one that is not there.
def startableIn (disk : Disk) (name : Path) : IoError → List Path → Except IoError Unit
  | failure, [] => .error failure
  | failure, directory :: rest =>
      match disk.startable (directory.join name) with
      | .ok () => .ok ()
      | .error e =>
          if !continuesSearch e then .error e
          else startableIn disk name (if failure = .denied then .denied else e) rest

def programStartable (disk : Disk) (search : List Path) (program : Path) : Except IoError Unit :=
  if program.bytes.contains Path.slash then disk.startable program
  else startableIn disk program .notFound search

def startable (search : List Path) (disk : Disk) (binary : String) (arguments : List Argument) :
    Except IoError Unit :=
  let program := Path.ofText binary
  if program.bytes.contains 0 || arguments.any (·.contains 0) then .error .nulInArgument
  else do
    programStartable disk search program
    if arguments.any (maxArgument < ·.length) then .error .argumentTooLong

def invocationOn (input : Path) (job : Job) : Invocation :=
  ⟨CommandLine.arguments job.options (reportPath input) input, Bytes.ofString job.content⟩

def runOn (site : Site) (binary : String) (input : Path) (job : Job) : Run :=
  match site.disk.write input (Bytes.ofString job.content) with
  | .error e => { result := .error (.io e), disk := site.disk }
  | .ok disk =>
      let report := reportPath input
      let invocation := invocationOn input job
      match startable site.search disk binary invocation.arguments with
      | .error e => { result := .error (.spawnFailed binary e), disk }
      | .ok () =>
          let b := site.compiler invocation
          let after := b.apply report input disk
          let cleared := after.remove report
          { result := resultOf b report after
            disk := cleared
            invocation := some invocation
            inputLeft := cleared.exists? input }

def copyName (freshName : String) : Path :=
  Path.ofText (".secbit-" ++ freshName ++ ".sol")

def runBeside (site : Site) (binary : String) (directory : Path) (job : Job) : Run :=
  let copy := directory.join (copyName site.freshName)
  match site.disk.write copy [] with
  | .error e => { result := .error (.io (.atPath e copy)), disk := site.disk }
  | .ok disk =>
      let run := runOn { site with disk } binary copy job
      { run with disk := run.disk.remove copy, inputLeft := false }

def fallbackName : String :=
  "input.sol"

def inputIn (directory : Path) (job : Job) : Path :=
  directory.join (match job.path.fileName? with
    | some name => ⟨name⟩
    | none => Path.ofText fallbackName)

def runIn (site : Site) (binary : String) (directory : Path) (job : Job) : Run :=
  runOn site binary (inputIn directory job) job

def runInScratch (site : Site) (binary : String) (job : Job) : Run :=
  match site.disk.createDirectory site.scratch with
  | .error e => { result := .error (.io (.atPath e site.scratch)), disk := site.disk }
  | .ok disk =>
      let run := runIn { site with disk } binary site.scratch job
      { run with disk := run.disk.removeTree site.scratch, inputLeft := false }

def sourceDirectory? (disk : Disk) (job : Job) : Option Path :=
  job.path.directory?.filter disk.isDirectory

def run (site : Site) (binary : String) (job : Job) : Run :=
  match sourceDirectory? site.disk job with
  | some directory => runBeside site binary directory job
  | none => runInScratch site binary job

end ContractLint.Native
