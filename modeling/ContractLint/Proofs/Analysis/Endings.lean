import ContractLint.Proofs.Analysis.Agreement
import ContractLint.Proofs.Analysis.Checks
import ContractLint.Proofs.Analysis.Cleanup
import ContractLint.Proofs.Location.Parent

namespace ContractLint.Native

open Text CommandLine

variable {site site' : Site} {binary : String} {job : Job} {input input' : Path} {disk : Disk}
  {result : AnalysisResult} {invocation : Option Invocation}

section Copies

def Copied (site : Site) (job : Job) (input : Path) (disk : Disk) : Prop :=
  ∃ site', Staged site job site' input ∧
    site'.disk.write input (Bytes.ofString job.content) = .ok disk

inductive Uncopied (site : Site) (job : Job) : IoError → Prop where
  | beside {directory : Path} {e : IoError} :
      sourceDirectory? site.disk job = some directory →
      site.disk.write (copyIn site directory) [] = .error e →
        Uncopied site job (.atPath e (copyIn site directory))
  | scratch {e : IoError} :
      sourceDirectory? site.disk job = none →
      site.disk.createDirectory site.scratch = .error e →
        Uncopied site job (.atPath e site.scratch)
  | content {site' : Site} {input : Path} {e : IoError} :
      Staged site job site' input →
      site'.disk.write input (Bytes.ofString job.content) = .error e →
        Uncopied site job e

theorem Staged.unique {site'' : Site} (h : Staged site job site' input)
    (h' : Staged site job site'' input') : site' = site'' ∧ input = input' := by
  cases h with
  | beside hd hw =>
      cases h' with
      | beside hd' hw' =>
          cases hd.symm.trans hd'
          cases hw.symm.trans hw'
          exact ⟨rfl, rfl⟩
      | scratch hd' => cases hd.symm.trans hd'
  | scratch hd hw =>
      cases h' with
      | beside hd' => cases hd.symm.trans hd'
      | scratch hd' hw' =>
          cases hw.symm.trans hw'
          exact ⟨rfl, rfl⟩

theorem Staged.search_eq (h : Staged site job site' input) : site'.search = site.search := by
  cases h <;> rfl

end Copies

section Places

end Places

section Causes

def Ran (site : Site) (binary : String) (job : Job) (input : Path) (b : Behaviour)
    (after : Disk) : Prop :=
  ∃ site', Staged site job site' input ∧ Ends site' binary input job b after

inductive Ending (site : Site) (binary : String) (job : Job) :
    AnalysisResult → Option Invocation → Prop where
  | uncopied {e : IoError} :
      Uncopied site job e → Ending site binary job (.error (.io e)) none
  | unstarted {input : Path} {disk : Disk} {e : IoError} :
      Copied site job input disk →
      startable site.search disk binary (invocationOn input job).arguments = .error e →
        Ending site binary job (.error (.spawnFailed binary e)) none
  | failed {input : Path} {b : Behaviour} {after : Disk} :
      Ran site binary job input b after → b.status ≠ .code 0 →
        Ending site binary job (.error (.nonZeroExit b.status.code? (stderrText b)))
          (some (invocationOn input job))
  | found {input : Path} {b : Behaviour} {after : Disk} {text : String} {fs : List Finding} :
      Ran site binary job input b after → b.status = .code 0 →
      after.readText (reportPath input) = .ok text → Report.native.read text = .ok fs →
        Ending site binary job (.ok fs) (some (invocationOn input job))
  | unreadable {input : Path} {b : Behaviour} {after : Disk} {e : IoError} :
      Ran site binary job input b after → b.status = .code 0 →
      after.readText (reportPath input) = .error e →
        Ending site binary job (.error (.malformed (.unreadable (reportPath input) e)))
          (some (invocationOn input job))
  | undecodable {input : Path} {b : Behaviour} {after : Disk} {text : String}
      {e : Json.ReadError} :
      Ran site binary job input b after → b.status = .code 0 →
      after.readText (reportPath input) = .ok text → Report.native.read text = .error e →
        Ending site binary job (.error (.malformed (.undecodable .native e)))
          (some (invocationOn input job))

theorem Staged.invocation_eq (h : Staged site job site' input) (binary : String) :
    (run site binary job).invocation = (runOn site' binary input job).invocation := by
  cases h with
  | beside hd hw => simp only [run, hd, runBeside, hw]
  | scratch hd hw => simp only [run, hd, runInScratch, hw, runIn]

theorem Uncopied.run_eq {e : IoError} (h : Uncopied site job e) (binary : String) :
    (run site binary job).result = .error (.io e) ∧ (run site binary job).invocation = none := by
  cases h with
  | beside hd he => simp only [run, hd, runBeside_of_error he, and_self]
  | scratch hd he => simp only [run, hd, runInScratch_of_error he, and_self]
  | content hs he =>
      rw [hs.result_eq, hs.invocation_eq]
      simp only [runOn, he, and_self]

theorem Ran.run_eq {b : Behaviour} {after : Disk} (h : Ran site binary job input b after) :
    (run site binary job).result = resultOf b (reportPath input) after ∧
      (run site binary job).invocation = some (invocationOn input job) := by
  obtain ⟨site', hs, he⟩ := h
  rw [hs.result_eq, hs.invocation_eq]
  refine ⟨he.result_eq, ?_⟩
  cases he with
  | started hw hr hb => simp only [runOn, hw, hr]

theorem Ending.run_eq (h : Ending site binary job result invocation) :
    (run site binary job).result = result ∧ (run site binary job).invocation = invocation := by
  cases h with
  | uncopied hu => exact hu.run_eq binary
  | unstarted hc he =>
      obtain ⟨site', hs, hw⟩ := hc
      rw [hs.result_eq, hs.invocation_eq]
      rw [← hs.search_eq] at he
      simp only [runOn, hw, he, and_self]
  | failed hr hb =>
      obtain ⟨hr, hi⟩ := hr.run_eq
      exact ⟨hr.trans (by simp [resultOf, hb]), hi⟩
  | found hr hb ht hd =>
      obtain ⟨hr, hi⟩ := hr.run_eq
      exact ⟨hr.trans (by simp [resultOf, hb, ht, Report.decode, hd]), hi⟩
  | unreadable hr hb he =>
      obtain ⟨hr, hi⟩ := hr.run_eq
      exact ⟨hr.trans (by simp [resultOf, hb, he]), hi⟩
  | undecodable hr hb ht hd =>
      obtain ⟨hr, hi⟩ := hr.run_eq
      exact ⟨hr.trans (by simp [resultOf, hb, ht, Report.decode, hd]), hi⟩

end Causes

section Streams

variable {b b' : Behaviour} {compiler : Compiler}

end Streams

def killedSite : Site where
  disk := ⟨[([Bytes.ofString "solc"], .file [] true)]⟩
  compiler := fun _ => {
    report := .file (Bytes.ofString "\x7b\"secbit-warnings\":[]\x7d")
    stderr := Bytes.ofString " out of memory\n"
    status := .signal }
  scratch := Path.ofText "/tmp"
  freshName := "x7"

def looseJob : Job where
  id := 0
  uri := ⟨"untitled", none, "", .plain "A.sol", none, none⟩
  path := Path.ofText "A.sol"
  version := none
  content := "contract A"
  options := {}

example : (run killedSite "/solc" looseJob).result =
    .error (.nonZeroExit none "out of memory") := by
  cbv

end ContractLint.Native
