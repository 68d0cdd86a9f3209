import ContractLint.Server.Run
import ContractLint.Proofs.Finding.Format

namespace ContractLint

open Json

section Reports

def SingleValue (x : String) : Prop :=
  ∃ rest, skipValue x.toList = .ok rest ∧ skipGap rest = []

theorem singleValue_of_read {x : String} {v : Json} (h : Json.read x = .ok v) : SingleValue x := by
  obtain ⟨rest, hr, hs⟩ := readWhole_eq_ok.1 h
  exact ⟨rest, skips_readValue _ hr, hs⟩

namespace Report

def wrap (kind : Report) (x : String) : String :=
  "\x7b\"" ++ kind.key ++ "\":" ++ x ++ "\x7d"

variable (kind : Report) {x : String} {t u : List Char} {fs : List Finding} {f : Fault}

theorem toList_wrap :
    (kind.wrap x).toList =
      '\x7b' :: '"' :: (kind.key.toList ++ '"' :: ':' :: (x.toList ++ ['\x7d'])) := by
  simp [wrap]

theorem readName_key (t : List Char) :
    readName .keep (kind.key.toList ++ '"' :: t) = .ok (kind.key, t) := by
  have h : readString (kind.key.toList ++ '"' :: t) = .ok (kind.key.toList, t) :=
    readString_plain (by cases kind <;> decide) t
  exact bind_eq_ok.2 ⟨_, h, by simp [pure, Except.pure]⟩

theorem find?_key : kind.record.fields.find? (·.answersTo kind.key) = some kind.findingsField := by
  simp [record, findingsField, RecordField.answersTo]

def inside : Nat :=
  maxNesting - 1

theorem readMember_key :
    kind.record.readMember inside none kind.key (':' :: t) =
      kind.findingsField.fill inside none t := by
  unfold Record.readMember
  rw [find?_key]
  rfl

theorem shortens_readMember : Shortens (kind.record.readMember inside) :=
  (Record.skipsMember_readMember (skips_fields kind.fields_eq) inside).shortens

theorem read_brace (t : List Char) :
    kind.record.read maxNesting ('\x7b' :: t) = kind.record.readObject inside t :=
  rfl

theorem read_wrap_ok
    (h : readSequence Finding.record.read inside (x.toList ++ ['\x7d']) = .ok (fs, u))
    (hu : skipGap u = ['\x7d']) : kind.read (kind.wrap x) = .ok fs := by
  have hm : kind.record.readMember inside none kind.key (':' :: (x.toList ++ ['\x7d'])) =
      .ok (some fs, u) := by
    rw [readMember_key]
    exact bind_eq_ok.2 ⟨_, h, rfl⟩
  have hg := (readMembers_iff kind.shortens_readMember).2
    (.members (skipGap_of_not_gap (by decide) _) (.last (kind.readName_key _) hm hu))
  have hr : kind.record.read maxNesting (kind.wrap x).toList = .ok (fs, []) := by
    rw [toList_wrap, read_brace]
    exact Record.readObject_eq_ok.2 ⟨some fs, hg, rfl⟩
  exact readWhole_eq_ok.2 ⟨[], hr, rfl⟩

theorem cause_settle (close : List Char → List Char) : (f.settle close).cause = f.cause := by
  cases f <;> rfl

theorem read_wrap_error
    (h : readSequence Finding.record.read inside (x.toList ++ ['\x7d']) = .error f) :
    ∃ e, kind.read (kind.wrap x) = .error e ∧ e.cause = f.cause := by
  have hm : kind.record.readMember inside none kind.key (':' :: (x.toList ++ ['\x7d'])) =
      .error f := by
    rw [readMember_key]
    simp only [RecordField.fill, findingsField, h, bind, Except.bind]
  have hg : readMembers .keep (kind.record.readMember inside) none
      ('"' :: (kind.key.toList ++ '"' :: ':' :: (x.toList ++ ['\x7d']))) = .error f := by
    have hs := skipGap_of_not_gap (c := '"') (by decide)
      (kind.key.toList ++ '"' :: ':' :: (x.toList ++ ['\x7d']))
    simp only [readMembers, hs, readMembersFrom, readName_key, hm, bind, Except.bind]
  have hr : kind.record.read maxNesting (kind.wrap x).toList =
      .error (f.settle Record.closeObject) := by
    rw [toList_wrap, read_brace]
    have hb : kind.record.blank = none := rfl
    simp only [Record.readObject, hb, hg, Except.mapError, bind, Except.bind]
  refine ⟨(f.settle Record.closeObject).locate (kind.wrap x).toList, ?_, cause_settle _⟩
  simp only [Report.read, readWhole, hr]

theorem skipGap_of_singleValue (hx : SingleValue x) :
    ∃ u, skipValue (x.toList ++ ['\x7d']) = .ok u ∧ skipGap u = ['\x7d'] := by
  obtain ⟨rest, hr, hs⟩ := hx
  refine ⟨rest ++ ['\x7d'], skipValue_append hr [], ?_⟩
  rw [skipGap] at hs
  simp [skipGap, List.dropWhile_append, hs, isGap]

inductive Alike : Except ReadError (List Finding) → Except ReadError (List Finding) → Prop where
  | findings (fs : List Finding) : Alike (.ok fs) (.ok fs)
  | refused {e e' : ReadError} : e.cause = e'.cause → Alike (.error e) (.error e')

theorem alike_wrap (hx : SingleValue x) (kind kind' : Report) :
    Alike (kind.read (kind.wrap x)) (kind'.read (kind'.wrap x)) := by
  cases h : readSequence Finding.record.read inside (x.toList ++ ['\x7d']) with
  | error f =>
      obtain ⟨e, he, hc⟩ := kind.read_wrap_error h
      obtain ⟨e', he', hc'⟩ := kind'.read_wrap_error h
      rw [he, he']
      exact .refused (hc.trans hc'.symm)
  | ok p =>
      obtain ⟨fs, u⟩ := p
      obtain ⟨w, hw, hs⟩ := skipGap_of_singleValue hx
      cases hw.symm.trans (skips_readSequence Finding.skips_read inside h)
      rw [kind.read_wrap_ok h hs, kind'.read_wrap_ok h hs]
      exact .findings fs

end Report

end Reports

namespace Native

open CommandLine Text

variable {site site' : Site} {binary : String} {input : Path} {job : Job} {text : String}

inductive Staged (site : Site) (job : Job) : Site → Path → Prop where
  | beside {directory : Path} {disk : Disk} :
      sourceDirectory? site.disk job = some directory →
      site.disk.write (directory.join (copyName site.freshName)) [] = .ok disk →
        Staged site job { site with disk } (directory.join (copyName site.freshName))
  | scratch {disk : Disk} :
      sourceDirectory? site.disk job = none →
      site.disk.createDirectory site.scratch = .ok disk →
        Staged site job { site with disk } (inputIn site.scratch job)

theorem Staged.result_eq (h : Staged site job site' input) (binary : String) :
    (run site binary job).result = (runOn site' binary input job).result := by
  cases h with
  | beside hd hw => simp only [run, hd, runBeside, hw]
  | scratch hd hw => simp only [run, hd, runInScratch, hw, runIn]

inductive Ends (site : Site) (binary : String) (input : Path) (job : Job) :
    Behaviour → Disk → Prop where
  | started {disk : Disk} {b : Behaviour} :
      site.disk.write input (Bytes.ofString job.content) = .ok disk →
      startable site.search disk binary (invocationOn input job).arguments = .ok () →
      site.compiler (invocationOn input job) = b →
        Ends site binary input job b (b.apply (reportPath input) input disk)

theorem Ends.result_eq {b : Behaviour} {after : Disk} (h : Ends site binary input job b after) :
    (runOn site binary input job).result = resultOf b (reportPath input) after := by
  cases h with
  | started hw hs hb => simp only [runOn, hw, hs, hb]

def Leaves (site : Site) (binary : String) (job : Job) (text : String) : Prop :=
  ∃ site' input b after, Staged site job site' input ∧ Ends site' binary input job b after ∧
    b.status = .code 0 ∧ after.readText (reportPath input) = .ok text

theorem Leaves.result_eq (h : Leaves site binary job text) :
    (run site binary job).result = Report.native.decode text := by
  obtain ⟨site', input, b, after, hp, he, hs, ht⟩ := h
  rw [hp.result_eq, he.result_eq]
  simp [resultOf, hs, ht]

end Native

section Results

inductive Interchangeable : AnalysisResult → AnalysisResult → Prop where
  | findings (fs : List Finding) : Interchangeable (.ok fs) (.ok fs)
  | malformed {e e' : ReadError} : e.cause = e'.cause →
      Interchangeable (.error (.malformed (.undecodable .native e)))
        (.error (.malformed (.undecodable .embedded e')))

theorem Interchangeable.messages {o o' : Outcome} (h : Interchangeable o.result o'.result) :
    ∃ ds, o.messages = [.diagnostics o.uri o.version ds] ∧
      o'.messages = [.diagnostics o'.uri o'.version ds] := by
  obtain ⟨job, uri, version, result⟩ := o
  obtain ⟨job', uri', version', result'⟩ := o'
  cases h with
  | findings fs => exact ⟨_, rfl, rfl⟩
  | malformed _ => exact ⟨[], rfl, rfl⟩

theorem interchangeable_of_alike {text text' : String}
    (h : Report.Alike (Report.native.read text) (Report.embedded.read text')) :
    Interchangeable (Report.native.decode text) (Report.embedded.decode text') := by
  unfold Report.decode
  generalize Report.native.read text = r at h
  generalize Report.embedded.read text' = r' at h
  cases h with
  | findings fs => exact .findings fs
  | refused hc => exact .malformed hc

theorem compilers_interchangeable {x : String} (hx : SingleValue x) :
    Report.Alike (Report.native.read (Report.native.wrap x))
        (Report.embedded.read (Report.embedded.wrap x)) ∧
      ∀ (job : Job) (binary : String) (r r' : Server.Run),
        Native.Leaves r.world.site binary job (Report.native.wrap x) →
        r'.world.backend (Embedded.request job) = .output (Report.embedded.wrap x) →
          let native : Task := ⟨job, .native binary⟩
          let embedded : Task := ⟨job, .embedded⟩
          let o := native.outcome r.world
          let o' := embedded.outcome r'.world
          Interchangeable (native.run r.world).result (embedded.run r'.world).result ∧
            o ∈ (r.finish native).unread ∧ o' ∈ (r'.finish embedded).unread ∧
              ∃ ds, ∀ q q' : Server.Run,
                (q.publish o).sent = q.sent ++ [.diagnostics job.uri job.version ds] ∧
                  (q'.publish o').sent = q'.sent ++ [.diagnostics job.uri job.version ds] := by
  have ha := Report.alike_wrap hx .native .embedded
  refine ⟨ha, fun job binary r r' hl hb => ?_⟩
  have hn : (Task.run ⟨job, .native binary⟩ r.world).result =
      Report.native.decode (Report.native.wrap x) := hl.result_eq
  have he : (Task.run ⟨job, .embedded⟩ r'.world).result =
      Report.embedded.decode (Report.embedded.wrap x) := by
    simp only [Task.run, Analyzer.run, Embedded.run_eq, hb, Embedded.resultOf]
  have hi := interchangeable_of_alike ha
  rw [← hn, ← he] at hi
  have ho : Interchangeable (Task.outcome ⟨job, .native binary⟩ r.world).result
      (Task.outcome ⟨job, .embedded⟩ r'.world).result := hi
  obtain ⟨ds, hd, hd'⟩ := ho.messages
  refine ⟨hi, ?_, ?_, ds, fun q q' => ⟨?_, ?_⟩⟩
  · exact List.mem_append_right _ (List.mem_singleton.2 rfl)
  · exact List.mem_append_right _ (List.mem_singleton.2 rfl)
  · rw [Server.Run.publish, hd]
    rfl
  · rw [Server.Run.publish, hd']
    rfl

end Results

section Short

def shortList : String :=
  "[[\"reentrancy\",\"call before update\",3,\"5\"]]"

def shortWorld : World where
  site := {
    disk := ⟨[
      ([Text.Bytes.ofString "proj"], .directory),
      ([Text.Bytes.ofString "solc"], .file [] true)]⟩
    compiler := fun _ => {
      report := .file (Text.Bytes.ofString (Report.native.wrap shortList)), removesInput := true }
    scratch := Path.ofText "/tmp"
    freshName := "x7" }
  backend := fun _ => .output (Report.embedded.wrap shortList)

def shortJob : Job where
  id := 0
  uri := ⟨"file", some "", "", .plain "/proj/A.sol", none, none⟩
  path := Path.ofText "/proj/A.sol"
  version := some 1
  content := "contract A"
  options := {}

theorem leaves_shortList :
    Native.Leaves shortWorld.site "/solc" shortJob (Report.native.wrap shortList) := by
  have hd : Native.sourceDirectory? shortWorld.site.disk shortJob = some (Path.ofText "/proj") := by
    decide +kernel
  exact ⟨_, _, _, _, .beside hd (by rfl), .started (by rfl) (by rfl) rfl, rfl, by rfl⟩

theorem shortList_reported_alike :
    SingleValue shortList ∧
      Native.Leaves shortWorld.site "/solc" shortJob (Report.native.wrap shortList) ∧
      shortWorld.backend (Embedded.request shortJob) = .output (Report.embedded.wrap shortList) ∧
      Interchangeable (Task.run ⟨shortJob, .native "/solc"⟩ shortWorld).result
        (Task.run ⟨shortJob, .embedded⟩ shortWorld).result := by
  have hx : SingleValue shortList :=
    singleValue_of_read (v := .arr [.arr [.str "reentrancy", .str "call before update", .int 3,
      .str "5"]]) (by cbv)
  have hr := (compilers_interchangeable hx).2 shortJob "/solc"
    (Server.begin {} {} shortWorld) (Server.begin {} {} shortWorld) leaves_shortList rfl
  exact ⟨hx, leaves_shortList, rfl, hr.1⟩

end Short

end ContractLint
