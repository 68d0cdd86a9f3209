import ContractLint.Analysis.Native
import ContractLint.Proofs.Analysis.Places

namespace ContractLint.Native

open Text CommandLine Disk

variable {site : Site} {binary : String} {job : Job} {base disk disk' : Disk} {p : Path}
  {input report place : Names} {s : Bytes}

section Seats

structure Seats (base : Disk) (p : Path) (input report : Names) : Prop where
  apart : input ≠ report
  freeInput : base.get? input = none
  freeReport : base.get? report = none
  leadsInput : Leads base input report p input
  leadsReport : Leads base input report (reportPath p) report

def suffix : Bytes :=
  Bytes.ofString ".err"

theorem naming_report (s : Bytes) : Naming (s ++ suffix) := by
  have hl : (s ++ suffix).length = s.length + 4 := by
    rw [List.length_append]
    rfl
  constructor
  · simp only [Path.isIdle, Bool.or_eq_false_iff, beq_eq_false_iff_ne]
    constructor
    · intro h
      simp [h] at hl
    · intro h
      simp [h] at hl
  · simp only [Path.isUp, beq_eq_false_iff_ne]
    intro h
    simp [h] at hl

theorem reportPath_segments (p : Path) :
    ∃ before last, p.segments = before ++ [last] ∧
      (reportPath p).segments = before ++ [last ++ suffix] := by
  obtain ⟨before, last, hl, ha⟩ := Path.exists_segments p
  exact ⟨before, last, hl, ha suffix (by decide)⟩

theorem seats_of_walk {before : List Bytes}
    (hw : base.walk [] .directory before = .ok (.node place .directory)) (hs : Naming s)
    (hp : p.segments = before ++ [s]) (hi : base.get? (place ++ [s]) = none)
    (hr : base.get? (place ++ [s ++ suffix]) = none) :
    Seats base p (place ++ [s]) (place ++ [s ++ suffix]) := by
  have hq : (reportPath p).segments = before ++ [s ++ suffix] := by
    obtain ⟨before', last, hb, hs'⟩ := reportPath_segments p
    obtain ⟨rfl, hl⟩ := List.append_inj' (hp.symm.trans hb) rfl
    rw [hs', ← List.singleton_inj.1 hl]
  constructor
  · intro h
    have hl := List.self_eq_append_right.1 (List.singleton_inj.1 (List.append_cancel_left h))
    exact absurd hl (by decide)
  · exact hi
  · exact hr
  · exact leads_of_walk hi hr hp hw hs
  · exact leads_of_walk hi hr hq hw (naming_report s)

end Seats

section Touching

variable (hs : Seats base p input report) (ha : Around base input report disk)

include hs ha

theorem Seats.write {content : Bytes} (hw : disk.write p content = .ok disk') :
    Around base input report disk' ∧ disk'.get? report = disk.get? report := by
  cases hs.leadsInput with
  | refused h =>
      obtain ⟨e, he⟩ := h disk ha
      cases hw.symm.trans (write_refused he)
  | seated h =>
      obtain ⟨executable, hd⟩ := write_target content (h disk ha) ha.input
      cases hw.symm.trans hd
      have hi : input ≠ [] := ne_nil_of_get?_ne_directory ha.input
      refine ⟨⟨fun q hq hr => ?_, ?_⟩, get?_put_of_ne hs.apart.symm⟩
      · rw [get?_put_of_ne hq, ha.elsewhere q hq hr]
      · rw [get?_put_self hi]
        simp

theorem Seats.rewrite (changes : Option Bytes) :
    Around base input report (rewrite changes p disk) ∧
      (rewrite changes p disk).get? report = disk.get? report := by
  cases changes with
  | none => exact ⟨ha, rfl⟩
  | some content =>
      simp only [Native.rewrite]
      cases hw : disk.write p content with
      | error => exact ⟨ha, rfl⟩
      | ok disk' => exact hs.write ha hw

theorem Seats.remove :
    Around base input report (disk.remove p) ∧
      (disk.remove p).get? report = disk.get? report := by
  cases hs.leadsInput with
  | refused h =>
      obtain ⟨e, he⟩ := h disk ha
      rw [remove_refused he]
      exact ⟨ha, rfl⟩
  | seated h =>
      have hr := remove_target (h disk ha) (ne_nil_of_get?_ne_directory ha.input)
      refine ⟨⟨fun q hq hn => ?_, ?_⟩, ?_⟩
      · rw [hr, if_neg (by simp [hq]), ha.elsewhere q hq hn]
      · rw [hr, if_pos ⟨rfl, ha.input⟩]
        simp
      · rw [hr, if_neg (by simp [hs.apart.symm])]

end Touching

section Reporting

def Leftover.placed? (l : Leftover) (target : Except IoError Target) : Option Names :=
  match l, target with
  | .directory, .ok (.free place) => some place
  | _, _ => none

theorem placed?_free (l : Leftover) (place : Names) :
    l.placed? (.ok (.free place)) = if l = .directory then some place else none := by
  cases l <;> rfl

theorem placed?_error (l : Leftover) (e : IoError) : l.placed? (.error e) = none := by
  cases l <;> rfl

theorem Seats.apply (hs : Seats base p input report) (b : Behaviour)
    (ha : Around base input report (b.report.apply (reportPath p) disk)) :
    let after := b.apply (reportPath p) p disk
    Around base input report after ∧
      after.get? report = (b.report.apply (reportPath p) disk).get? report := by
  simp only [Behaviour.apply]
  obtain ⟨ha, hr⟩ := hs.rewrite ha b.changesInput
  split
  · obtain ⟨ha', hr'⟩ := hs.remove ha
    exact ⟨ha', hr'.trans hr⟩
  · exact ⟨ha, hr⟩

theorem leave_refused {e : IoError} (h : disk.locate p = .error e) (l : Leftover) :
    l.apply p disk = disk := by
  cases l with
  | nothing => rfl
  | file content => simp [Leftover.apply, write_refused h, Except.toOption]
  | directory => simp [Leftover.apply, createDirectory_refused h, Except.toOption]

theorem leave_seated (hs : Seats base p input report) (ha : Around base input report disk)
    (hr : disk.get? report = none) (hl : disk.locate (reportPath p) = .ok (disk.target report))
    (l : Leftover) :
    let left := l.apply (reportPath p) disk
    Around base input report left ∧ (left.get? report = some .directory ↔ l = .directory) := by
  have hd : disk.get? report ≠ some .directory := by simp [hr]
  have hn : report ≠ [] := ne_nil_of_get?_ne_directory hd
  have hp : ∀ node, Around base input report (disk.put report node) := by
    intro node
    refine ⟨fun q hq hq' => ?_, ?_⟩
    · rw [get?_put_of_ne hq', ha.elsewhere q hq hq']
    · rw [get?_put_of_ne hs.apart]
      exact ha.input
  cases l with
  | nothing => exact ⟨ha, by simp [Leftover.apply, hr]⟩
  | file content =>
      obtain ⟨executable, hw⟩ := write_target content hl hd
      simp only [Leftover.apply, hw, Except.toOption, Option.getD_some]
      exact ⟨hp _, by simp [get?_put_self hn]⟩
  | directory =>
      simp only [Leftover.apply, createDirectory_target hl hr, Except.toOption, Option.getD_some]
      exact ⟨hp _, by simp [get?_put_self hn]⟩

theorem Seats.clear (hs : Seats base p input report) (ha : Around base input report disk)
    (hr : disk.get? report = none) (b : Behaviour) :
    let cleared := (b.apply (reportPath p) p disk).remove (reportPath p)
    Around base input report cleared ∧
      cleared.get? report =
        (b.report.placed? (base.locate (reportPath p))).map fun _ => .directory := by
  have hb : Around base input report base := .self hs.freeInput
  cases hs.leadsReport with
  | refused h =>
      obtain ⟨e, he⟩ := h disk ha
      have hl := leave_refused he b.report
      obtain ⟨ha', hr'⟩ := hs.apply b (hl.symm ▸ ha)
      obtain ⟨e', he'⟩ := h _ ha'
      obtain ⟨e'', hb'⟩ := h base hb
      rw [remove_refused he', hb', placed?_error]
      exact ⟨ha', by rw [hr', hl, hr]; rfl⟩
  | seated h =>
      obtain ⟨hl, hd⟩ := leave_seated hs ha hr (h disk ha) b.report
      obtain ⟨ha', hr'⟩ := hs.apply b hl
      have hg : disk.get? report ≠ some .directory := by simp [hr]
      have hn := ne_nil_of_get?_ne_directory hg
      have hc := remove_target (h _ ha') hn
      have ht : base.locate (reportPath p) = .ok (.free report) := by
        rw [h base hb, target, hs.freeReport]
      refine ⟨⟨fun q hq hq' => ?_, ?_⟩, ?_⟩
      · rw [hc, if_neg (by simp [hq']), ha'.elsewhere q hq hq']
      · rw [hc, if_neg (by simp [hs.apart])]
        exact ha'.input
      · rw [hc, hr', ht, placed?_free]
        by_cases hx : b.report = .directory
        · rw [if_pos hx, if_neg (by simp [hd.2 hx]), hd.2 hx]
          rfl
        · rw [if_neg hx, if_pos ⟨rfl, fun hy => hx (hd.1 hy)⟩]
          rfl

end Reporting

section Running

def directoryLeft? (disk : Disk) (compiler : Compiler) (report : Path) (r : Run) : Option Names :=
  r.invocation.bind fun i => (compiler i).report.placed? (disk.locate report)

theorem Seats.runOn (hs : Seats base p input report) (site : Site) (binary : String) (job : Job)
    (ha : Around base input report site.disk) (hr : site.disk.get? report = none) :
    let r := runOn site binary p job
    Around base input report r.disk ∧
      r.disk.get? report =
        (directoryLeft? base site.compiler (reportPath p) r).map fun _ => .directory := by
  simp only [Native.runOn]
  split
  · exact ⟨ha, hr⟩
  · next disk hw =>
      obtain ⟨ha, hr'⟩ := hs.write ha hw
      split
      · exact ⟨ha, hr'.trans hr⟩
      · exact hs.clear ha (hr'.trans hr) _

theorem mem_directoryLeft? {q : Names} {r : Run} {compiler : Compiler}
    (hs : Seats base p input report)
    (h : directoryLeft? base compiler (reportPath p) r = some q) : q = report := by
  obtain ⟨i, -, hi⟩ := Option.bind_eq_some_iff.1 h
  cases hs.leadsReport with
  | refused hl =>
      obtain ⟨e, he⟩ := hl base (.self hs.freeInput)
      rw [he, placed?_error] at hi
      cases hi
  | seated hl =>
      rw [hl base (.self hs.freeInput), target, hs.freeReport, placed?_free] at hi
      split at hi <;> cases hi
      rfl

end Running

section Beside

structure Fresh (disk : Disk) (copy : Path) : Prop where
  freeCopy : disk.exists? copy = false
  freeReport : ∀ place name, disk.locate copy = .ok (.free (place ++ [name])) →
    disk.get? (place ++ [name ++ suffix]) = none

def copyIn (site : Site) (directory : Path) : Path :=
  directory.join (copyName site.freshName)

theorem Fresh.seats {content : Bytes} (hf : Fresh disk p)
    (hw : disk.write p content = .ok disk') :
    ∃ input report, Seats disk p input report ∧ disk.locate p = .ok (.free input) := by
  cases hl : disk.locate p with
  | error e => cases hw.symm.trans (write_refused hl)
  | ok t =>
      cases t with
      | node place node =>
          have he := hf.freeCopy
          simp [exists?, hl] at he
      | free q =>
          obtain ⟨before, s, hp, -⟩ := reportPath_segments p
          obtain ⟨place, hb, hs, rfl⟩ := locate_free_shape hp hl
          exact ⟨_, _, seats_of_walk hb hs hp (locate_free hl).1 (hf.freeReport place s hl), rfl⟩

theorem Seats.removed (hs : Seats base p input report) (hl : base.locate p = .ok (.free input))
    (ha : Around base input report disk) : (disk.remove p).get? input = none := by
  cases hs.leadsInput with
  | refused h =>
      obtain ⟨e, he⟩ := h base (.self hs.freeInput)
      cases hl.symm.trans he
  | seated h =>
      rw [remove_target (h disk ha) (ne_nil_of_get?_ne_directory ha.input),
        if_pos ⟨rfl, ha.input⟩]

theorem runBeside_of_error {directory : Path} {e : IoError}
    (hw : site.disk.write (copyIn site directory) [] = .error e) :
    runBeside site binary directory job =
      { result := .error (.io (.atPath e (copyIn site directory))), disk := site.disk } := by
  rw [copyIn] at hw
  simp only [runBeside, hw]
  rfl

theorem runBeside_of_ok {directory : Path}
    (hw : site.disk.write (copyIn site directory) [] = .ok disk) :
    runBeside site binary directory job =
      let run := runOn { site with disk } binary (copyIn site directory) job
      { run with disk := run.disk.remove (copyIn site directory), inputLeft := false } := by
  rw [copyIn] at hw
  simp only [runBeside, hw]
  rfl

theorem get?_runBeside (binary : String) (job : Job) {directory : Path}
    (hf : Fresh site.disk (copyIn site directory)) (q : Names) :
    let r := runBeside site binary directory job
    r.disk.get? q =
      if directoryLeft? site.disk site.compiler (reportPath (copyIn site directory)) r = some q
      then some .directory else site.disk.get? q := by
  cases hw : site.disk.write (copyIn site directory) [] with
  | error e =>
      rw [runBeside_of_error hw]
      rfl
  | ok disk =>
      rw [runBeside_of_ok hw]
      obtain ⟨input, report, hs, hl⟩ := hf.seats hw
      obtain ⟨ha, hr⟩ := hs.write (.self hs.freeInput) hw
      obtain ⟨ha, hr⟩ := hs.runOn { site with disk } binary job ha (hr.trans hs.freeReport)
      generalize runOn { site with disk } binary (copyIn site directory) job = r at ha hr
      obtain ⟨hc, hn⟩ := hs.remove ha
      change (r.disk.remove (copyIn site directory)).get? q =
        if directoryLeft? site.disk site.compiler (reportPath (copyIn site directory)) r = some q
        then some .directory else site.disk.get? q
      have hd : ∀ x,
          directoryLeft? site.disk site.compiler (reportPath (copyIn site directory)) r = some x →
            x = report := fun x => mem_directoryLeft? hs
      generalize directoryLeft? site.disk site.compiler (reportPath (copyIn site directory)) r =
        left at hr hd
      by_cases hi : q = input
      · subst hi
        rw [hs.removed hl ha, if_neg fun h => hs.apart (hd q h), hs.freeInput]
      · by_cases hq : q = report
        · subst hq
          rw [hn, hr, hs.freeReport]
          cases left with
          | none => rfl
          | some x => rw [hd x rfl, if_pos rfl]; rfl
        · rw [hc.elsewhere q hi hq, if_neg fun h => hq (hd q h)]

end Beside

section Scratch

theorem naming_of_component {d : Path} {name : Bytes} (h : name ∈ d.components)
    (hu : Path.isUp name = false) : Naming name ∧ Path.slash ∉ name := by
  obtain ⟨hm, hi⟩ := List.mem_filter.1 h
  exact ⟨⟨by simpa using hi, hu⟩, not_mem_of_mem_partsAt hm⟩

def inputName (job : Job) : Bytes :=
  job.path.fileName?.getD (Bytes.ofString fallbackName)

theorem inputIn_eq (directory : Path) (job : Job) :
    inputIn directory job = directory.join ⟨inputName job⟩ := by
  simp only [inputIn, inputName]
  cases job.path.fileName? <;> rfl

theorem naming_inputName (job : Job) : Naming (inputName job) ∧ Path.slash ∉ inputName job := by
  simp only [inputName, Path.fileName?]
  cases hc : job.path.components.getLast? with
  | none => exact ⟨⟨by decide, by decide⟩, by decide⟩
  | some name =>
      cases hu : Path.isUp name with
      | true => simpa [hu] using ⟨⟨by decide, by decide⟩, by decide⟩
      | false => simpa [hu] using naming_of_component (List.mem_of_getLast? hc) hu

theorem inputIn_segments (directory : Path) (job : Job) :
    ∃ before name, (inputIn directory job).segments = before ++ [name] ∧ Naming name ∧
      (before = directory.segments ∨ directory.segments = before ++ [[]]) := by
  obtain ⟨hn, hs⟩ := naming_inputName job
  obtain ⟨before, hp, hb⟩ := directory.segments_join hs
  exact ⟨before, inputName job, inputIn_eq directory job ▸ hp, hn, hb⟩

theorem seats_in_scratch {directory : Path} (job : Job) (ht : disk.IsTree)
    (hl : disk.locate directory = .ok (.free place)) :
    ∃ name, Seats (disk.put place .directory) (inputIn directory job) (place ++ [name])
      (place ++ [name ++ suffix]) := by
  obtain ⟨before, name, hp, hn, hb⟩ := inputIn_segments directory job
  obtain ⟨hf, hm⟩ := locate_free hl
  have hw : (disk.put place .directory).walk [] .directory before =
      .ok (.node place .directory) := by
    have h := hm .directory
    rw [locate_eq_walk h] at h
    rcases hb with rfl | hb
    · exact h
    · rw [hb] at h
      exact walk_idle h
  have he : ∀ s : Bytes, (disk.put place .directory).get? (place ++ [s]) = none := by
    intro s
    rw [get?_put_of_ne (by simp)]
    exact ht.get?_below hf [s]
  exact ⟨name, seats_of_walk hw hn hp (he name) (he _)⟩

theorem runInScratch_of_error {e : IoError}
    (hw : site.disk.createDirectory site.scratch = .error e) :
    runInScratch site binary job =
      { result := .error (.io (.atPath e site.scratch)), disk := site.disk } := by
  simp only [runInScratch, hw]

theorem runInScratch_of_ok (hw : site.disk.createDirectory site.scratch = .ok disk) :
    runInScratch site binary job =
      let run := runIn { site with disk } binary site.scratch job
      { run with disk := run.disk.removeTree site.scratch, inputLeft := false } := by
  simp only [runInScratch, hw]

theorem get?_runInScratch (binary : String) (job : Job) (ht : site.disk.IsTree) (q : Names) :
    (runInScratch site binary job).disk.get? q = site.disk.get? q := by
  cases hw : site.disk.createDirectory site.scratch with
  | error e => rw [runInScratch_of_error hw]
  | ok disk =>
      rw [runInScratch_of_ok hw]
      obtain ⟨place, hl, rfl⟩ := createDirectory_ok hw
      obtain ⟨hf, hm⟩ := locate_free hl
      obtain ⟨name, hs⟩ := seats_in_scratch job ht hl
      have ha := (hs.runOn { site with disk := site.disk.put place .directory } binary job
        (.self hs.freeInput) hs.freeReport).1
      simp only [runIn]
      generalize runOn { site with disk := site.disk.put place .directory } binary
        (inputIn site.scratch job) job = r at ha
      have hd : r.disk.locate site.scratch = .ok (.node place .directory) :=
        locate_of_below (ha.below hs.freeInput hs.freeReport) (hm .directory)
      have hg : site.disk.get? place ≠ some .directory := by simp [hf]
      have hn := ne_nil_of_get?_ne_directory hg
      simp only [removeTree, hd, get?_eraseTree]
      by_cases hp : place.isPrefixOf q = true
      · obtain ⟨below, rfl⟩ := List.isPrefixOf_iff_prefix.1 hp
        rw [if_pos ⟨hp, by simp [hn]⟩, ht.get?_below hf]
      · have ho : ∀ s : Bytes, q ≠ place ++ [s] := by
          rintro s rfl
          exact hp (List.isPrefixOf_iff_prefix.2 (List.prefix_append _ _))
        have hq : q ≠ place := by
          rintro rfl
          exact hp (List.isPrefixOf_iff_prefix.2 (List.prefix_refl _))
        rw [if_neg fun h => hp h.1, ha.elsewhere q (ho _) (ho _), get?_put_of_ne hq]

end Scratch

def directoryStays? (site : Site) (job : Job) (r : Run) : Option Names :=
  (sourceDirectory? site.disk job).bind fun directory =>
    directoryLeft? site.disk site.compiler (reportPath (copyIn site directory)) r

theorem run_leaves_disk (site : Site) (binary : String) (job : Job) (ht : site.disk.IsTree) :
    (∀ directory, Fresh site.disk (copyIn site directory) → ∀ q,
      let r := runBeside site binary directory job
      r.disk.get? q =
        if directoryLeft? site.disk site.compiler (reportPath (copyIn site directory)) r = some q
        then some .directory else site.disk.get? q) ∧
      ((∀ directory, sourceDirectory? site.disk job = some directory →
          Fresh site.disk (copyIn site directory)) → ∀ q,
        let r := run site binary job
        r.disk.get? q =
          if directoryStays? site job r = some q then some .directory
          else site.disk.get? q) := by
  refine ⟨fun directory hf q => get?_runBeside binary job hf q, fun hf q => ?_⟩
  cases hd : sourceDirectory? site.disk job with
  | none =>
      have hr : run site binary job = runInScratch site binary job := by simp only [run, hd]
      rw [hr]
      simp only [directoryStays?, hd]
      exact get?_runInScratch binary job ht q
  | some directory =>
      have hr : run site binary job = runBeside site binary directory job := by
        simp only [run, hd]
      rw [hr]
      simp only [directoryStays?, hd]
      exact get?_runBeside binary job (hf directory hd) q

section Project

theorem isTree_of_entries
    (h : ∀ e ∈ disk.entries, e.1 ≠ [] → disk.get? e.1.dropLast = some .directory) :
    disk.IsTree := by
  intro place name node hg
  have hn : place ++ [name] ≠ [] := by simp
  simp only [get?, if_neg hn] at hg
  obtain ⟨e, he, -⟩ := Option.map_eq_some_iff.1 hg
  have hp : e.1 = place ++ [name] := by simpa using List.find?_some he
  have hd := h e (List.mem_of_find?_eq_some he) (hp ▸ hn)
  rwa [hp, List.dropLast_concat] at hd

def segment (s : String) : Bytes :=
  Bytes.ofString s

def projectSite : Site where
  disk := ⟨[
    ([segment "proj"], .directory), ([segment "proj", segment "A.sol"], .file (segment "contract A \x7b\x7d") false),
    ([segment "solc"], .file [] true)]⟩
  compiler := fun _ => { report := .directory, removesInput := true, status := .code 1 }
  scratch := Path.ofText "/tmp"
  freshName := "x7"

def projectJob : Job where
  id := 0
  uri := ⟨"file", some "", "", .plain "/proj/A.sol", none, none⟩
  path := Path.ofText "/proj/A.sol"
  version := none
  content := "contract B"
  options := {}

theorem directory_stays_in_project :
    sourceDirectory? projectSite.disk projectJob = some (Path.ofText "/proj") ∧
      Fresh projectSite.disk (copyIn projectSite (Path.ofText "/proj")) ∧
      let r := run projectSite "/solc" projectJob
      r.invocation.isSome ∧
        r.disk.get? [segment "proj", segment ".secbit-x7.sol.err"] = some .directory ∧
        r.disk.get? [segment "proj", segment ".secbit-x7.sol"] = none ∧
        r.disk.get? [segment "proj", segment "A.sol"] =
          projectSite.disk.get? [segment "proj", segment "A.sol"] := by
  have ht : projectSite.disk.IsTree := isTree_of_entries (by decide +kernel)
  have hd : sourceDirectory? projectSite.disk projectJob = some (Path.ofText "/proj") := by
    decide +kernel
  have hl : projectSite.disk.locate (copyIn projectSite (Path.ofText "/proj")) =
      .ok (.free ([segment "proj"] ++ [segment ".secbit-x7.sol"])) := by rfl
  have hf : Fresh projectSite.disk (copyIn projectSite (Path.ofText "/proj")) := by
    refine ⟨by decide +kernel, fun place s h => ?_⟩
    obtain ⟨hp, hs⟩ := List.append_inj' (Target.free.inj (Except.ok.inj (hl.symm.trans h))) rfl
    rw [← hp, ← List.singleton_inj.1 hs]
    decide +kernel
  have hr := (run_leaves_disk projectSite "/solc" projectJob ht).2 fun d h =>
    Option.some.inj (hd.symm.trans h) ▸ hf
  refine ⟨hd, hf, by decide +kernel, ?_, ?_, ?_⟩
  · rw [hr, if_pos (by decide +kernel)]
  · rw [hr, if_neg (by decide +kernel)]
    decide +kernel
  · rw [hr, if_neg (by decide +kernel)]

end Project

end ContractLint.Native
