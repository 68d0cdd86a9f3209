import ContractLint.Proofs.Server.Configuration
import Mathlib.Data.List.TakeWhile

namespace ContractLint

open Text

namespace Path

variable {p : Path} {bs after below extension : Bytes}

theorem takeWhile_append_dot (h : dot ∉ after) (below : Bytes) :
    (after ++ dot :: below).takeWhile (· != dot) = after := by
  have ha : ∀ b ∈ after, (b != dot) = true := fun b hb => bne_iff_ne.2 fun he => h (he ▸ hb)
  rw [List.takeWhile_append_of_pos ha, List.takeWhile_cons_of_neg (by simp), List.append_nil]

theorem dropWhile_append_dot (h : dot ∉ after) (below : Bytes) :
    (after ++ dot :: below).dropWhile (· != dot) = dot :: below := by
  have ha : ∀ b ∈ after, (b != dot) = true := fun b hb => bne_iff_ne.2 fun he => h (he ▸ hb)
  rw [List.dropWhile_append_of_pos ha, List.dropWhile_cons_of_neg (by simp)]

theorem not_mem_takeWhile_dot (bs : Bytes) : dot ∉ bs.takeWhile (· != dot) :=
  fun h => by simpa using List.mem_takeWhile_imp h

theorem eq_append_of_dropWhile {b : UInt8} (h : bs.dropWhile (· != dot) = b :: below) :
    bs = bs.takeWhile (· != dot) ++ dot :: below := by
  have hb : b = dot := by
    have hn : bs.dropWhile (· != dot) ≠ [] := by simp [h]
    simpa [h] using List.head_dropWhile_not (· != dot) hn
  rw [hb] at h
  rw [← h, List.takeWhile_append_dropWhile]

theorem extension?_eq_some_iff :
    p.extension? = some extension ↔
      ∃ stem, stem ≠ [] ∧ dot ∉ extension ∧ p.fileName? = some (stem ++ dot :: extension) := by
  simp only [extension?, Option.bind_eq_bind, Option.bind_eq_some_iff]
  constructor
  · rintro ⟨name, hn, h⟩
    split at h
    · next d b below hd =>
        obtain rfl := Option.some.inj h
        have hr : name = (b :: below).reverse ++ dot :: (name.reverse.takeWhile (· != dot)).reverse := by
          simpa using congrArg List.reverse (eq_append_of_dropWhile hd)
        refine ⟨(b :: below).reverse, by simp, ?_, hn.trans (congrArg some hr)⟩
        rw [List.mem_reverse]
        exact not_mem_takeWhile_dot _
    · cases h
  · rintro ⟨stem, hs, he, hn⟩
    refine ⟨_, hn, ?_⟩
    have hd : dot ∉ extension.reverse := fun h => he (List.mem_reverse.1 h)
    have hv : (stem ++ dot :: extension).reverse = extension.reverse ++ dot :: stem.reverse := by
      simp
    obtain ⟨b, below, hb⟩ := List.exists_cons_of_ne_nil (List.reverse_ne_nil_iff.2 hs)
    rw [hv, dropWhile_append_dot hd, takeWhile_append_dot hd, hb, List.reverse_reverse]

end Path

section Gate

inductive Documents.Admits (docs : Documents) (uri : Url) : Prop where
  | opened {d : Document} :
      docs.get? uri = some d → d.languageId = "solidity" → Admits docs uri
  | closed {stem : Bytes} :
      docs.get? uri = none → stem ≠ [] →
        (Path.ofText uri.path.text).fileName? = some (stem ++ Bytes.ofString ".sol") →
        Admits docs uri

namespace Documents

variable {docs : Documents} {uri : Url}

theorem isSolidity_iff : docs.isSolidity uri = true ↔ docs.Admits uri := by
  have hx : Bytes.ofString ".sol" = Path.dot :: Bytes.ofString Document.fileExtension := by
    decide +kernel
  have hd : Path.dot ∉ Bytes.ofString Document.fileExtension := by decide +kernel
  cases ho : docs.get? uri with
  | some d =>
      simp only [isSolidity, ho, Document.isSolidity, decide_eq_true_eq]
      constructor
      · exact .opened ho
      · intro h
        cases h with
        | opened hg hl =>
            cases ho.symm.trans hg
            exact hl
        | closed hg => cases ho.symm.trans hg
  | none =>
      simp only [isSolidity, ho, beq_iff_eq, Path.extension?_eq_some_iff]
      constructor
      · rintro ⟨stem, hs, -, hn⟩
        exact .closed ho hs (hx ▸ hn)
      · intro h
        cases h with
        | opened hg => cases ho.symm.trans hg
        | closed hg hs hn => exact ⟨_, hs, hd, hx ▸ hn⟩

theorem isSolidity_eq_false_iff : docs.isSolidity uri = false ↔ ¬ docs.Admits uri := by
  rw [← isSolidity_iff, Bool.not_eq_true]

theorem isSolidity_markSaved (docs : Documents) (u : Url) (content : Option String) (uri : Url) :
    (docs.markSaved u content).isSolidity uri = docs.isSolidity uri := by
  have hg : (docs.markSaved u content).get? uri = (docs.get? uri).map fun d =>
      if u = uri then { d with content := content.getD d.content, isDirty := false } else d :=
    get?_update docs u _ uri
  simp only [isSolidity, hg]
  cases docs.get? uri with
  | none => rfl
  | some d =>
      by_cases hu : u = uri
      · rw [Option.map_some, if_pos hu]
        rfl
      · rw [Option.map_some, if_neg hu]

end Documents

end Gate

namespace Server

variable {s : Server} {out : Outside} {uri : Url}

section Refused

theorem analyze_of_refused (h : ¬ s.documents.Admits uri) :
    s.analyze out uri = ({ server := s }, .ok none) := by
  simp only [analyze, attempt_of_skipped (Documents.isSolidity_eq_false_iff.2 h)]
  rfl

theorem reads?_of_refused (h : ¬ s.documents.Admits uri) : s.reads? uri = none := by
  simp [reads?, Documents.isSolidity_eq_false_iff.2 h]

theorem answerAnalyze_of_refused_target {arguments : List Json} (id : RequestId)
    (ht : s.target arguments = .ok uri) (h : ¬ s.documents.Admits uri) :
    s.answerAnalyze out id arguments =
      { server := s, sent := [.reply id (.analyzed uri none)] } := by
  simp only [answerAnalyze, ht, analyze_of_refused h]
  rfl

theorem didSave_of_refused {p : Params.DidSave} (h : ¬ s.documents.Admits p.uri) :
    s.didSave out p =
      { server := s.withDocuments (s.documents.markSaved p.uri p.text) } := by
  have hs : ¬ (s.withDocuments (s.documents.markSaved p.uri p.text)).documents.Admits p.uri := by
    rw [← Documents.isSolidity_eq_false_iff] at h ⊢
    exact (Documents.isSolidity_markSaved s.documents p.uri p.text p.uri).trans h
  simp only [didSave, analyze_of_refused hs]
  split <;> rfl

end Refused

namespace Run

variable {r : Run} {e : Event} {t : Task}

theorem isSolidity_informed (h : r.asks? e = some uri) (u : Url) :
    (r.server.informed e).documents.isSolidity u = r.server.documents.isSolidity u := by
  cases e with
  | request | analyze => rfl
  | finish | publish | abandon | stopWorker | outside => cases h
  | notification method params =>
      simp only [asks?, asked?] at h
      split at h
      · next p hp =>
          have hs : r.server.store.next (.notification method params) =
              r.server.store.saved p := by
            rw [Store.next, Store.told?_eq_bind, hp]
            rfl
          simp only [informed, hs]
          exact Documents.isSolidity_markSaved r.server.documents p.uri p.text u
      · cases h

theorem isSolidity_of_queued {a : Attempt} (h : Attempted s out uri a) (hq : a.queued = some t) :
    s.documents.isSolidity uri = true ∧ t.job.uri = uri := by
  cases h with
  | skipped | unreadable | stopped => cases hq
  | queued hs => exact ⟨hs, by cases hq; rfl⟩

theorem admits_of_queued (h : r.queued? e = some t) :
    r.server.documents.Admits t.job.uri ∧ (r.step e).server.documents.Admits t.job.uri := by
  obtain ⟨uri, hu, hq⟩ := attempt_of_queued h
  obtain ⟨hs, rfl⟩ := isSolidity_of_queued (attempted _ _ _) hq
  have hd : (r.step e).server.documents = (r.server.informed e).documents :=
    congrArg Store.documents (store_informed r e).symm
  rw [← Documents.isSolidity_iff, ← Documents.isSolidity_iff, hd,
    ← isSolidity_informed hu]
  exact ⟨hs, hs⟩

end Run

theorem only_solidity_is_analyzed :
    (∀ (workspace : Workspace) (settings : Settings) (world : World) (es : List Event),
      let r := begin workspace settings world
      ∀ t ∈ r.accepted es, ∃ fs e gs, es = fs ++ e :: gs ∧ (r.after fs).queued? e = some t ∧
        (r.after fs).server.documents.Admits t.job.uri ∧
          ((r.after fs).step e).server.documents.Admits t.job.uri) ∧
      ∀ (s : Server) (uri : Url), ¬ s.documents.Admits uri →
        s.reads? uri = none ∧
          ∀ out : Outside,
            s.analyze out uri = ({ server := s, sent := [], queued := none }, .ok none) ∧
              (∀ id arguments, s.target arguments = .ok uri →
                s.answerAnalyze out id arguments =
                  { server := s, sent := [.reply id (.analyzed uri none)], queued := none }) ∧
              ∀ text, s.didSave out ⟨uri, text⟩ =
                { server := s.withDocuments (s.documents.markSaved uri text)
                  sent := [], queued := none } := by
  constructor
  · intro workspace settings world es r t ht
    obtain ⟨fs, e, gs, rfl, hq⟩ := Run.mem_accepted ht
    exact ⟨fs, e, gs, rfl, hq, Run.admits_of_queued hq⟩
  · intro s uri h
    refine ⟨reads?_of_refused h, ?_⟩
    intro out
    refine ⟨analyze_of_refused h, ?_, ?_⟩
    · intro id arguments ht
      exact answerAnalyze_of_refused_target id ht h
    · intro text
      exact didSave_of_refused h

section Notes

def notes : Url where
  scheme := "untitled"
  authority := none
  host := ""
  path := .plain "notes.md"
  query := none
  fragment := none

def openNotes (languageId : String) : Event :=
  .notification "textDocument/didOpen" (.obj [("textDocument", .obj [
    ("uri", .str "untitled:notes.md"), ("languageId", .str languageId), ("version", .int 1),
    ("text", .str "contract A {}")])])

def notesTask : Task where
  job := {
    id := 0, uri := notes, path := notes.location, version := some 1, content := "contract A {}"
    options := {} }
  analyzer := .embedded

theorem reopened_notes_are_skipped :
    let r := begin {} {} bareWorld
    let es := [openNotes "solidity", .analyze notes, openNotes "markdown", .analyze notes]
    r.accepted es = [notesTask] ∧
      (∃ fs e gs, es = fs ++ e :: gs ∧ (r.after fs).queued? e = some notesTask ∧
        (r.after fs).server.documents.Admits notes) ∧
      ¬ (r.after es).server.documents.Admits notes ∧
      ∀ out, ((r.after es).server.analyze out notes).2 = .ok none := by
  intro r es
  have ha : r.accepted es = [notesTask] := by decide +kernel
  have hn : ¬ (r.after es).server.documents.Admits notes :=
    Documents.isSolidity_eq_false_iff.1 (by decide +kernel)
  obtain ⟨hj, hr⟩ := only_solidity_is_analyzed
  obtain ⟨fs, e, gs, he, hq, hb, -⟩ := hj {} {} bareWorld es notesTask (by simp [r, ha])
  refine ⟨ha, ⟨fs, e, gs, he, hq, hb⟩, hn, ?_⟩
  intro out
  rw [((hr _ _ hn).2 out).1]

end Notes

end Server

end ContractLint
