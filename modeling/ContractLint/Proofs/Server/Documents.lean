import ContractLint.Proofs.Documents.Active
import ContractLint.Proofs.Server.Store

namespace ContractLint.Server

open Documents (Operation Opened Touches Last)

def Notification.operation? : Notification → Option Operation
  | .didOpen p => some (.add p.uri p.languageId p.version p.text)
  | .didChange p => p.changes.getLast?.map (.change p.uri p.version)
  | .didSave p => some (.markSaved p.uri p.text)
  | .didClose uri => some (.close uri)
  | .didChangeConfiguration _ => none

def Event.operation? : Event → Option Operation
  | .notification method params => (Notification.ofJson? method params).bind Notification.operation?
  | _ => none

theorem Store.changed?_getD (c : Store) (p : Params.DidChange) :
    (c.changed? p).getD c = { c with
      documents := (Notification.didChange p).operation?.elim c.documents c.documents.apply } := by
  simp only [changed?, Notification.operation?]
  cases p.changes.getLast? with
  | none => rfl
  | some text =>
      simp only [Option.bind_eq_bind, Option.bind_some, Option.map_some, Option.elim_some,
        Documents.apply]
      cases c.documents.change p.uri p.version text <;> rfl

theorem Store.documents_heard? (c : Store) (n : Notification) :
    ((c.heard? n).getD c).documents = n.operation?.elim c.documents c.documents.apply := by
  cases n with
  | didOpen | didSave | didClose => rfl
  | didChange p => rw [heard?, changed?_getD]
  | didChangeConfiguration v =>
      simp only [heard?, configured?, Notification.operation?]
      cases c.settings.update v <;> rfl

theorem Store.documents_next (c : Store) (e : Event) :
    (c.next e).documents = e.operation?.elim c.documents c.documents.apply := by
  cases e with
  | notification method params =>
      simp only [next, told?_eq_bind, Event.operation?]
      cases Notification.ofJson? method params with
      | none => rfl
      | some n => exact c.documents_heard? n
  | request | analyze | finish | publish | abandon | stopWorker | outside => rfl

namespace Run

theorem documents_step (r : Run) (e : Event) :
    (r.step e).server.documents =
      e.operation?.elim r.server.documents r.server.documents.apply := by
  have hs : (r.step e).server.documents = (r.server.store.next e).documents :=
    congrArg Store.documents (store_step r e)
  rw [hs, Store.documents_next]
  rfl

theorem documents_after (r : Run) (es : List Event) :
    (r.after es).server.documents =
      r.server.documents.after (es.filterMap Event.operation?) := by
  induction es generalizing r with
  | nil => rfl
  | cons e es ih =>
      rw [after_cons, ih, documents_step]
      cases h : e.operation? with
      | none => rw [List.filterMap_cons_none h, Option.elim_none]
      | some o => rw [List.filterMap_cons_some h, Option.elim_some, Documents.after_cons]

end Run

theorem last_touched_document_is_active (os : List Operation) :
    let docs := Documents.empty.after os
    (∀ u, docs.lastActive = some u ↔
      ∃ before o later, Last Touches os before o later ∧ o.uri = u ∧ .close u ∉ later) ∧
      (docs.lastActive = none ↔
        ∀ before o later, Last Touches os before o later → .close o.uri ∈ later) ∧
      (∀ u, docs.lastActive ≠ some u →
        (docs.apply (.close u)).lastActive = docs.lastActive) ∧
      (∀ u version content e, docs.change u version content = .error e →
        (docs.apply (.change u version content)).lastActive = docs.lastActive) ∧
      (∀ u, docs.lastActive = some u →
        (docs.get? u).isSome ∨
          ∃ before content later,
            Last Touches os before (.markSaved u content) later ∧ ¬ Opened before u) ∧
      ∀ (workspace : Workspace) (settings : Settings) (world : World) (es : List Event),
        let r := (begin workspace settings world).after es
        r.server.documents = Documents.empty.after (es.filterMap Event.operation?) ∧
          ∀ e, e.operation? = none →
            (r.step e).server.documents.lastActive = r.server.documents.lastActive := by
  intro docs
  refine ⟨?_, ?_, ?_, ?_, ?_, ?_⟩
  · intro u
    exact Documents.lastActive_after os u
  · exact Documents.lastActive_eq_none_iff
  · intro u hu
    exact if_neg hu
  · intro u version content e he
    simp only [Documents.apply, he]
    rfl
  · intro u hu
    rw [Documents.isSome_get?_after]
    exact ((Documents.lastActive_after os u).1 hu).opened_or_saved
  · intro workspace settings world es r
    refine ⟨Run.documents_after _ es, ?_⟩
    intro e he
    rw [Run.documents_step, he, Option.elim_none]

end ContractLint.Server
