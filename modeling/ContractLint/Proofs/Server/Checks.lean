import ContractLint.Proofs.Analysis.Checks
import ContractLint.Proofs.Server.Gate

namespace ContractLint

namespace Server

namespace Run

variable {r : Run} {e : Event} {t : Task}

def Resolves (r : Run) (e : Event) : Prop :=
  ∃ uri text version, r.asks? e = some uri ∧
    (r.server.informed e).documents.Admits uri ∧
    Content (r.server.informed e) r.world.disk uri text version

theorem settings_informed {uri : Url} (h : r.asks? e = some uri) :
    (r.server.informed e).settings = r.server.settings :=
  (Store.next_of_unconfigured (c := r.server.store) (configuration?_of_asks h)).1

theorem resolves_of_queued (h : r.queued? e = some t) : r.Resolves e := by
  obtain ⟨uri, hu, hq⟩ := attempt_of_queued h
  obtain ⟨text, version, hc, -⟩ := attempt_queued hq
  obtain ⟨hs, -⟩ := isSolidity_of_queued (attempted _ _ _) hq
  exact ⟨uri, text, version, hu, Documents.isSolidity_iff.1 hs, hc⟩

theorem tries?_of_resolves (h : r.Resolves e) :
    ∃ t, r.tries? e = some {
      unknown := r.server.settings.unknownTags .builtin
      outcome := if r.accepting then .ok (some t) else .error .workerStopped } := by
  obtain ⟨uri, text, version, hu, hg, hc⟩ := h
  have hs : (r.server.informed e).settings = r.server.settings := settings_informed hu
  refine ⟨(r.server.informed e).task uri uri.location text version, ?_⟩
  rw [tries?, hu, Option.map_some, attempt_of_content (Documents.isSolidity_iff.2 hg) hc, hs]
  rfl

theorem queued?_of_resolves (h : r.Resolves e) : (r.queued? e).isSome = r.accepting := by
  obtain ⟨t, ht⟩ := tries?_of_resolves h
  rw [queued?_eq, ht]
  cases r.accepting <;> rfl

theorem serverStep_of_asks {uri : Url} (h : r.asks? e = some uri) :
    ∃ st, r.serverStep? e = some st := by
  cases e with
  | request | notification | analyze => exact ⟨_, rfl⟩
  | finish | publish | abandon | stopWorker | outside => cases h

theorem sent_of_tries {a : Attempt} (ha : r.tries? e = some a) :
    ∃ answer : Option Message, answer.map Message.answers? = e.request?.map some ∧
      (r.step e).sent = r.sent ++ a.notices ++ answer.toList := by
  obtain ⟨uri, hu, -⟩ := Option.map_eq_some_iff.1 ha
  obtain ⟨st, hs⟩ := serverStep_of_asks hu
  obtain ⟨answer, hm, rfl⟩ := serverStep_eq_tried hs
  refine ⟨answer, hm, ?_⟩
  rw [step_of_serverStep hs, ha, List.append_assoc]
  rfl

end Run

section Repeated

end Repeated

end Server

end ContractLint
