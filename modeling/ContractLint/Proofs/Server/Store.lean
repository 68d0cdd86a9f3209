import ContractLint.Proofs.Server.Attempts

namespace ContractLint.Server

structure Store where
  documents : Documents
  settings : Settings
  analyzer : Analyzer

def store (s : Server) : Store :=
  ⟨s.documents, s.settings, s.analyzer⟩

def withStore (s : Server) (c : Store) : Server :=
  { s with documents := c.documents, settings := c.settings, analyzer := c.analyzer }

namespace Store

def opened (c : Store) (p : Params.DidOpen) : Store :=
  { c with documents := c.documents.add ⟨p.uri, p.languageId, p.version, p.text, false⟩ }

def changed? (c : Store) (p : Params.DidChange) : Option Store := do
  let text ← p.changes.getLast?
  let documents ← (c.documents.change p.uri p.version text).toOption
  return { c with documents }

def saved (c : Store) (p : Params.DidSave) : Store :=
  { c with documents := c.documents.markSaved p.uri p.text }

def closed (c : Store) (uri : Url) : Store :=
  { c with documents := c.documents.close uri }

def configured? (c : Store) (v : Json) : Option Store := do
  let settings ← (c.settings.update v).toOption
  return { c with settings, analyzer := .ofSettings settings }

def told? (c : Store) (method : String) (params : Json) : Option Store :=
  if method = "textDocument/didOpen" then (Params.DidOpen.ofJson? params).map c.opened
  else if method = "textDocument/didChange" then (Params.DidChange.ofJson? params).bind c.changed?
  else if method = "textDocument/didSave" then (Params.DidSave.ofJson? params).map c.saved
  else if method = "textDocument/didClose" then (Params.didClose? params).map c.closed
  else if method = "workspace/didChangeConfiguration" then
    (Params.settings? params).bind c.configured?
  else none

def next (c : Store) : Event → Store
  | .notification method params => (c.told? method params).getD c
  | _ => c

inductive Ignored (c : Store) : String → Json → Prop where
  | unhandled {method : String} {params : Json} :
      method ∉ ["textDocument/didOpen", "textDocument/didChange", "textDocument/didSave",
        "textDocument/didClose", "workspace/didChangeConfiguration"] →
        Ignored c method params
  | badOpen {params : Json} :
      Params.DidOpen.ofJson? params = none → Ignored c "textDocument/didOpen" params
  | badChange {params : Json} :
      Params.DidChange.ofJson? params = none → Ignored c "textDocument/didChange" params
  | noChange {params : Json} {p : Params.DidChange} :
      Params.DidChange.ofJson? params = some p → p.changes = [] →
        Ignored c "textDocument/didChange" params
  | notOpen {params : Json} {p : Params.DidChange} :
      Params.DidChange.ofJson? params = some p → c.documents.get? p.uri = none →
        Ignored c "textDocument/didChange" params
  | badSave {params : Json} :
      Params.DidSave.ofJson? params = none → Ignored c "textDocument/didSave" params
  | badClose {params : Json} :
      Params.didClose? params = none → Ignored c "textDocument/didClose" params
  | badConfiguration {params : Json} :
      Params.settings? params = none → Ignored c "workspace/didChangeConfiguration" params
  | noSettings {params v : Json} :
      Params.settings? params = some v → (Settings.part v).isObject = false →
        Ignored c "workspace/didChangeConfiguration" params

theorem changed?_eq_none_iff {c : Store} {p : Params.DidChange} :
    c.changed? p = none ↔ p.changes = [] ∨ c.documents.get? p.uri = none := by
  simp only [changed?, Documents.change]
  cases hl : p.changes.getLast? with
  | none => simp [List.getLast?_eq_none_iff.1 hl]
  | some text =>
      have hne : p.changes ≠ [] := by
        intro h
        simp [h] at hl
      cases hd : c.documents.get? p.uri with
      | none => simp [Except.toOption]
      | some d => simp [Except.toOption, hne]

theorem configured?_eq_none_iff {c : Store} {v : Json} :
    c.configured? v = none ↔ (Settings.part v).isObject = false := by
  simp only [configured?, Settings.update]
  cases (Settings.part v).isObject <;> simp [Except.toOption]

theorem told?_eq_none_iff {c : Store} {method : String} {params : Json} :
    c.told? method params = none ↔ Ignored c method params := by
  constructor
  · intro h
    unfold told? at h
    split at h
    · next hm => subst hm; exact .badOpen (Option.map_eq_none_iff.1 h)
    split at h
    · next hm =>
        subst hm
        cases hp : Params.DidChange.ofJson? params with
        | none => exact .badChange hp
        | some p =>
            rw [hp, Option.bind_some, changed?_eq_none_iff] at h
            rcases h with h | h
            · exact .noChange hp h
            · exact .notOpen hp h
    split at h
    · next hm => subst hm; exact .badSave (Option.map_eq_none_iff.1 h)
    split at h
    · next hm => subst hm; exact .badClose (Option.map_eq_none_iff.1 h)
    split at h
    · next hm =>
        subst hm
        cases hp : Params.settings? params with
        | none => exact .badConfiguration hp
        | some v =>
            rw [hp, Option.bind_some, configured?_eq_none_iff] at h
            exact .noSettings hp h
    · exact .unhandled (by simp [*])
  · intro h
    cases h with
    | unhandled hm =>
        simp only [List.mem_cons, List.not_mem_nil, or_false, not_or] at hm
        simp [told?, hm]
    | badOpen hp => simp [told?, hp]
    | badChange hp => simp [told?, hp]
    | noChange hp hc => simp [told?, hp, changed?_eq_none_iff.2 (.inl hc)]
    | notOpen hp hd => simp [told?, hp, changed?_eq_none_iff.2 (.inr hd)]
    | badSave hp => simp [told?, hp]
    | badClose hp => simp [told?, hp]
    | badConfiguration hp => simp [told?, hp]
    | noSettings hp hv => simp [told?, hp, configured?_eq_none_iff.2 hv]

def heard? (c : Store) : Notification → Option Store
  | .didOpen p => some (c.opened p)
  | .didChange p => c.changed? p
  | .didClose uri => some (c.closed uri)
  | .didSave p => some (c.saved p)
  | .didChangeConfiguration v => c.configured? v

theorem told?_eq_bind (c : Store) (method : String) (params : Json) :
    c.told? method params = (Notification.ofJson? method params).bind c.heard? := by
  unfold Notification.ofJson?
  split
  · change (Params.DidOpen.ofJson? params).map c.opened = _
    cases Params.DidOpen.ofJson? params <;> rfl
  · change (Params.DidChange.ofJson? params).bind c.changed? = _
    cases Params.DidChange.ofJson? params <;> rfl
  · change (Params.didClose? params).map c.closed = _
    cases Params.didClose? params <;> rfl
  · change (Params.DidSave.ofJson? params).map c.saved = _
    cases Params.DidSave.ofJson? params <;> rfl
  · change (Params.settings? params).bind c.configured? = _
    cases Params.settings? params <;> rfl
  · next h1 h2 h3 h4 h5 =>
      rw [told?, if_neg h1, if_neg h2, if_neg h4, if_neg h3, if_neg h5]
      rfl

end Store

section Steps

variable {s : Server} {out : Outside}

theorem store_withStore (s : Server) (c : Store) : (s.withStore c).store = c := rfl

theorem withStore_store (s : Server) : s.withStore s.store = s := rfl

theorem store_count (s : Server) (queued : Option Task) : (s.count queued).store = s.store := by
  cases queued <;> rfl

def informed (s : Server) (e : Event) : Server :=
  s.withStore (s.store.next e)

theorem didChange_eq (s : Server) (p : Params.DidChange) :
    s.didChange p = s.withStore ((s.store.changed? p).getD s.store) := by
  cases hl : p.changes.getLast? with
  | none =>
      simp only [didChange, Store.changed?, hl]
      rfl
  | some text =>
      simp only [didChange, Store.changed?, store, hl, Option.bind_eq_bind, Option.bind_some]
      cases s.documents.change p.uri p.version text <;> rfl

theorem didChangeConfiguration_eq (s : Server) (v : Json) :
    s.didChangeConfiguration v = s.withStore ((s.store.configured? v).getD s.store) := by
  simp only [didChangeConfiguration, Store.configured?, store]
  cases s.settings.update v <;> rfl

theorem didSave_eq_tried (s : Server) (out : Outside) (p : Params.DidSave) :
    s.didSave out p =
      (s.withStore (s.store.saved p)).tried
        ((if s.settings.onSave then some p.uri else none).map
          ((s.withStore (s.store.saved p)).attempt out)) none := by
  have hs : s.withDocuments (s.documents.markSaved p.uri p.text) =
      s.withStore (s.store.saved p) := rfl
  have hc : (s.withStore (s.store.saved p)).settings.onSave = s.settings.onSave := rfl
  simp only [didSave, hs, hc]
  cases s.settings.onSave with
  | true => exact analyze_eq_tried _ out p.uri
  | false => rfl

theorem notification_eq_tried (s : Server) (out : Outside) (method : String) (params : Json) :
    s.notification out method params =
      (s.informed (.notification method params)).tried
        ((s.asked? (.notification method params)).map
          ((s.informed (.notification method params)).attempt out)) none := by
  simp only [notification, informed, Store.next, Store.told?_eq_bind, asked?]
  cases Notification.ofJson? method params with
  | none => rfl
  | some n =>
      cases n with
      | didOpen p => rfl
      | didClose uri => rfl
      | didChange p =>
          simp only [accept, didChange_eq, Option.bind_some, Store.heard?]
          rfl
      | didChangeConfiguration v =>
          simp only [accept, didChangeConfiguration_eq, Option.bind_some, Store.heard?]
          rfl
      | didSave p =>
          simp only [accept, Option.bind_some, Store.heard?, Option.getD_some]
          exact didSave_eq_tried s out p

end Steps

def Event.request? : Event → Option RequestId
  | .request id .. => some id
  | _ => none

namespace Run

variable {r : Run} {e : Event} {st : Step}

def serverStep? (r : Run) : Event → Option Step
  | .request id method params => some (r.server.request r.outside id method params)
  | .notification method params => some (r.server.notification r.outside method params)
  | .analyze uri => some (r.server.analyze r.outside uri).1
  | .finish _ | .publish _ | .abandon _ | .stopWorker | .outside _ => none

def asks? (r : Run) : Event → Option Url
  | .request id method params => r.server.asked? (.request id method params)
  | .notification method params => r.server.asked? (.notification method params)
  | .analyze uri => some uri
  | .finish _ | .publish _ | .abandon _ | .stopWorker | .outside _ => none

def tries? (r : Run) (e : Event) : Option Attempt :=
  (r.asks? e).map ((r.server.informed e).attempt r.outside)

theorem step_of_serverStep (h : r.serverStep? e = some st) : r.step e = r.take st := by
  cases e with
  | request | notification | analyze => cases h; rfl
  | finish | publish | abandon | stopWorker | outside => cases h

theorem serverStep_eq_tried (h : r.serverStep? e = some st) :
    ∃ answer : Option Message,
      answer.map Message.answers? = e.request?.map some ∧
        st = (r.server.informed e).tried (r.tries? e) answer := by
  cases e with
  | request id method params =>
      cases h
      obtain ⟨answer, ha, hs⟩ := request_eq_tried r.server r.outside id method params
      exact ⟨some answer, congrArg some ha, hs⟩
  | notification method params =>
      cases h
      exact ⟨none, rfl, notification_eq_tried ..⟩
  | analyze uri =>
      cases h
      exact ⟨none, rfl, analyze_eq_tried ..⟩
  | finish | publish | abandon | stopWorker | outside => cases h

theorem server_of_serverStep_eq_none (h : r.serverStep? e = none) :
    (r.step e).server = r.server ∧ r.server.store.next e = r.server.store := by
  cases e with
  | request | notification | analyze => cases h
  | finish job =>
      refine ⟨?_, rfl⟩
      simp only [step]
      cases r.task? job <;> rfl
  | publish job =>
      refine ⟨?_, rfl⟩
      simp only [step]
      cases r.outcome? job <;> rfl
  | abandon | stopWorker | outside => exact ⟨rfl, rfl⟩

theorem store_step (r : Run) (e : Event) : (r.step e).server.store = r.server.store.next e := by
  cases h : r.serverStep? e with
  | some st =>
      obtain ⟨answer, -, rfl⟩ := serverStep_eq_tried h
      rw [step_of_serverStep h]
      exact store_count _ _
  | none =>
      obtain ⟨hs, hn⟩ := server_of_serverStep_eq_none h
      rw [hs, hn]

theorem store_after (r : Run) (es : List Event) :
    (r.after es).server.store = es.foldl Store.next r.server.store := by
  induction es generalizing r with
  | nil => rfl
  | cons e es ih => rw [after_cons, ih, store_step, List.foldl_cons]

theorem step_of_ignored {method : String} {params : Json}
    (h : r.server.store.Ignored method params) :
    r.step (.notification method params) = r := by
  have hb := Store.told?_eq_bind r.server.store method params
  have hn := Store.told?_eq_none_iff.2 h
  have hi : r.server.informed (.notification method params) = r.server := by
    simp only [informed, Store.next, hn, Option.getD_none, withStore_store]
  have ha : r.server.asked? (.notification method params) = none := by
    rw [hn] at hb
    simp only [asked?]
    split
    · next p hp => simp [hp, Store.heard?] at hb
    · rfl
  rw [step_of_serverStep rfl, notification_eq_tried, hi, ha]
  simp [take, tried, count]

theorem run_is_fold_of_changes (r : Run) (es : List Event) :
    (r.after es).server.store = es.foldl Store.next r.server.store ∧
      (∀ id method params,
        ((r.after es).step (.request id method params)).server.store =
          (r.after es).server.store) ∧
      (∀ (c : Store) method params, c.told? method params = none ↔ c.Ignored method params) ∧
      ∀ method params, (r.after es).server.store.Ignored method params →
        (r.after es).step (.notification method params) = r.after es := by
  refine ⟨store_after r es, ?_, ?_, ?_⟩
  · intro id method params
    exact store_step _ _
  · intro c method params
    exact Store.told?_eq_none_iff
  · intro method params h
    exact step_of_ignored h

end Run

end ContractLint.Server
