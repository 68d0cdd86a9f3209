import ContractLint.Proofs.Server.Answers
import ContractLint.Proofs.Server.Snapshot

namespace ContractLint

open Server

def UrlLike (text : String) : Prop :=
  "://".toList <:+: text.toList ∨ "untitled:".toList <+: text.toList

section Texts

theorem hasInfix_iff {pattern text : List Char} :
    hasInfix pattern text = true ↔ pattern <:+: text := by
  induction text with
  | nil => simp [hasInfix]
  | cons c cs ih =>
      rw [hasInfix, Bool.or_eq_true, ih, startsWith, List.isPrefixOf_iff_prefix,
        List.infix_cons_iff]

theorem looksLikeUrl_iff {text : String} : looksLikeUrl text = true ↔ UrlLike text := by
  rw [looksLikeUrl, Bool.or_eq_true, hasInfix_iff, startsWith, List.isPrefixOf_iff_prefix, UrlLike]

theorem urlLike_of_authority {u : Url} {authority : String} (h : u.authority = some authority) :
    UrlLike u.text := by
  refine .inl ⟨u.scheme.toList, authority.toList ++ (u.pathGuard ++ u.path.text ++
    (u.query.map ("?" ++ ·)).getD "" ++ (u.fragment.map ("#" ++ ·)).getD "").toList, ?_⟩
  simp [Url.text, h]

theorem urlLike_of_untitled {u : Url} (h : u.scheme = "untitled") : UrlLike u.text := by
  refine .inr ⟨((u.authority.map ("//" ++ ·)).getD "" ++ u.pathGuard ++ u.path.text ++
    (u.query.map ("?" ++ ·)).getD "" ++ (u.fragment.map ("#" ++ ·)).getD "").toList, ?_⟩
  simp [Url.text, h]

end Texts

namespace Server

inductive Designates (text : String) : Json → Prop where
  | text : Designates text (.str text)
  | uri {members : List (String × Json)} :
      Json.lastNamed "uri" members = some (.str text) → Designates text (.obj members)
  | external {members : List (String × Json)} :
      (∀ other, Json.lastNamed "uri" members ≠ some (.str other)) →
        Json.lastNamed "external" members = some (.str text) → Designates text (.obj members)

section Arguments

variable {s : Server} {u v : Url} {text : String} {w : Json}

theorem memberText_eq_some_iff {members : List (String × Json)} {key : String} :
    memberText (.obj members) key = some text ↔
      Json.lastNamed key members = some (.str text) := by
  simp only [memberText, Json.get?, Option.bind_eq_some_iff]
  constructor
  · rintro ⟨w, hw, ht⟩
    cases w with
    | str t => cases ht; exact hw
    | null | bool | int | float | arr | obj => cases ht
  · intro h
    exact ⟨_, h, rfl⟩

theorem urlOfArgument_of_designates (h : Designates text w) : s.urlOfArgument w = s.urlOfText text := by
  cases h with
  | text => rfl
  | uri hu =>
      simp only [urlOfArgument, memberText_eq_some_iff.2 hu]
      rfl
  | @external members hn he =>
      have hu : memberText (.obj members) "uri" = none :=
        Option.eq_none_iff_forall_ne_some.2 fun other ho => hn other (memberText_eq_some_iff.1 ho)
      simp only [urlOfArgument, hu, memberText_eq_some_iff.2 he]
      rfl

theorem urlLike_of_urlOfPath (h : s.urlOfPath text = .ok v) : UrlLike v.text := by
  simp only [urlOfPath] at h
  split at h
  · next hp =>
      cases h
      simp only [Url.ofFilePath?] at hp
      split at hp
      · cases hp
        exact urlLike_of_authority rfl
      · cases hp
  · cases h

theorem urlOfText_eq_ok_iff (hu : Url.parse? u.text = some u) :
    s.urlOfText u.text = .ok u ↔ UrlLike u.text := by
  rw [urlOfText]
  constructor
  · intro h
    split at h
    · next hl => exact looksLikeUrl_iff.1 hl
    · exact urlLike_of_urlOfPath h
  · intro h
    rw [if_pos (looksLikeUrl_iff.2 h), hu]

end Arguments

namespace Run

variable {r : Run} {e : Event} {u : Url} {d : Document}

def Queues (r : Run) (e : Event) (u : Url) (d : Document) : Prop :=
  ∃ t, (r.step e).pending = r.pending ++ [t] ∧
    t.job.uri = u ∧ t.job.content = d.content ∧ t.job.version = some d.version

theorem pending_ne_of_queues (h : r.Queues e u d) : (r.step e).pending ≠ r.pending := by
  obtain ⟨t, ht, -⟩ := h
  rw [ht]
  simp

variable {id : RequestId} {params : Json} {c : Params.ExecuteCommand}

theorem asks?_command (hp : Params.ExecuteCommand.ofJson params = .ok c)
    (hc : c.command = CommandName.analyze) :
    r.asks? (.request id executeCommand params) = (r.server.target c.arguments).toOption := by
  simp only [asks?, asked?, if_true, hp, hc]

theorem queued?_of_target (hw : r.accepting = true) (hd : r.server.documents.get? u = some d)
    (hl : d.languageId = "solidity") (hp : Params.ExecuteCommand.ofJson params = .ok c)
    (hc : c.command = CommandName.analyze) (ht : r.server.target c.arguments = .ok u) :
    r.queued? (.request id executeCommand params) =
      some (r.server.task u u.location d.content (some d.version)) := by
  have hs : r.server.documents.isSolidity u = true := by
    simp [Documents.isSolidity, hd, Document.isSolidity, hl, Document.language]
  have ha : r.tries? (.request id executeCommand params) = some (r.server.attempt r.outside u) := by
    rw [tries?, asks?_command hp hc, ht]
    rfl
  have ho : r.outside.accepting = true := hw
  rw [queued?_eq, ha, attempt_of_content hs (.opened hd), ho]
  rfl

theorem queues_of_target (hw : r.accepting = true) (hd : r.server.documents.get? u = some d)
    (hl : d.languageId = "solidity") (hp : Params.ExecuteCommand.ofJson params = .ok c)
    (hc : c.command = CommandName.analyze) (ht : r.server.target c.arguments = .ok u) :
    r.Queues (.request id executeCommand params) u d :=
  ⟨_, pending_of_queued (queued?_of_target hw hd hl hp hc ht), rfl, rfl, rfl⟩

theorem queued_of_pending {t : Task} (h : (r.step (.request id executeCommand params)).pending =
    r.pending ++ [t]) : r.queued? (.request id executeCommand params) = some t := by
  rw [pending_step, outlasting_eq_pending fun _ _ => rfl, List.append_cancel_left_eq] at h
  exact Option.toList_eq_singleton_iff.1 h

theorem target_of_queues (hp : Params.ExecuteCommand.ofJson params = .ok c)
    (hc : c.command = CommandName.analyze)
    (h : r.Queues (.request id executeCommand params) u d) :
    r.server.target c.arguments = .ok u := by
  obtain ⟨t, ht, rfl, -, -⟩ := h
  obtain ⟨uri, hu, hq⟩ := attempt_of_queued (queued_of_pending ht)
  obtain ⟨text, version, -, rfl⟩ := attempt_queued hq
  rw [asks?_command hp hc] at hu
  cases ha : r.server.target c.arguments with
  | error refusal => rw [ha] at hu; cases hu
  | ok v => rw [ha] at hu; cases hu; rfl

end Run

theorem addressed_iff_url_like (workspace : Workspace) (settings : Settings) (world : World)
    (es : List Event) (u : Url) (d : Document)
    (hw : ((begin workspace settings world).after es).accepting = true)
    (hd : ((begin workspace settings world).after es).server.documents.get? u = some d)
    (hl : d.languageId = "solidity") (hu : Url.parse? u.text = some u) :
    let r := (begin workspace settings world).after es
    (∀ id params c v vs, Params.ExecuteCommand.ofJson params = .ok c →
      c.command = CommandName.analyze → c.arguments = v :: vs → Designates u.text v →
        (r.Queues (.request id executeCommand params) u d ↔ UrlLike u.text) ∧
          ∀ id' params' c', Params.ExecuteCommand.ofJson params' = .ok c' →
            c'.command = CommandName.analyze → c'.arguments = [] →
            r.server.documents.lastActive = some u →
              r.Queues (.request id' executeCommand params') u d ∧
                (UrlLike u.text → r.queued? (.request id executeCommand params) =
                  r.queued? (.request id' executeCommand params'))) ∧
      (u.authority.isSome = true ∨ u.scheme = "untitled" → UrlLike u.text) := by
  intro r
  constructor
  · intro id params c v vs hp hc hv hn
    have ht : r.server.target c.arguments = .ok u ↔ UrlLike u.text := by
      rw [hv]
      change r.server.urlOfArgument v = .ok u ↔ _
      rw [urlOfArgument_of_designates hn]
      exact urlOfText_eq_ok_iff hu
    refine ⟨⟨fun h => ht.1 (Run.target_of_queues hp hc h), fun h => ?_⟩, ?_⟩
    · exact Run.queues_of_target hw hd hl hp hc (ht.2 h)
    · intro id' params' c' hp' hc' hv' ha
      have ht' : r.server.target c'.arguments = .ok u := by
        rw [hv']
        simp only [target, ha]
      refine ⟨Run.queues_of_target hw hd hl hp' hc' ht', fun h => ?_⟩
      rw [Run.queued?_of_target hw hd hl hp hc (ht.2 h),
        Run.queued?_of_target hw hd hl hp' hc' ht']
  · rintro (h | h)
    · obtain ⟨authority, ha⟩ := Option.isSome_iff_exists.1 h
      exact urlLike_of_authority ha
    · exact urlLike_of_untitled h

section Checkouts

def analyzeParams (arguments : List Json) : Json :=
  .obj [("command", .str "secbit.analyze"), ("arguments", .arr arguments)]

def ask (arguments : List Json) : Event :=
  .request (.number 1) executeCommand (analyzeParams arguments)

theorem draft_is_addressed :
    let r := (begin {} {} bareWorld).after [openDraft]
    let d : Document := ⟨draft, "solidity", 1, "contract A {}", false⟩
    r.server.documents.get? draft = some d ∧ Url.parse? draft.text = some draft ∧
      UrlLike draft.text ∧
      r.Queues (ask [.obj [("uri", .null), ("external", .str "untitled:A.sol")]]) draft d := by
  intro r d
  have hd : r.server.documents.get? draft = some d := by decide +kernel
  have hu : Url.parse? draft.text = some draft := by decide +kernel
  have ht : draft.text = "untitled:A.sol" := by decide +kernel
  have hn : Designates draft.text (.obj [("uri", .null), ("external", .str "untitled:A.sol")]) := by
    rw [ht]
    exact .external (fun other h => by cases h) rfl
  have hl : UrlLike draft.text := urlLike_of_untitled rfl
  have ha := (addressed_iff_url_like {} {} bareWorld [openDraft] draft d rfl hd rfl hu).1
  exact ⟨hd, hu, hl, (ha (.number 1) _ _ _ [] rfl rfl rfl hn).1.2 hl⟩

def checkout : Url where
  scheme := "git"
  authority := none
  host := ""
  path := .segments ["work", "Vault.sol"]
  query := none
  fragment := none

def openCheckout : Event :=
  .notification "textDocument/didOpen" (.obj [("textDocument", .obj [
    ("uri", .str "git:/work/Vault.sol"), ("languageId", .str "solidity"), ("version", .int 3),
    ("text", .str "contract Vault {}")])])

def checkoutDocument : Document :=
  ⟨checkout, "solidity", 3, "contract Vault {}", false⟩

theorem checkout_is_not_addressed :
    let r := (begin {} {} bareWorld).after [openCheckout]
    r.accepting = true ∧ r.server.documents.get? checkout = some checkoutDocument ∧
      Url.parse? checkout.text = some checkout ∧
      Designates checkout.text (.str "git:/work/Vault.sol") ∧
      ¬ r.Queues (ask [.str "git:/work/Vault.sol"]) checkout checkoutDocument ∧
      ¬ r.Queues (ask [.obj [("uri", .str "git:/work/Vault.sol")]]) checkout checkoutDocument ∧
      (r.step (ask [.str "git:/work/Vault.sol"])).sent =
        [.refusal (.number 1) (.invalidPath (Path.ofText "git:/work/Vault.sol"))] ∧
      r.Queues (ask []) checkout checkoutDocument := by
  intro r
  have ht : checkout.text = "git:/work/Vault.sol" := by decide +kernel
  have hd : r.server.documents.get? checkout = some checkoutDocument := by decide +kernel
  have hb : r.pending = [] := by decide +kernel
  have hs : (r.step (ask [.str "git:/work/Vault.sol"])).pending = [] := by decide +kernel
  have ho : (r.step (ask [.obj [("uri", .str "git:/work/Vault.sol")]])).pending = [] := by
    decide +kernel
  refine ⟨rfl, hd, by decide +kernel, ht ▸ .text, ?_, ?_, by decide +kernel, ?_⟩
  · exact fun h => Run.pending_ne_of_queues h (hs.trans hb.symm)
  · exact fun h => Run.pending_ne_of_queues h (ho.trans hb.symm)
  · exact Run.queues_of_target rfl hd rfl rfl rfl (by rfl)

end Checkouts

end Server

end ContractLint
