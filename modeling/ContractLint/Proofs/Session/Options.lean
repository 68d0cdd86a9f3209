import ContractLint.Proofs.Settings.Readings
import ContractLint.Session.Handshake

namespace ContractLint

open Server

variable {v : Json}

theorem Handshake.settings_eq {h : Handshake} (ho : h.options = some v) :
    h.settings = (Settings.ofJson v).toOption.getD {} := by
  cases v with
  | null => simp only [settings, ho]; rfl
  | bool | int | float | str | arr | obj => simp only [settings, ho]

namespace Server

variable {s : Server} {out : Outside} {params : Json}

theorem notification_configuration (h : Params.settings? params = some v) :
    s.notification out "workspace/didChangeConfiguration" params =
      { server := s.didChangeConfiguration v } := by
  simp only [notification, Notification.ofJson?, h, Option.map_some, accept]

theorem start_configured (workspace : Workspace) (v : Json) :
    (start workspace {}).didChangeConfiguration v =
      start workspace ((Settings.update {} v).toOption.getD {}) := by
  simp only [didChangeConfiguration, start]
  cases Settings.update {} v <;> rfl

theorem didChangeConfiguration_of_items {items : List Json} (h : Settings.part v = .arr items) :
    s.didChangeConfiguration v = s := by
  have ho : (Settings.part v).isObject = false := by rw [h]; rfl
  simp only [didChangeConfiguration, Settings.update_of_not_isObject ho]

end Server

theorem options_and_changes_agree (v : Json) :
    ((∀ items, Settings.part v ≠ .arr items) →
      Settings.ofJson v = Settings.update {} v ∧
        ∀ (h : Handshake) (out : Outside) (params : Json),
          h.options = some v → Params.settings? params = some v →
            ((start h.workspace {}).notification out "workspace/didChangeConfiguration"
              params).server = h.server) ∧
      ∀ items, Settings.part v = .arr items →
        ((∃ s, Settings.ofJson v = .ok s) ↔
          items.length ≤ 5 ∧ ∀ p ∈ items.zip Settings.shapes, p.2.admits p.1 = true) ∧
        (∀ s, Settings.ofJson v = .ok s ↔
          items ++ ({} : Settings).values.drop items.length = s.values) ∧
        (∀ s : Settings, ∃ cause, s.update v = .error cause) ∧
        ∀ (server : Server) (out : Outside) (params : Json), Params.settings? params = some v →
          server.notification out "workspace/didChangeConfiguration" params =
            { server := server } := by
  constructor
  · intro hv
    have hr : Settings.ofJson v = Settings.update {} v := Settings.ofJson_eq_update hv
    refine ⟨hr, ?_⟩
    intro h out params ho hp
    rw [notification_configuration hp, start_configured, Handshake.server,
      Handshake.settings_eq ho, hr]
  · intro items hv
    have ho : (Settings.part v).isObject = false := by rw [hv]; rfl
    refine ⟨?_, ?_, ?_, ?_⟩
    · simp only [Settings.ofJson_eq_ok_iff_of_items hv]
      exact Settings.ofItems?_isSome_iff
    · intro s
      rw [Settings.ofJson_eq_ok_iff_of_items hv, Settings.ofItems?_eq_some_iff]
    · intro s
      exact ⟨_, Settings.update_of_not_isObject ho s⟩
    · intro server out params hp
      rw [notification_configuration hp, didChangeConfiguration_of_items hv]

section Partial

def partialOptions : Json :=
  .obj [("secbit", .obj [("solc", .int 1), ("onSave", .bool true)])]

def listedOptions : Json :=
  .obj [("secbit", .arr [.null, .arr [.str "throw"], .bool true])]

theorem partial_options_agree :
    Settings.ofJson partialOptions = .ok { onSave := true } ∧
      Settings.ofJson partialOptions = Settings.update {} partialOptions ∧
      Settings.ofJson listedOptions = .ok { enables := ["throw"], noSmt := true } ∧
      ∃ cause, Settings.update {} listedOptions = .error cause := by
  have hp := (options_and_changes_agree partialOptions).1 (fun items h => nomatch h)
  have hl := (options_and_changes_agree listedOptions).2 _ rfl
  exact ⟨rfl, hp.1, (hl.2.1 _).2 rfl, hl.2.2.1 {}⟩

end Partial

end ContractLint
