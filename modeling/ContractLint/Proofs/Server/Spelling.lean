import ContractLint.Proofs.Server.Addressing

namespace ContractLint

section Joining

variable {p q : Path} {root : Option Path}

theorem Text.Bytes.ofString_append (s t : String) :
    Text.Bytes.ofString (s ++ t) = Text.Bytes.ofString s ++ Text.Bytes.ofString t := by
  simp [Text.Bytes.ofString]

theorem Path.isAbsolute_join (p q : Path) :
    (p.join q).isAbsolute = (q.isAbsolute || p.isAbsolute) := by
  by_cases hq : q.isAbsolute = true
  · rw [join, if_pos hq, hq, Bool.true_or]
  · rw [join, if_neg hq, Bool.eq_false_iff.2 hq, Bool.false_or]
    by_cases hp : p.bytes = []
    · have hr : q.isAbsolute = p.isAbsolute := by
        rw [Bool.eq_false_iff.2 hq]
        simp [isAbsolute, hp]
      rw [← hr]
      simp [isEmpty, hp]
    · obtain ⟨b, bs, hb⟩ := List.exists_cons_of_ne_nil hp
      split <;> simp only [isAbsolute, hb, List.cons_append, List.head?_cons]

theorem Path.exists_join (directory text : String) :
    ∃ joined, Path.ofText joined = (Path.ofText directory).join (Path.ofText text) := by
  rw [join]
  split
  · exact ⟨text, rfl⟩
  · split
    · exact ⟨directory ++ text, congrArg Path.mk (Text.Bytes.ofString_append directory text)⟩
    · refine ⟨directory ++ ("/" ++ text), congrArg Path.mk ?_⟩
      rw [Text.Bytes.ofString_append, Text.Bytes.ofString_append]
      rfl

theorem Workspace.isAbsolute_resolve_eq_false_iff :
    (resolve root p).isAbsolute = false ↔
      p.isAbsolute = false ∧ ∀ r, root = some r → r.isAbsolute = false := by
  unfold resolve
  split
  · next hp => simp [hp]
  · next hp =>
      cases root with
      | none => simp [hp]
      | some r => simp [Path.isAbsolute_join, hp]

theorem Workspace.resolve_join {r : Path} (h : r.isAbsolute = true) :
    resolve (some r) (r.join p) = resolve (some r) p := by
  have hj : (r.join p).isAbsolute = true := by rw [Path.isAbsolute_join, h, Bool.or_true]
  rw [resolve, if_pos hj, resolve]
  split
  · next hp => rw [Path.join, if_pos hp]
  · rfl

end Joining

namespace Server

def memberNames : List String :=
  ["uri", "external", "fsPath", "path"]

inductive Holds (key text : String) : Json → Prop where
  | intro {members : List (String × Json)} {earlier later : List String} :
      memberNames = earlier ++ key :: later →
      (∀ name ∈ earlier, ∀ other, Json.lastNamed name members ≠ some (.str other)) →
      Json.lastNamed key members = some (.str text) → Holds key text (.obj members)

inductive Spells (text : String) : Json → Prop where
  | text : Spells text (.str text)
  | member {key : String} {v : Json} : Holds key text v → Spells text v

def Analyzes (params argument : Json) : Prop :=
  ∃ c more, Params.ExecuteCommand.ofJson params = .ok c ∧ c.command = CommandName.analyze ∧
    c.arguments = argument :: more

section Spelling

variable {s : Server} {key text : String} {v w params params' : Json}

theorem urlOfText_of_not_urlLike (h : ¬ UrlLike text) : s.urlOfText text = s.urlOfPath text := by
  rw [urlOfText, if_neg (mt looksLikeUrl_iff.1 h)]

theorem urlOfArgument_of_holds (h : Holds key text v) :
    s.urlOfArgument v =
      if key = "uri" ∨ key = "external" then s.urlOfText text else s.urlOfPath text := by
  obtain @⟨members, earlier, later, hm, he, ht⟩ := h
  have ht := memberText_eq_some_iff.2 ht
  have he : ∀ name ∈ earlier, memberText (.obj members) name = none := by
    intro name hn
    refine Option.eq_none_iff_forall_ne_some.2 fun other ho => ?_
    exact he name hn other (memberText_eq_some_iff.1 ho)
  obtain _ | ⟨_, _ | ⟨_, _ | ⟨_, _ | ⟨_, earlier⟩⟩⟩⟩ := earlier
  all_goals
    simp only [memberNames, List.nil_append, List.cons_append, List.cons.injEq] at hm
  · obtain ⟨rfl, -⟩ := hm
    simp [urlOfArgument, ht]
  · obtain ⟨rfl, rfl, -⟩ := hm
    simp [urlOfArgument, ht, he]
  · obtain ⟨rfl, rfl, rfl, -⟩ := hm
    simp [urlOfArgument, ht, he]
  · obtain ⟨rfl, rfl, rfl, rfl, -⟩ := hm
    simp [urlOfArgument, ht, he]
  · simp at hm

theorem urlOfArgument_of_spells (hp : ¬ UrlLike text) (h : Spells text v) :
    s.urlOfArgument v = s.urlOfPath text := by
  cases h with
  | text => exact urlOfText_of_not_urlLike hp
  | member hm => rw [urlOfArgument_of_holds hm, urlOfText_of_not_urlLike hp, ite_self]

theorem urlOfPath_eq_ok_iff {u : Url} :
    s.urlOfPath text = .ok u ↔
      Url.ofFilePath? (Workspace.resolve s.root (Path.ofText text)) = some u := by
  rw [urlOfPath]
  cases Url.ofFilePath? (Workspace.resolve s.root (Path.ofText text)) <;> simp

theorem urlOfPath_eq_error_iff {refusal : Refusal} :
    s.urlOfPath text = .error refusal ↔
      refusal = .invalidPath (Workspace.resolve s.root (Path.ofText text)) ∧
        (Workspace.resolve s.root (Path.ofText text)).isAbsolute = false := by
  cases ha : (Workspace.resolve s.root (Path.ofText text)).isAbsolute with
  | true => simp [urlOfPath, Url.ofFilePath?, ha]
  | false => simp [urlOfPath, Url.ofFilePath?, ha, eq_comm]

theorem urlOfPath_join {r : Path} {joined : String} (hr : s.root = some r)
    (ha : r.isAbsolute = true) (hj : Path.ofText joined = r.join (Path.ofText text)) :
    s.urlOfPath joined = s.urlOfPath text := by
  simp only [urlOfPath, hr, hj, Workspace.resolve_join ha]

theorem request_congr (out : Outside) (id : RequestId) (hv : Analyzes params v)
    (hw : Analyzes params' w) (h : s.urlOfArgument v = s.urlOfArgument w) :
    s.request out id executeCommand params = s.request out id executeCommand params' := by
  obtain ⟨c, more, hp, hc, ha⟩ := hv
  obtain ⟨c', more', hp', hc', ha'⟩ := hw
  have ht : s.target c.arguments = s.target c'.arguments := by
    rw [ha, ha']
    exact h
  rw [request_of_analyze id hp hc, request_of_analyze id hp' hc', answerAnalyze, answerAnalyze, ht]

end Spelling

theorem spellings_of_a_path_agree (s : Server) (text : String) (hp : ¬ UrlLike text) :
    (∀ out id params params' v w, Analyzes params v → Spells text v →
      Analyzes params' w → Spells text w →
        s.request out id executeCommand params = s.request out id executeCommand params') ∧
    (∀ r joined, s.root = some r → r.isAbsolute = true →
      Path.ofText joined = r.join (Path.ofText text) →
        ∀ out id params params' v w, Analyzes params v → Spells text v →
          Analyzes params' w → Holds "fsPath" joined w →
            s.request out id executeCommand params = s.request out id executeCommand params') ∧
    (∀ directory, ∃ joined, Path.ofText joined = (Path.ofText directory).join (Path.ofText text)) ∧
    ∀ v, Spells text v →
      let path := Workspace.resolve s.root (Path.ofText text)
      (∀ u, s.urlOfArgument v = .ok u ↔ Url.ofFilePath? path = some u) ∧
        ∀ refusal, s.urlOfArgument v = .error refusal ↔
          refusal = .invalidPath path ∧ (Path.ofText text).isAbsolute = false ∧
            ∀ r, s.root = some r → r.isAbsolute = false := by
  refine ⟨?_, ?_, fun directory => Path.exists_join directory text, ?_⟩
  · intro out id params params' v w hv hs hw hs'
    refine request_congr out id hv hw ?_
    rw [urlOfArgument_of_spells hp hs, urlOfArgument_of_spells hp hs']
  · intro r joined hr ha hj out id params params' v w hv hs hw hf
    refine request_congr out id hv hw ?_
    rw [urlOfArgument_of_spells hp hs, urlOfArgument_of_holds hf, if_neg (by decide),
      urlOfPath_join hr ha hj]
  · intro v hs path
    rw [urlOfArgument_of_spells hp hs]
    refine ⟨fun u => urlOfPath_eq_ok_iff, fun refusal => ?_⟩
    rw [urlOfPath_eq_error_iff, Workspace.isAbsolute_resolve_eq_false_iff]

section Vaults

def vaultServer : Server :=
  .start { rootPath := some "/work" } {}

def vaultOutside : Outside where
  disk := { entries := [
    ([Text.Bytes.ofString "work"], .directory),
    ([Text.Bytes.ofString "work", Text.Bytes.ofString "src"], .directory),
    ([Text.Bytes.ofString "work", Text.Bytes.ofString "src", Text.Bytes.ofString "Vault.sol"],
      .file (Text.Bytes.ofString "contract Vault {}") false)] }
  accepting := true

def vaultObject : Json :=
  .obj [("scheme", .str "file"), ("uri", .null), ("path", .str "src/Vault.sol")]

def joinedVault : Json :=
  .obj [("fsPath", .str "/work/src/Vault.sol"), ("path", .str "src/Other.sol")]

theorem vault_spellings_agree :
    let ask := vaultServer.request vaultOutside (.number 1) executeCommand
    ¬ UrlLike "src/Vault.sol" ∧ Spells "src/Vault.sol" vaultObject ∧
      Holds "fsPath" "/work/src/Vault.sol" joinedVault ∧
      ask (analyzeParams [.str "src/Vault.sol"]) = ask (analyzeParams [vaultObject, .null]) ∧
      ask (analyzeParams [.str "src/Vault.sol"]) = ask (analyzeParams [joinedVault]) ∧
      (ask (analyzeParams [vaultObject, .null])).queued.map (·.job.content) =
        some "contract Vault {}" ∧
      ∀ refusal, vaultServer.urlOfArgument vaultObject ≠ .error refusal := by
  intro ask
  have hn : ¬ UrlLike "src/Vault.sol" := by
    rw [← looksLikeUrl_iff]
    decide +kernel
  have ho : Spells "src/Vault.sol" vaultObject := by
    have hm : memberNames = ["uri", "external", "fsPath"] ++ "path" :: [] := rfl
    refine .member (.intro hm ?_ rfl)
    simp only [List.forall_mem_cons]
    exact ⟨nofun, nofun, nofun, nofun⟩
  have hf : Holds "fsPath" "/work/src/Vault.sol" joinedVault := by
    have hm : memberNames = ["uri", "external"] ++ "fsPath" :: ["path"] := rfl
    refine .intro hm ?_ rfl
    simp only [List.forall_mem_cons]
    exact ⟨nofun, nofun, nofun⟩
  have ha : ∀ v more, Analyzes (analyzeParams (v :: more)) v :=
    fun v more => ⟨_, more, rfl, rfl, rfl⟩
  obtain ⟨hs, hj, -, he⟩ := spellings_of_a_path_agree vaultServer "src/Vault.sol" hn
  refine ⟨hn, ho, hf, hs _ _ _ _ _ _ (ha _ _) .text (ha _ _) ho, ?_, by decide +kernel, ?_⟩
  · exact hj _ _ rfl (by decide +kernel) (by decide +kernel) _ _ _ _ _ _ (ha _ _) .text (ha _ _) hf
  · intro refusal h
    exact absurd ((((he _ ho).2 refusal).1 h).2.2 _ rfl) (by decide +kernel)

end Vaults

end Server

end ContractLint
