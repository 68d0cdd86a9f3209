import ContractLint.Location.Url

namespace ContractLint

structure Document where
  uri : Url
  languageId : String
  version : Int32
  content : String
  isDirty : Bool
  deriving DecidableEq, Repr, Inhabited

namespace Document

def language : String :=
  "solidity"

def fileExtension : String :=
  "sol"

def isSolidity (d : Document) : Bool :=
  d.languageId = language

end Document

structure NotOpen where
  uri : Url
  deriving DecidableEq, Repr

def NotOpen.message (e : NotOpen) : String :=
  "Document not found: " ++ e.uri.text

structure Documents where
  opened : List Document := []
  lastActive : Option Url := none
  distinct : (opened.map Document.uri).Nodup := by simp

namespace Documents

def empty : Documents := {}

def get? (docs : Documents) (uri : Url) : Option Document :=
  docs.opened.find? fun d => d.uri = uri

def size (docs : Documents) : Nat :=
  docs.opened.length

def touch (docs : Documents) (uri : Url) : Documents :=
  { docs with lastActive := some uri }

def modify (uri : Url) (f : Document → Document) (ds : List Document) : List Document :=
  ds.map fun d => if d.uri = uri then { f d with uri := d.uri } else d

theorem map_uri_modify (uri : Url) (f : Document → Document) (ds : List Document) :
    (modify uri f ds).map Document.uri = ds.map Document.uri := by
  induction ds with
  | nil => rfl
  | cons d ds ih =>
      simp only [modify, List.map_cons] at ih ⊢
      rw [ih]
      split <;> rfl

def without (uri : Url) (ds : List Document) : List Document :=
  ds.filter fun d => d.uri != uri

theorem nodup_without {uri : Url} {ds : List Document} (h : (ds.map Document.uri).Nodup) :
    ((without uri ds).map Document.uri).Nodup :=
  h.sublist (List.filter_sublist.map _)

theorem not_mem_without (uri : Url) (ds : List Document) :
    uri ∉ (without uri ds).map Document.uri := by
  simp [without]

theorem find?_without (u v : Url) (ds : List Document) :
    (without u ds).find? (fun d => d.uri = v) =
      if u = v then none else ds.find? fun d => d.uri = v := by
  induction ds with
  | nil => simp [without]
  | cons d ds ih =>
      simp only [without] at ih ⊢
      grind

theorem find?_modify (u v : Url) (f : Document → Document) (ds : List Document) :
    (modify u f ds).find? (fun d => d.uri = v) =
      (ds.find? fun d => d.uri = v).map fun d =>
        if u = v then { f d with uri := d.uri } else d := by
  induction ds with
  | nil => rfl
  | cons d ds ih =>
      simp only [modify] at ih ⊢
      grind

def update (docs : Documents) (uri : Url) (f : Document → Document) : Documents :=
  { docs with
    opened := modify uri f docs.opened
    distinct := by rw [map_uri_modify]; exact docs.distinct }

def add (docs : Documents) (d : Document) : Documents where
  opened := d :: without d.uri docs.opened
  lastActive := some d.uri
  distinct := by
    rw [List.map_cons, List.nodup_cons]
    exact ⟨not_mem_without _ _, nodup_without docs.distinct⟩

theorem get?_add (docs : Documents) (d : Document) (uri : Url) :
    (docs.add d).get? uri = if d.uri = uri then some d else docs.get? uri := by
  simp only [get?, add, List.find?_cons, find?_without]
  grind

theorem get?_update (docs : Documents) (u : Url) (f : Document → Document) (uri : Url) :
    (docs.update u f).get? uri =
      (docs.get? uri).map fun d => if u = uri then { f d with uri := d.uri } else d :=
  find?_modify u uri f docs.opened

def change (docs : Documents) (uri : Url) (version : Int32) (content : String) :
    Except NotOpen Documents :=
  match docs.get? uri with
  | none => .error ⟨uri⟩
  | some _ =>
      let f := fun d : Document => { d with version, content, isDirty := true }
      .ok ((docs.update uri f).touch uri)

def markSaved (docs : Documents) (uri : Url) (content : Option String) : Documents :=
  let f := fun d : Document => { d with content := content.getD d.content, isDirty := false }
  (docs.update uri f).touch uri

def close (docs : Documents) (uri : Url) : Documents where
  opened := without uri docs.opened
  lastActive := if docs.lastActive = some uri then none else docs.lastActive
  distinct := nodup_without docs.distinct

theorem get?_close (docs : Documents) (u uri : Url) :
    (docs.close u).get? uri = if u = uri then none else docs.get? uri :=
  find?_without u uri docs.opened

def isSolidity (docs : Documents) (uri : Url) : Bool :=
  match docs.get? uri with
  | some d => d.isSolidity
  | none =>
      (Path.ofText uri.path.text).extension? == some (Text.Bytes.ofString Document.fileExtension)

end Documents

end ContractLint
