import ContractLint.Documents
import Mathlib.Data.List.Induction

namespace ContractLint.Documents

inductive Operation where
  | add (uri : Url) (languageId : String) (version : Int32) (content : String)
  | change (uri : Url) (version : Int32) (content : String)
  | markSaved (uri : Url) (content : Option String)
  | close (uri : Url)
  deriving DecidableEq, Repr

namespace Operation

def uri : Operation → Url
  | .add uri .. | .change uri .. | .markSaved uri _ | .close uri => uri

def Opens (uri : Url) : Operation → Prop
  | .add v .. => v = uri
  | .change .. | .markSaved .. | .close _ => False

theorem uri_of_opens {o : Operation} {u : Url} (h : o.Opens u) : o.uri = u := by
  cases o with
  | add => exact h
  | change | markSaved | close => exact h.elim

section Fields

def languageId? : Operation → Option String
  | .add _ languageId .. => some languageId
  | .change .. | .markSaved .. | .close _ => none

def version? : Operation → Option Int32
  | .add _ _ version _ | .change _ version _ => some version
  | .markSaved .. | .close _ => none

def content? : Operation → Option String
  | .add _ _ _ content | .change _ _ content => some content
  | .markSaved _ content => content
  | .close _ => none

def dirty? : Operation → Option Bool
  | .add .. | .markSaved .. => some false
  | .change .. => some true
  | .close _ => none

end Fields

def entry : Operation → Option Document → Option Document
  | .add uri languageId version content, _ => some ⟨uri, languageId, version, content, false⟩
  | .change _ version content, d => d.map fun d => { d with version, content, isDirty := true }
  | .markSaved _ content, d =>
      d.map fun d => { d with content := content.getD d.content, isDirty := false }
  | .close _, _ => none

theorem isSome_entry (o : Operation) (d : Option Document) :
    (o.entry d).isSome ↔ o.Opens o.uri ∨ d.isSome ∧ o ≠ .close o.uri := by
  cases o <;> simp [entry, Opens, uri]

end Operation

open Operation

def apply (docs : Documents) : Operation → Documents
  | .add uri languageId version content => docs.add ⟨uri, languageId, version, content, false⟩
  | .change uri version content => (docs.change uri version content).toOption.getD docs
  | .markSaved uri content => docs.markSaved uri content
  | .close uri => docs.close uri

def after (docs : Documents) (os : List Operation) : Documents :=
  os.foldl apply docs

variable {docs : Documents} {os before later : List Operation} {o : Operation} {u : Url}

theorem after_cons (docs : Documents) (o : Operation) (os : List Operation) :
    docs.after (o :: os) = (docs.apply o).after os := rfl

theorem after_append (docs : Documents) (os qs : List Operation) :
    docs.after (os ++ qs) = (docs.after os).after qs :=
  List.foldl_append

theorem after_concat (docs : Documents) (os : List Operation) (o : Operation) :
    docs.after (os ++ [o]) = (docs.after os).apply o :=
  after_append docs os [o]

section Steps

theorem uri_of_get? {d : Document} (h : docs.get? u = some d) : d.uri = u := by
  simpa using List.find?_some h

theorem change_of_closed (h : docs.get? u = none) (version : Int32) (content : String) :
    docs.change u version content = .error ⟨u⟩ := by
  simp only [change, h]

theorem change_of_open {d : Document} (h : docs.get? u = some d) (version : Int32)
    (content : String) :
    docs.change u version content = .ok
      ((docs.update u fun d => { d with version, content, isDirty := true }).touch u) := by
  simp only [change, h]

theorem apply_change_of_closed (h : docs.get? u = none) (version : Int32) (content : String) :
    docs.apply (.change u version content) = docs := by
  simp only [apply, change_of_closed h]
  rfl

theorem get?_update_ite (docs : Documents) (u : Url) (f : Document → Document) (v : Url) :
    (docs.update u f).get? v =
      if u = v then (docs.get? v).map fun d => { f d with uri := d.uri } else docs.get? v := by
  rw [get?_update]
  split <;> simp

theorem get?_apply (docs : Documents) (o : Operation) (u : Url) :
    (docs.apply o).get? u = if o.uri = u then o.entry (docs.get? u) else docs.get? u := by
  cases o with
  | add v languageId version content => exact get?_add docs _ u
  | change v version content =>
      cases hd : docs.get? v with
      | none =>
          rw [apply_change_of_closed hd]
          split
          · next hv =>
              cases hv
              rw [uri, hd]
              rfl
          · rfl
      | some d =>
          simp only [apply, change_of_open hd]
          exact get?_update_ite docs v _ u
  | markSaved v content => exact get?_update_ite docs v _ u
  | close v => exact get?_close docs v u

theorem get?_apply_of_ne (h : o.uri ≠ u) : (docs.apply o).get? u = docs.get? u := by
  rw [get?_apply, if_neg h]

theorem get?_after (docs : Documents) (os : List Operation) (u : Url) :
    (docs.after os).get? u =
      (os.filter fun o => o.uri = u).foldl (fun d o => o.entry d) (docs.get? u) := by
  induction os generalizing docs with
  | nil => rfl
  | cons o os ih =>
      rw [after_cons, ih, get?_apply]
      by_cases h : o.uri = u <;> simp [h]

theorem get?_after_congr {os qs : List Operation}
    (h : os.filter (fun o => o.uri = u) = qs.filter fun o => o.uri = u) (docs : Documents) :
    (docs.after os).get? u = (docs.after qs).get? u := by
  rw [get?_after, h, ← get?_after]

theorem get?_after_filter (docs : Documents) (os : List Operation) (u : Url) :
    (docs.after (os.filter fun o => o.uri = u)).get? u = (docs.after os).get? u := by
  refine get?_after_congr ?_ docs
  simp

theorem get?_after_swap {o q : Operation} (h : o.uri ≠ q.uri) (docs : Documents)
    (later : List Operation) (u : Url) :
    (docs.after (o :: q :: later)).get? u = (docs.after (q :: o :: later)).get? u := by
  refine get?_after_congr ?_ docs
  by_cases ho : o.uri = u
  · have hq : q.uri ≠ u := fun hq => h (ho.trans hq.symm)
    simp [ho, hq]
  · simp [ho, List.filter_cons]

end Steps

section Latest

variable {α : Type} {read : Operation → Option α}

def latest (u : Url) (read : Operation → Option α) (os : List Operation) : Option α :=
  ((os.filter fun o => o.uri = u).filterMap read).getLast?

theorem latest_append (u : Url) (read : Operation → Option α) (os qs : List Operation) :
    latest u read (os ++ qs) = (latest u read qs).or (latest u read os) := by
  simp only [latest, List.filter_append, List.filterMap_append, List.getLast?_append]

theorem latest_singleton (h : o.uri = u) : latest u read [o] = read o := by
  simp only [latest, List.filter_cons, h, decide_true, if_true, List.filter_nil]
  cases hr : read o <;> simp [hr]

theorem latest_concat_of_eq (h : o.uri = u) :
    latest u read (os ++ [o]) = (read o).or (latest u read os) := by
  rw [latest_append, latest_singleton h]

theorem latest_concat_of_ne (h : o.uri ≠ u) : latest u read (os ++ [o]) = latest u read os := by
  simp [latest, h]

def Tells (read : Operation → Option α) (field : Document → α) : Prop :=
  ∀ (o : Operation) (old : Option Document) (d : Document),
    o.entry old = some d → (read o).or (old.map field) = some (field d)

theorem latest_of_tells {field : Document → α} (ht : Tells read field) {d : Document}
    (hd : (empty.after os).get? u = some d) : latest u read os = some (field d) := by
  -- On the history from its end: what the last operation leaves open, the ones before it tell.
  induction os using List.reverseRecOn generalizing d with
  | nil => cases hd
  | append_singleton os o ih =>
      rw [after_concat] at hd
      by_cases hu : o.uri = u
      · rw [get?_apply, if_pos hu] at hd
        have hr := ht o _ d hd
        rw [latest_concat_of_eq hu]
        cases ho : (empty.after os).get? u with
        | none =>
            rw [ho, Option.map_none, Option.or_none] at hr
            rw [hr, Option.some_or]
        | some old =>
            rw [ho, Option.map_some] at hr
            rw [ih ho, hr]
      · rw [get?_apply_of_ne hu] at hd
        rw [latest_concat_of_ne hu, ih hd]

theorem tells_languageId : Tells languageId? Document.languageId := by
  intro o old d h
  cases o <;> cases old <;> cases h <;> rfl

theorem tells_version : Tells version? Document.version := by
  intro o old d h
  cases o <;> cases old <;> cases h <;> rfl

theorem tells_content : Tells content? Document.content := by
  intro o old d h
  cases o with
  | markSaved v content => cases content <;> cases old <;> cases h <;> rfl
  | add | change | close => cases old <;> cases h <;> rfl

theorem tells_isDirty : Tells dirty? Document.isDirty := by
  intro o old d h
  cases o <;> cases old <;> cases h <;> rfl

end Latest

section Positions

theorem not_mem_concat {α : Type} {xs : List α} {x y : α} :
    x ∉ xs ++ [y] ↔ x ∉ xs ∧ y ≠ x := by
  rw [List.mem_append, not_or, List.mem_singleton, ne_comm]

theorem concat_eq_split {α : Type} {xs ys zs : List α} {x y : α} :
    xs ++ [x] = ys ++ y :: zs ↔
      (xs = ys ∧ x = y ∧ zs = []) ∨ ∃ ws, zs = ws ++ [x] ∧ xs = ys ++ y :: ws := by
  rcases List.eq_nil_or_concat zs with rfl | ⟨ws, z, rfl⟩
  · simp
  · rw [List.concat_eq_append, ← List.cons_append, ← List.append_assoc]
    constructor
    · intro h
      obtain ⟨hs, hx⟩ := List.append_inj' h rfl
      exact .inr ⟨ws, by rw [hx], hs⟩
    · rintro (⟨-, -, h⟩ | ⟨vs, h, rfl⟩)
      · simp at h
      · obtain ⟨rfl, hx⟩ := List.append_inj' h rfl
        rw [hx]

structure Last (P : List Operation → Operation → Prop) (os before : List Operation)
    (o : Operation) (later : List Operation) : Prop where
  split : os = before ++ o :: later
  holds : P before o
  none_later : ∀ mid q rest, later = mid ++ q :: rest → ¬ P (before ++ o :: mid) q

variable {P : List Operation → Operation → Prop} {q : Operation}

theorem last_self (h : P os q) : Last P (os ++ [q]) os q [] where
  split := rfl
  holds := h
  none_later := by simp

theorem Last.concat (h : Last P os before o later) (hq : ¬ P os q) :
    Last P (os ++ [q]) before o (later ++ [q]) where
  split := by rw [h.split, List.append_assoc, List.cons_append]
  holds := h.holds
  none_later := by
    intro mid p rest hs
    rcases concat_eq_split.1 hs with ⟨rfl, rfl, rfl⟩ | ⟨ws, rfl, hl⟩
    · rw [← h.split]
      exact hq
    · exact h.none_later mid p ws hl

theorem last_concat (h : Last P (os ++ [q]) before o later) :
    (P os q ∧ o = q ∧ later = []) ∨
      ¬ P os q ∧ ∃ rest, later = rest ++ [q] ∧ Last P os before o rest := by
  rcases concat_eq_split.1 h.split with ⟨rfl, rfl, rfl⟩ | ⟨rest, rfl, hs⟩
  · exact .inl ⟨h.holds, rfl, rfl⟩
  · refine .inr ⟨?_, rest, rfl, hs, h.holds, ?_⟩
    · rw [hs]
      exact h.none_later rest q [] rfl
    · intro mid p tail ht
      exact h.none_later mid p (tail ++ [q]) (by rw [ht, List.append_assoc, List.cons_append])

theorem exists_last (hs : os = before ++ o :: later) (ho : P before o) :
    ∃ before o later, Last P os before o later := by
  induction os using List.reverseRecOn generalizing later with
  | nil => simp at hs
  | append_singleton os q ih =>
      by_cases hq : P os q
      · exact ⟨_, _, _, last_self hq⟩
      · rcases concat_eq_split.1 hs with ⟨rfl, rfl, -⟩ | ⟨rest, -, hr⟩
        · exact absurd ho hq
        · obtain ⟨before, o, later, hl⟩ := ih hr
          exact ⟨before, o, _, hl.concat hq⟩

end Positions

section Opened

def Opened (os : List Operation) (u : Url) : Prop :=
  ∃ before o later, os = before ++ o :: later ∧ o.Opens u ∧ .close u ∉ later

theorem not_opened_nil (u : Url) : ¬ Opened [] u := by
  rintro ⟨before, o, later, h, -⟩
  simp at h

theorem opened_concat : Opened (os ++ [o]) u ↔ o.Opens u ∨ Opened os u ∧ o ≠ .close u := by
  constructor
  · rintro ⟨before, p, later, hs, hp, hc⟩
    rcases concat_eq_split.1 hs with ⟨-, rfl, -⟩ | ⟨rest, rfl, hr⟩
    · exact .inl hp
    · obtain ⟨hc, ho⟩ := not_mem_concat.1 hc
      exact .inr ⟨⟨before, p, rest, hr, hp, hc⟩, ho⟩
  · rintro (ho | ⟨⟨before, p, later, rfl, hp, hc⟩, ho⟩)
    · exact ⟨os, o, [], rfl, ho, by simp⟩
    · exact ⟨before, p, later ++ [o], by simp, hp, not_mem_concat.2 ⟨hc, ho⟩⟩

theorem opened_concat_of_ne (h : o.uri ≠ u) : Opened (os ++ [o]) u ↔ Opened os u := by
  have ho : ¬ o.Opens u := fun ho => h (uri_of_opens ho)
  have hc : o ≠ .close u := by
    rintro rfl
    exact h rfl
  rw [opened_concat]
  simp only [ho, hc, false_or, ne_eq, not_false_eq_true, and_true]

theorem isSome_get?_after (os : List Operation) (u : Url) :
    ((empty.after os).get? u).isSome ↔ Opened os u := by
  induction os using List.reverseRecOn with
  | nil => exact iff_of_false Bool.false_ne_true (not_opened_nil u)
  | append_singleton os o ih =>
      rw [after_concat]
      by_cases hu : o.uri = u
      · subst hu
        rw [get?_apply, if_pos rfl, isSome_entry, ih, opened_concat]
      · rw [get?_apply_of_ne hu, ih, opened_concat_of_ne hu]

theorem get?_after_eq_none_iff : (empty.after os).get? u = none ↔ ¬ Opened os u := by
  rw [← isSome_get?_after, Option.not_isSome_iff_eq_none]

theorem change_eq_error_iff {version : Int32} {content : String} {e : NotOpen} :
    (empty.after os).change u version content = .error e ↔ e = ⟨u⟩ ∧ ¬ Opened os u := by
  rw [← get?_after_eq_none_iff]
  cases hd : (empty.after os).get? u with
  | none => simp [change_of_closed hd, eq_comm]
  | some d => simp [change_of_open hd]

theorem latest_dirty?_of_last (h : Last (fun _ o => o.Opens u) os before o later) :
    latest u dirty? os = latest u dirty? (o :: later) := by
  have hd : latest u dirty? [o] = some false := by
    rw [latest_singleton (uri_of_opens h.holds)]
    cases o with
    | add => rfl
    | change | markSaved | close => exact h.holds.elim
  have hl : latest u dirty? (o :: later) = (latest u dirty? later).or (some false) := by
    rw [← List.singleton_append, latest_append, hd]
  rw [h.split, latest_append, hl, Option.or_assoc, Option.some_or]

end Opened

section Recorded

structure Recorded (os : List Operation) (u : Url) (d : Document) : Prop where
  opened : Opened os u
  uri : d.uri = u
  languageId : latest u languageId? os = some d.languageId
  version : latest u version? os = some d.version
  content : latest u content? os = some d.content
  isDirty : ∃ before o later, Last (fun _ o => o.Opens u) os before o later ∧
    latest u dirty? (o :: later) = some d.isDirty

theorem recorded_of_get? {d : Document} (h : (empty.after os).get? u = some d) :
    Recorded os u d := by
  have ho : Opened os u := by
    rw [← isSome_get?_after, h]
    rfl
  have hs : ∃ before o later, Last (fun _ o => o.Opens u) os before o later := by
    obtain ⟨before, o, later, hs, hp, -⟩ := ho
    exact exists_last hs hp
  obtain ⟨before, o, later, hl⟩ := hs
  exact {
    opened := ho
    uri := uri_of_get? h
    languageId := latest_of_tells tells_languageId h
    version := latest_of_tells tells_version h
    content := latest_of_tells tells_content h
    isDirty := ⟨before, o, later, hl, by
      rw [← latest_dirty?_of_last hl, latest_of_tells tells_isDirty h]⟩ }

theorem Recorded.latest_dirty? {d : Document} (h : Recorded os u d) :
    latest u dirty? os = some d.isDirty := by
  obtain ⟨before, o, later, hl, hd⟩ := h.isDirty
  rw [latest_dirty?_of_last hl, hd]

theorem Recorded.unique {d e : Document} (hd : Recorded os u d) (he : Recorded os u e) :
    d = e := by
  have hu : d.uri = e.uri := hd.uri.trans he.uri.symm
  have hl : d.languageId = e.languageId :=
    Option.some.inj (hd.languageId.symm.trans he.languageId)
  have hv : d.version = e.version := Option.some.inj (hd.version.symm.trans he.version)
  have hc : d.content = e.content := Option.some.inj (hd.content.symm.trans he.content)
  have hb : d.isDirty = e.isDirty :=
    Option.some.inj (hd.latest_dirty?.symm.trans he.latest_dirty?)
  obtain ⟨⟩ := d
  obtain ⟨⟩ := e
  simp only at hu hl hv hc hb
  rw [hu, hl, hv, hc, hb]

theorem get?_after_eq_some_iff {d : Document} :
    (empty.after os).get? u = some d ↔ Recorded os u d := by
  constructor
  · exact recorded_of_get?
  · intro h
    obtain ⟨e, he⟩ := Option.isSome_iff_exists.1 ((isSome_get?_after os u).2 h.opened)
    rw [he, h.unique (recorded_of_get? he)]

end Recorded

theorem mem_uris : u ∈ docs.opened.map Document.uri ↔ (docs.get? u).isSome := by
  simp [get?, List.find?_isSome]

theorem documents_follow_history (os : List Operation) :
    let docs := empty.after os
    (∀ u, (docs.get? u).isSome ↔ Opened os u) ∧
      (∀ u d, docs.get? u = some d ↔ Recorded os u d) ∧
      (∀ u version content e,
        docs.change u version content = .error e ↔ e = ⟨u⟩ ∧ ¬ Opened os u) ∧
      (∀ u version content, ¬ Opened os u → docs.apply (.change u version content) = docs) ∧
      (∀ u, docs.get? u = (empty.after (os.filter fun o => o.uri = u)).get? u) ∧
      (∀ o q, o.uri ≠ q.uri → ∀ later u,
        (docs.after (o :: q :: later)).get? u = (docs.after (q :: o :: later)).get? u) ∧
      ∃ us : List Url, us.Nodup ∧ (∀ u, u ∈ us ↔ Opened os u) ∧ docs.size = us.length := by
  intro docs
  refine ⟨?_, ?_, ?_, ?_, ?_, ?_, ?_⟩
  · intro u
    exact isSome_get?_after os u
  · intro u d
    exact get?_after_eq_some_iff
  · intro u version content e
    exact change_eq_error_iff
  · intro u version content hu
    exact apply_change_of_closed (get?_after_eq_none_iff.2 hu) version content
  · intro u
    exact (get?_after_filter empty os u).symm
  · intro o q hq later u
    exact get?_after_swap hq docs later u
  · refine ⟨docs.opened.map Document.uri, docs.distinct, ?_, ?_⟩
    · intro u
      rw [mem_uris, isSome_get?_after]
    · rw [List.length_map]
      rfl

end ContractLint.Documents
