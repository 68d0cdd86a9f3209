import ContractLint.Analysis.CommandLine
import ContractLint.Analysis.Disk

namespace ContractLint

open Text

section Parts

variable {α : Type} [DecidableEq α] {separator : α}

theorem partsAt_cons_of_ne {a : α} (ha : a ≠ separator) {as part : List α}
    {parts : List (List α)} (h : partsAt separator as = part :: parts) :
    partsAt separator (a :: as) = (a :: part) :: parts := by
  simp [partsAt, h, ha]

theorem partsAt_ne_nil (as : List α) : partsAt separator as ≠ [] := by
  cases as with
  | nil => simp [partsAt]
  | cons a as =>
      simp only [partsAt]
      split
      · simp
      · split <;> simp

theorem partsAt_separator (as : List α) :
    partsAt separator (separator :: as) = [] :: partsAt separator as := by
  simp only [partsAt]
  split
  · next h => exact absurd h (partsAt_ne_nil as)
  · next h => simp [h]

theorem partsAt_of_not_mem {as : List α} (h : separator ∉ as) : partsAt separator as = [as] := by
  induction as with
  | nil => rfl
  | cons a as ih =>
      have ha : a ≠ separator := fun he => h (he ▸ List.mem_cons_self)
      exact partsAt_cons_of_ne ha (ih fun hm => h (List.mem_cons_of_mem _ hm))

theorem not_mem_of_mem_partsAt {as part : List α} (h : part ∈ partsAt separator as) :
    separator ∉ part := by
  induction as generalizing part with
  | nil =>
      rw [List.mem_singleton.1 h]
      exact List.not_mem_nil
  | cons a as ih =>
      by_cases ha : a = separator
      · subst ha
        rw [partsAt_separator, List.mem_cons] at h
        rcases h with rfl | h
        · exact List.not_mem_nil
        · exact ih h
      · obtain ⟨first, parts, hp⟩ := List.exists_cons_of_ne_nil (@partsAt_ne_nil _ _ separator as)
        rw [partsAt_cons_of_ne ha hp, List.mem_cons] at h
        rcases h with rfl | h
        · intro hm
          rcases List.mem_cons.1 hm with rfl | hm
          · exact ha rfl
          · exact ih (hp ▸ List.mem_cons_self) hm
        · exact ih (hp ▸ List.mem_cons_of_mem _ h)

theorem partsAt_append (as : List α) :
    ∃ before last, partsAt separator as = before ++ [last] ∧
      ∀ bs part parts, partsAt separator bs = part :: parts →
        partsAt separator (as ++ bs) = before ++ (last ++ part) :: parts := by
  induction as with
  | nil => exact ⟨[], [], rfl, fun bs part parts h => h⟩
  | cons a as ih =>
      obtain ⟨before, last, hl, ha⟩ := ih
      by_cases hs : a = separator
      · subst hs
        refine ⟨[] :: before, last, by rw [partsAt_separator, hl]; rfl, ?_⟩
        intro bs part parts h
        rw [List.cons_append, partsAt_separator, ha bs part parts h]
        rfl
      · cases before with
        | nil =>
            refine ⟨[], a :: last, partsAt_cons_of_ne hs hl, ?_⟩
            intro bs part parts h
            exact partsAt_cons_of_ne hs (ha bs part parts h)
        | cons b before =>
            refine ⟨(a :: b) :: before, last, partsAt_cons_of_ne hs hl, ?_⟩
            intro bs part parts h
            exact partsAt_cons_of_ne hs (ha bs part parts h)

end Parts

namespace Path

theorem exists_segments (p : Path) :
    ∃ before last, p.segments = before ++ [last] ∧
      ∀ b : Bytes, slash ∉ b → (Path.mk (p.bytes ++ b)).segments = before ++ [last ++ b] := by
  obtain ⟨before, last, hl, ha⟩ := @partsAt_append _ _ slash p.bytes
  exact ⟨before, last, hl, fun b hb => ha b b [] (partsAt_of_not_mem hb)⟩

theorem segments_slash (b c : Bytes) :
    (Path.mk (b ++ slash :: c)).segments = (Path.mk b).segments ++ (Path.mk c).segments := by
  obtain ⟨before, last, hl, ha⟩ := @partsAt_append _ _ slash b
  have h := ha (slash :: c) [] (partsAt slash c) (partsAt_separator c)
  simp only [segments, hl, h]
  simp

theorem segments_join {name : Bytes} (p : Path) (hn : slash ∉ name) :
    ∃ before, (p.join ⟨name⟩).segments = before ++ [name] ∧
      (before = p.segments ∨ p.segments = before ++ [[]]) := by
  have ha : (Path.mk name).isAbsolute = false := by
    cases name with
    | nil => rfl
    | cons b bs =>
        have hb : b ≠ slash := fun h => hn (h ▸ List.mem_cons_self)
        simpa [isAbsolute] using hb
  have hs : (Path.mk name).segments = [name] := partsAt_of_not_mem hn
  simp only [join, ha, Bool.false_eq_true, if_false]
  split
  · next he =>
      rw [Bool.or_eq_true] at he
      rcases he with he | he
      · have hp : p.bytes = [] := List.isEmpty_iff.1 he
        refine ⟨[], ?_, .inr ?_⟩
        · simpa [hp] using hs
        · simp [segments, hp, partsAt]
      · obtain ⟨b, hb⟩ := List.getLast?_eq_some_iff.1 (beq_iff_eq.1 he)
        have hp : p.segments = (Path.mk b).segments ++ [[]] := by
          have h := segments_slash b []
          rwa [← hb] at h
        refine ⟨(Path.mk b).segments, ?_, .inr hp⟩
        rw [hb, List.append_assoc]
        exact (segments_slash b name).trans (by rw [hs])
  · exact ⟨p.segments, (segments_slash p.bytes name).trans (by rw [hs]), .inl rfl⟩

end Path

namespace Disk

variable {disk disk' : Disk} {place q : Names} {node : Node} {p : Path} {s : Bytes}

theorem get?_put_of_ne (h : q ≠ place) : (disk.put place node).get? q = disk.get? q := by
  rw [get?_put]
  by_cases hq : q = []
  · rw [if_pos hq, hq]
    rfl
  · rw [if_neg hq, if_neg (Ne.symm h)]

theorem get?_put_self (h : place ≠ []) : (disk.put place node).get? place = some node := by
  rw [get?_put, if_neg h, if_pos rfl]

def Below (disk disk' : Disk) : Prop :=
  ∀ q n, disk.get? q = some n → disk'.get? q = some n

theorem walk_snoc (disk : Disk) (place : Names) (node : Node) (before : List Bytes) (s : Bytes) :
    disk.walk place node (before ++ [s]) =
      match disk.walk place node before with
      | .ok (.node place node) => disk.walk place node [s]
      | .ok (.free _) => .error .notFound
      | .error e => .error e := by
  induction before generalizing place node with
  | nil => rfl
  | cons b before ih =>
      cases node with
      | file => rfl
      | directory =>
          simp only [List.cons_append, walk]
          split
          · exact ih place .directory
          · split
            · exact ih place.dropLast .directory
            · split
              · rfl
              · cases disk.get? (place ++ [b]) with
                | some next => exact ih (place ++ [b]) next
                | none => cases before <;> rfl

theorem walk_of_below {segments : List Bytes} {end' : Names} {last : Node}
    (hb : disk.Below disk') (h : disk.walk place node segments = .ok (.node end' last)) :
    disk'.walk place node segments = .ok (.node end' last) := by
  induction segments generalizing place node with
  | nil => exact h
  | cons b segments ih =>
      cases node with
      | file => cases h
      | directory =>
          simp only [walk] at h ⊢
          split at h
          · next hi => rw [if_pos hi]; exact ih h
          · next hi =>
              rw [if_neg hi]
              split at h
              · next hu => rw [if_pos hu]; exact ih h
              · next hu =>
                  rw [if_neg hu]
                  split at h
                  · cases h
                  · next hl =>
                      rw [if_neg hl]
                      split at h
                      · next next hg =>
                          rw [hb _ _ hg]
                          exact ih h
                      · split at h <;> cases h

def target (disk : Disk) (q : Names) : Target :=
  match disk.get? q with
  | some node => .node q node
  | none => .free q

structure Naming (s : Bytes) : Prop where
  idle : Path.isIdle s = false
  up : Path.isUp s = false

theorem walk_naming (hs : Naming s) :
    disk.walk place .directory [s] =
      if maxName < s.length then .error .nameTooLong else .ok (disk.target (place ++ [s])) := by
  simp only [walk, hs.idle, hs.up, target, Bool.false_eq_true, if_false]
  split
  · rfl
  · cases disk.get? (place ++ [s]) <;> rfl

theorem walk_idle {before : List Bytes}
    (h : disk.walk place node (before ++ [[]]) = .ok (.node q .directory)) :
    disk.walk place node before = .ok (.node q .directory) := by
  rw [walk_snoc] at h
  split at h
  · next place' node' hw =>
      cases node' with
      | file => cases h
      | directory => rw [hw]; exact h
  · cases h
  · cases h

theorem walk_free {segments : List Bytes}
    (h : disk.walk place node segments = .ok (.free q)) :
    disk.get? q = none ∧
      ∀ n, (disk.put q n).walk place node segments = .ok (.node q n) := by
  induction segments generalizing place node with
  | nil => cases h
  | cons b segments ih =>
      cases node with
      | file => cases h
      | directory =>
          simp only [walk] at h ⊢
          split at h
          · next hi => simpa only [if_pos hi] using ih h
          · next hi =>
              split at h
              · next hu => simpa only [if_neg hi, if_pos hu] using ih h
              · next hu =>
                  split at h
                  · cases h
                  · next hl =>
                      simp only [if_neg hi, if_neg hu, if_neg hl]
                      split at h
                      · next next hg =>
                          obtain ⟨hn, hp⟩ := ih h
                          refine ⟨hn, fun n => ?_⟩
                          have hq : q ≠ place ++ [b] := by
                            rintro rfl
                            cases hn.symm.trans hg
                          have hk : (disk.put q n).get? (place ++ [b]) = some next := by
                            rw [get?_put_of_ne hq.symm, hg]
                          rw [hk]
                          exact hp n
                      · next hg =>
                          split at h
                          · next hr =>
                              cases h
                              refine ⟨hg, fun n => ?_⟩
                              subst hr
                              simp [get?_put_self, walk]
                          · cases h

theorem locate_cases (p : Path) :
    (∃ e, ∀ disk : Disk, disk.locate p = .error e) ∨
      ∀ disk : Disk, disk.locate p = disk.walk [] .directory p.segments := by
  simp only [locate]
  split
  · exact .inl ⟨_, fun _ => rfl⟩
  · split
    · exact .inl ⟨_, fun _ => rfl⟩
    · split
      · exact .inl ⟨_, fun _ => rfl⟩
      · exact .inr fun _ => rfl

theorem locate_eq_walk {t : Target} (h : disk.locate p = .ok t) (disk' : Disk) :
    disk'.locate p = disk'.walk [] .directory p.segments := by
  rcases locate_cases p with ⟨e, he⟩ | hw
  · cases (he disk).symm.trans h
  · exact hw disk'

theorem locate_free (h : disk.locate p = .ok (.free q)) :
    disk.get? q = none ∧ ∀ n, (disk.put q n).locate p = .ok (.node q n) := by
  have hw := locate_eq_walk h
  obtain ⟨hn, hp⟩ := walk_free ((hw disk).symm.trans h)
  exact ⟨hn, fun n => (hw _).trans (hp n)⟩

theorem locate_of_below {last : Node} (hb : disk.Below disk')
    (h : disk.locate p = .ok (.node q last)) : disk'.locate p = .ok (.node q last) := by
  have hw := locate_eq_walk h
  rw [hw] at h ⊢
  exact walk_of_below hb h

theorem locate_free_shape {before : List Bytes} (hs : p.segments = before ++ [s])
    (h : disk.locate p = .ok (.free q)) :
    ∃ place, disk.walk [] .directory before = .ok (.node place .directory) ∧ Naming s ∧
      q = place ++ [s] := by
  rw [locate_eq_walk h, hs, walk_snoc] at h
  split at h
  · next place node hw =>
      cases node with
      | file => cases h
      | directory =>
          simp only [walk] at h
          split at h
          · cases h
          · next hi =>
              split at h
              · cases h
              · next hu =>
                  split at h
                  · cases h
                  · split at h
                    · cases h
                    · cases h
                      exact ⟨place, hw, ⟨by simpa using hi, by simpa using hu⟩, rfl⟩
  · cases h
  · cases h

def IsTree (disk : Disk) : Prop :=
  ∀ place name node, disk.get? (place ++ [name]) = some node → disk.get? place = some .directory

theorem IsTree.get?_below (ht : disk.IsTree) (h : disk.get? place = none) (below : Names) :
    disk.get? (place ++ below) = none := by
  induction below generalizing place with
  | nil => rwa [List.append_nil]
  | cons name below ih =>
      have hn : disk.get? (place ++ [name]) = none := by
        cases hg : disk.get? (place ++ [name]) with
        | none => rfl
        | some node => cases h.symm.trans (ht place name node hg)
      have hb := ih hn
      rwa [List.append_assoc] at hb

section Around

structure Around (base : Disk) (input report : Names) (disk : Disk) : Prop where
  elsewhere : ∀ q, q ≠ input → q ≠ report → disk.get? q = base.get? q
  input : disk.get? input ≠ some .directory

variable {base : Disk} {input report : Names}

theorem Around.below (h : Around base input report disk) (hi : base.get? input = none)
    (hr : base.get? report = none) : base.Below disk := by
  intro q n hq
  rw [h.elsewhere q _ _]
  · exact hq
  · rintro rfl
    cases hi.symm.trans hq
  · rintro rfl
    cases hr.symm.trans hq

theorem Around.self (hi : base.get? input = none) : Around base input report base :=
  ⟨fun _ _ _ => rfl, by simp [hi]⟩

inductive Leads (base : Disk) (input report : Names) (p : Path) (q : Names) : Prop where
  | seated : (∀ disk, Around base input report disk → disk.locate p = .ok (disk.target q)) →
      Leads base input report p q
  | refused : (∀ disk, Around base input report disk → ∃ e, disk.locate p = .error e) →
      Leads base input report p q

theorem leads_of_walk {before : List Bytes} (hi : base.get? input = none)
    (hr : base.get? report = none) (hp : p.segments = before ++ [s])
    (hw : base.walk [] .directory before = .ok (.node place .directory)) (hs : Naming s) :
    Leads base input report p (place ++ [s]) := by
  rcases locate_cases p with ⟨e, he⟩ | hl
  · exact .refused fun disk _ => ⟨e, he disk⟩
  · have ht : ∀ disk, Around base input report disk → disk.locate p =
        if maxName < s.length then .error .nameTooLong
        else .ok (disk.target (place ++ [s])) := by
      intro disk ha
      rw [hl, hp, walk_snoc, walk_of_below (ha.below hi hr) hw]
      exact walk_naming hs
    by_cases hn : maxName < s.length
    · exact .refused fun disk ha => ⟨.nameTooLong, by rw [ht disk ha, if_pos hn]⟩
    · exact .seated fun disk ha => by rw [ht disk ha, if_neg hn]

end Around

section Operations

variable {content : Bytes} {executable : Bool}

theorem ne_nil_of_get?_ne_directory (h : disk.get? q ≠ some .directory) : q ≠ [] := by
  rintro rfl
  exact h rfl

theorem write_target (content : Bytes) (hl : disk.locate p = .ok (disk.target q))
    (hq : disk.get? q ≠ some .directory) :
    ∃ executable, disk.write p content = .ok (disk.put q (.file content executable)) := by
  simp only [write, hl, target]
  cases hg : disk.get? q with
  | none => exact ⟨false, rfl⟩
  | some node =>
      cases node with
      | file c executable => exact ⟨executable, rfl⟩
      | directory => exact absurd hg hq

theorem remove_target (hl : disk.locate p = .ok (disk.target q)) (hq : q ≠ []) (x : Names) :
    (disk.remove p).get? x =
      if x = q ∧ disk.get? q ≠ some .directory then none else disk.get? x := by
  simp only [remove, hl, target]
  cases hg : disk.get? q with
  | none =>
      by_cases hx : x = q
      · simp [hx, hg]
      · simp [hx]
  | some node =>
      cases node with
      | file c executable =>
          rw [get?_erase]
          by_cases hx : x = q <;> simp [hx, hq]
      | directory => simp

theorem createDirectory_target (hl : disk.locate p = .ok (disk.target q))
    (hq : disk.get? q = none) : disk.createDirectory p = .ok (disk.put q .directory) := by
  simp only [createDirectory, hl, target, hq]

theorem createDirectory_ok (h : disk.createDirectory p = .ok disk') :
    ∃ q, disk.locate p = .ok (.free q) ∧ disk' = disk.put q .directory := by
  simp only [createDirectory] at h
  split at h
  · next q hl =>
      cases h
      exact ⟨q, hl, rfl⟩
  · cases h
  · cases h

theorem write_refused {e : IoError} (h : disk.locate p = .error e) :
    disk.write p content = .error e := by
  simp only [write, h]

theorem remove_refused {e : IoError} (h : disk.locate p = .error e) : disk.remove p = disk := by
  simp only [remove, h]

theorem createDirectory_refused {e : IoError} (h : disk.locate p = .error e) :
    disk.createDirectory p = .error e := by
  simp only [createDirectory, h]

end Operations

end Disk

end ContractLint
