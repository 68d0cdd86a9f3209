import ContractLint.Proofs.Registry.Tags

namespace ContractLint

section Lines

def linesOf (text : String) : List String :=
  (text.toList.splitOn '\n').map String.ofList

theorem linesOf_cons {line : String} (h : '\n' ∉ line.toList) (text : String) :
    linesOf (line ++ "\n" ++ text) = line :: linesOf text := by
  have ht : (line ++ "\n" ++ text).toList = line.toList ++ '\n' :: text.toList := by simp
  rw [linesOf, ht, List.splitOn_append_cons_self_of_not_mem h, List.map_cons, String.ofList_toList]
  rfl

theorem linesOf_join {lines : List String} (h : ∀ line ∈ lines, '\n' ∉ line.toList) :
    linesOf (String.join (lines.map (· ++ "\n"))) = lines ++ [""] := by
  induction lines with
  | nil => rfl
  | cons line lines ih =>
      obtain ⟨hl, hs⟩ := List.forall_mem_cons.1 h
      rw [List.map_cons, String.join_cons, linesOf_cons hl, ih hs, List.cons_append]

end Lines

section Blocks

variable {rule : Rule} {rules : List Rule}

def itemTag? (line : String) : Option String :=
  match line.toList with
  | '*' :: ' ' :: tag => some (String.ofList tag)
  | _ => none

def isItem (line : String) : Bool :=
  (itemTag? line).isSome

def bold (text : String) : String :=
  "**" ++ text ++ "**"

def Rule.ofLines? (item category severity blank : String) : Option Rule := do
  let tag ← itemTag? item
  let category ← Category.all.find? fun c => bold c.name = category
  let severity ← Severity.all.find? fun s => bold s.label = severity
  if blank = "" then some { tag, severity, category } else none

def Rule.ofBlocks? : List String → Option (List Rule)
  | item :: category :: severity :: blank :: lines => do
      let rule ← Rule.ofLines? item category severity blank
      let rules ← Rule.ofBlocks? lines
      return rule :: rules
  | lines => if lines = [""] then some [] else none

def Rule.ofListing? (text : String) : Option (List Rule) :=
  Rule.ofBlocks? (linesOf text)

theorem itemTag?_item (tag : String) : itemTag? ("* " ++ tag) = some tag := by
  have h : ("* " ++ tag).toList = '*' :: ' ' :: tag.toList := by simp
  simp only [itemTag?, h, String.ofList_toList]

theorem itemTag?_bold (text : String) : itemTag? (bold text) = none := by
  have h : (bold text).toList = '*' :: '*' :: (text ++ "**").toList := by simp [bold]
  simp [itemTag?, h]

theorem find?_bold_name (category : Category) :
    Category.all.find? (fun c => bold c.name = bold category.name) = some category := by
  cases category <;> decide +kernel

theorem find?_bold_label (severity : Severity) :
    Severity.all.find? (fun s => bold s.label = bold severity.label) = some severity := by
  cases severity <;> decide +kernel

theorem Rule.listing_eq (rule : Rule) :
    rule.listing = ["* " ++ rule.tag, bold rule.category.name, bold rule.severity.label, ""] :=
  rfl

theorem Rule.ofLines?_listing (rule : Rule) :
    Rule.ofLines? ("* " ++ rule.tag) (bold rule.category.name) (bold rule.severity.label) "" =
      some rule := by
  simp only [Rule.ofLines?, itemTag?_item, find?_bold_name, find?_bold_label, if_true, bind,
    Option.bind]

theorem Rule.ofBlocks?_flatMap (rules : List Rule) :
    Rule.ofBlocks? (rules.flatMap Rule.listing ++ [""]) = some rules := by
  induction rules with
  | nil => rfl
  | cons rule rules ih =>
      rw [List.flatMap_cons, List.append_assoc, Rule.listing_eq]
      simp only [List.cons_append, List.nil_append, Rule.ofBlocks?, Rule.ofLines?_listing, ih]
      rfl

theorem filter_isItem_flatMap (rules : List Rule) :
    (rules.flatMap Rule.listing ++ [""]).filter isItem =
      (rules.map Rule.tag).map ("* " ++ ·) := by
  induction rules with
  | nil => rfl
  | cons rule rules ih =>
      have hi : isItem ("* " ++ rule.tag) = true := by rw [isItem, itemTag?_item]; rfl
      have hb : ∀ text, isItem (bold text) = false := fun text => by rw [isItem, itemTag?_bold]; rfl
      have he : isItem "" = false := by rfl
      rw [List.flatMap_cons, List.append_assoc, List.filter_append, ih, Rule.listing_eq]
      simp [hi, hb, he]

theorem newline_not_mem_listing (h : '\n' ∉ rule.tag.toList) :
    ∀ line ∈ rule.listing, '\n' ∉ line.toList := by
  have hc : '\n' ∉ (bold rule.category.name).toList := by cases rule.category <;> decide +kernel
  have hs : '\n' ∉ (bold rule.severity.label).toList := by cases rule.severity <;> decide +kernel
  simp only [Rule.listing_eq, List.forall_mem_cons, String.toList_append, List.mem_append]
  exact ⟨by simp [h], hc, hs, by simp⟩

end Blocks

namespace Registry

variable {registry other : Registry}

def SingleLine (registry : Registry) : Prop :=
  ∀ tag ∈ registry.tags, '\n' ∉ tag.toList

theorem SingleLine.linesOf_listing (h : registry.SingleLine) :
    linesOf registry.listing = registry.rules.flatMap Rule.listing ++ [""] := by
  refine linesOf_join fun line hm => ?_
  obtain ⟨rule, hr, hl⟩ := List.mem_flatMap.1 hm
  exact newline_not_mem_listing (h rule.tag (List.mem_map_of_mem hr)) line hl

theorem SingleLine.ofListing?_listing (h : registry.SingleLine) :
    Rule.ofListing? registry.listing = some registry.rules := by
  rw [Rule.ofListing?, h.linesOf_listing, Rule.ofBlocks?_flatMap]

theorem listing_is_read_back (registry : Registry) (h : registry.SingleLine) :
    Rule.ofListing? registry.listing = some registry.rules ∧
      (linesOf registry.listing).filter isItem = registry.tags.map ("* " ++ ·) ∧
      ∀ other : Registry, other.SingleLine → other.rules ≠ registry.rules →
        other.listing ≠ registry.listing := by
  refine ⟨h.ofListing?_listing, ?_, ?_⟩
  · rw [h.linesOf_listing, filter_isItem_flatMap, tags]
  · intro other ho hr hl
    have he := ho.ofListing?_listing
    rw [hl, h.ofListing?_listing] at he
    exact hr (Option.some.inj he).symm

section Markup

def markupRules : List Rule :=
  [⟨"* throw", .error, .gas⟩, ⟨"**code**", .warning, .code⟩, ⟨"", .information, .erc20⟩]

def markup : Registry where
  rules := markupRules
  index := .collect (markupRules.map Rule.tag)
  indexes := indexes_collect (by decide +kernel)

theorem markup_is_read_back :
    markup.SingleLine ∧ builtin.SingleLine ∧
      Rule.ofListing? markup.listing = some markupRules ∧
      (linesOf markup.listing).filter isItem = ["* * throw", "* **code**", "* "] ∧
      builtin.listing ≠ markup.listing := by
  have hm : ∀ tag ∈ markup.tags, '\n' ∉ tag.toList := by decide +kernel
  have hb : ∀ tag ∈ builtin.tags, '\n' ∉ tag.toList := by decide +kernel
  obtain ⟨hr, hi, ho⟩ := listing_is_read_back markup hm
  exact ⟨hm, hb, hr, hi, ho builtin hb (by decide +kernel)⟩

end Markup

example :
    let broken : Rule := ⟨"a\n**gas**\n**Error**\n\n* b", .warning, .code⟩
    let rules : List Rule := [⟨"a", .error, .gas⟩, ⟨"b", .warning, .code⟩]
    String.join (broken.listing.map (· ++ "\n")) =
      String.join ((rules.flatMap Rule.listing).map (· ++ "\n")) := by
  decide +kernel

end Registry

end ContractLint
