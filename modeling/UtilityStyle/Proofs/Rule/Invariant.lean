import UtilityStyle.Proofs.Outcome
import UtilityStyle.Proofs.Rule.Named

namespace UtilityStyle

namespace Rule

structure Invariant (P : Style → Prop) : Prop where
  empty : P .empty
  putText {style : Style} (hs : P style) (property text : String) :
    P (style.putText (Property.camelCase property) text)
  merge {first second : Style} (hf : P first) (hs : P second) : P (first.merge second)
  under {inner : Style} {states : String} (hi : P inner) (h : states.toList.head? = some ':') :
    P (.under states inner)

variable {P : Style → Prop}

theorem style_keeps {rule : Rule} (hempty : P .empty)
    (hput : ∀ style, P style → ∀ d ∈ rule.declarations,
      P (style.putText (Property.camelCase d.1) d.2)) : P rule.style := by
  have hfold : ∀ declarations ⊆ rule.declarations, ∀ style, P style →
      P (declarations.foldl (fun style d => style.putText (Property.camelCase d.1) d.2) style) := by
    intro declarations
    induction declarations with
    | nil => exact fun _ _ hs => hs
    | cons d rest ih =>
      intro hsub style hs
      obtain ⟨hd, hrest⟩ := List.cons_subset.1 hsub
      exact ih hrest _ (hput style hs d hd)
  exact hfold rule.declarations (List.Subset.refl _) .empty hempty

theorem invariant_style (hP : Invariant P) (rule : Rule) : P rule.style :=
  style_keeps hP.empty fun _ hs d _ => hP.putText hs d.1 d.2

theorem wellFormed_invariant : Invariant fun style => style.value.wellFormed where
  empty := rfl
  putText hs _ _ := Json.fieldsWellFormed_put hs rfl
  merge hf hs := Style.wellFormed_merge hf hs
  under hi _ := Style.wellFormed_under _ hi

end Rule

namespace Rulebook

def Holds (P : Style → Prop) (book : Rulebook) : Prop :=
  (∀ entry ∈ book.components, P entry.2) ∧ ∀ entry ∈ book.utilities, P entry.2

variable {P : Style → Prop}

theorem invariant_gather (hP : Rule.Invariant P) {name : String} {style : Style}
    {gathered : Entries Style} (hs : P style) (h : ∀ entry ∈ gathered, P entry.2) :
    ∀ entry ∈ gather name style gathered, P entry.2 := by
  intro entry he
  unfold gather at he
  split at he
  · rename_i old hold
    rcases Entries.mem_of_mem_put he with rfl | he
    · exact hP.merge (h _ (Entries.mem_of_get?_eq_some hold)) hs
    · exact h entry he
  · rcases Entries.mem_of_mem_put he with rfl | he
    · exact hs
    · exact h entry he

theorem invariant_gatherFrom (hP : Rule.Invariant P) {rules : List Rule}
    {gathered found : Entries Style} (h : ∀ entry ∈ gathered, P entry.2)
    (hf : gatherFrom gathered rules = .ok found) : ∀ entry ∈ found, P entry.2 := by
  apply gatherFrom_keeps (P := fun gathered => ∀ entry ∈ gathered, P entry.2) h _ hf
  exact fun gathered hg rule name => invariant_gather hP (Rule.invariant_style hP rule) hg

theorem ofRules_eq_ok_iff {components utilities : List Rule} {book : Rulebook} :
    ofRules components utilities = .ok book ↔
      gatherAll components = .ok book.components ∧ gatherAll utilities = .ok book.utilities := by
  unfold ofRules
  simp only [Outcome.bind_eq_ok_iff, Outcome.pure_eq_ok_iff]
  constructor
  · rintro ⟨_, hcomponents, _, hutilities, rfl⟩
    exact ⟨hcomponents, hutilities⟩
  · rintro ⟨hcomponents, hutilities⟩
    exact ⟨_, hcomponents, _, hutilities, rfl⟩

theorem invariant_ofRules (hP : Rule.Invariant P) {components utilities : List Rule}
    {book : Rulebook} (h : ofRules components utilities = .ok book) : book.Holds P := by
  obtain ⟨hcomponents, hutilities⟩ := ofRules_eq_ok_iff.1 h
  exact ⟨invariant_gatherFrom hP (by simp) hcomponents,
    invariant_gatherFrom hP (by simp) hutilities⟩

theorem head?_states {className name states : String}
    (h : states? className name = some states) (hne : states.isEmpty = false) :
    states.toList.head? = some ':' := by
  refine (states?_eq_some_iff.1 h).2.resolve_left ?_
  rintro rfl
  cases hne

theorem invariant_componentStyles (hP : Rule.Invariant P) {book : Rulebook} (h : book.Holds P)
    (className : String) : ∀ style ∈ book.componentStyles className, P style := by
  intro style hs
  obtain ⟨⟨name, inner⟩, hentry, hstates⟩ := List.mem_filterMap.1 hs
  obtain ⟨states, hfound, rfl⟩ := Option.map_eq_some_iff.1 hstates
  cases hne : states.isEmpty with
  | true => exact h.1 _ hentry
  | false => exact hP.under (h.1 _ hentry) (head?_states hfound hne)

theorem invariant_resolve (hP : Rule.Invariant P) {book : Rulebook} (h : book.Holds P)
    {className : String} {style : Style} (hs : book.resolve className = some style) : P style := by
  unfold resolve at hs
  split at hs
  · exact h.2 _ (Entries.mem_of_get?_eq_some hs)
  · obtain rfl := Option.some.inj hs
    exact Style.mergeAll_keeps hP.empty hP.merge (invariant_componentStyles hP h className)

end Rulebook

end UtilityStyle
