import UtilityStyle.Proofs.Style.Algebra
import UtilityStyle.Proofs.Style.Keys
import UtilityStyle.Proofs.Text.Start
import UtilityStyle.Rule.Rulebook

/-!
Styles with names, as rules have them, and what a class gets of them: the styles for its own name,
and under their states those for its name with states behind it. But for the order of the keys, a
merge of that comes down to the merge for each of those names.
-/

namespace UtilityStyle

namespace Style

def mergeAll? : List Style → Option Style
  | [] => none
  | styles => some (mergeAll styles)

theorem mergeAll?_append_singleton (styles : List Style) {last : Style} (h : last.keys.Nodup) :
    mergeAll? (styles ++ [last]) = some ((mergeAll? styles).elim last (·.merge last)) := by
  cases styles with
  | nil => exact congrArg some (empty_merge h)
  | cons style rest => exact congrArg some (mergeAll_append_singleton (style :: rest) last)

theorem mergeAll?_eq_foldl {styles : List Style} (h : ∀ style ∈ styles, style.keys.Nodup) :
    mergeAll? styles =
      styles.foldl (fun old? style => some (old?.elim style (·.merge style))) none := by
  induction styles using List.reverseRecOn with
  | nil => rfl
  | append_singleton init last ih =>
    obtain ⟨hinit, hlast⟩ := List.forall_mem_append.1 h
    rw [mergeAll?_append_singleton init (hlast last (List.mem_singleton_self last)), ih hinit,
      List.foldl_append]
    rfl

theorem eq_mergeAll_of_mergeAll?_eq_some {styles : List Style} {style : Style}
    (h : mergeAll? styles = some style) : style = mergeAll styles := by
  cases styles with
  | nil => cases h
  | cons first rest => exact (Option.some.inj h).symm

theorem mergeAll?_eq_none_iff {styles : List Style} : mergeAll? styles = none ↔ styles = [] := by
  cases styles <;> simp [mergeAll?]

end Style

theorem Rulebook.states?_eq_some_iff {className name states : String} :
    states? className name = some states ↔
      name = className ++ states ∧ (states = "" ∨ states.toList.head? = some ':') := by
  unfold states?
  rw [Option.filter_eq_some_iff, Text.afterStart_eq_some_iff]
  simp

abbrev NamedStyles := List (String × Style)

namespace NamedStyles

def under (name : String) (list : NamedStyles) : List Style :=
  (list.filter fun part => part.1 = name).map Prod.snd

def forClass (className : String) (list : NamedStyles) : NamedStyles :=
  list.filterMap fun part => (Rulebook.states? className part.1).map fun states => (states, part.2)

def place (part : String × Style) : Style :=
  if part.1.isEmpty then part.2 else .under part.1 part.2

theorem under_append_singleton (name : String) (init : NamedStyles) (last : String × Style) :
    under name (init ++ [last]) =
      if last.1 = name then under name init ++ [last.2] else under name init := by
  unfold under
  rw [List.filter_append, List.map_append]
  by_cases h : last.1 = name <;> simp [h]

theorem under_eq_nil_iff {name : String} {list : NamedStyles} :
    under name list = [] ↔ name ∉ Entries.keys list := by
  unfold under Entries.keys
  rw [List.map_eq_nil_iff, List.filter_eq_nil_iff]
  simp only [decide_eq_true_eq, List.mem_map, not_exists, not_and]

theorem mem_of_mem_under {name : String} {style : Style} {list : NamedStyles}
    (h : style ∈ under name list) : (name, style) ∈ list := by
  obtain ⟨part, hpart, rfl⟩ := List.mem_map.1 h
  obtain ⟨hm, hname⟩ := List.mem_filter.1 hpart
  obtain rfl := of_decide_eq_true hname
  exact hm

theorem mem_forClass {className : String} {list : NamedStyles} {part : String × Style} :
    part ∈ forClass className list ↔
      (className ++ part.1, part.2) ∈ list ∧ (part.1 = "" ∨ part.1.toList.head? = some ':') := by
  unfold forClass
  rw [List.mem_filterMap]
  constructor
  · rintro ⟨⟨name, style⟩, hm, h⟩
    obtain ⟨states, hstates, rfl⟩ := Option.map_eq_some_iff.1 h
    obtain ⟨rfl, hcolon⟩ := Rulebook.states?_eq_some_iff.1 hstates
    exact ⟨hm, hcolon⟩
  · rintro ⟨hm, hcolon⟩
    exact ⟨_, hm, Option.map_eq_some_iff.2 ⟨_, Rulebook.states?_eq_some_iff.2 ⟨rfl, hcolon⟩, rfl⟩⟩

theorem under_forClass {states : String} (h : states = "" ∨ states.toList.head? = some ':')
    (className : String) (list : NamedStyles) :
    under states (forClass className list) = under (className ++ states) list := by
  induction list with
  | nil => rfl
  | cons part rest ih =>
    unfold under forClass at ih ⊢
    rw [List.filterMap_cons]
    by_cases hname : part.1 = className ++ states
    · have hstates : Rulebook.states? className part.1 = some states :=
        Rulebook.states?_eq_some_iff.2 ⟨hname, h⟩
      rw [hstates]
      simp [hname, ih]
    · cases hothers : Rulebook.states? className part.1 with
      | none => simp [hname, ih]
      | some others =>
        have hne : others ≠ states := by
          rintro rfl
          exact hname (Rulebook.states?_eq_some_iff.1 hothers).1
        simp [hname, hne, ih]

structure Plain (style : Style) : Prop where
  wellFormed : style.value.wellFormed
  noStates : ∀ key ∈ style.keys, key.toList.head? ≠ some ':'

theorem Plain.nodup {style : Style} (h : Plain style) : style.keys.Nodup :=
  Style.nodup_keys_of_wellFormed h.wellFormed

theorem plain_empty : Plain .empty := ⟨rfl, nofun⟩

theorem plain_merge {first second : Style} (hf : Plain first) (hs : Plain second) :
    Plain (first.merge second) where
  wellFormed := Style.wellFormed_merge hf.wellFormed hs.wellFormed
  noStates key hk := (Style.mem_keys_mergeFields.1 hk).elim (hf.noStates key) (hs.noStates key)

theorem plain_putText {style : Style} {property : String} (hs : Plain style)
    (h : property.toList.head? ≠ some ':') (text : String) :
    Plain (style.putText property text) where
  wellFormed := Json.fieldsWellFormed_put hs.wellFormed rfl
  noStates key hk := by
    rcases Style.mem_keys_put.1 hk with rfl | hk
    · exact h
    · exact hs.noStates key hk

theorem plain_forClass {className : String} {list : NamedStyles}
    (h : ∀ part ∈ list, Plain part.2) : ∀ part ∈ forClass className list, Plain part.2 :=
  fun part hp => h (className ++ part.1, part.2) (mem_forClass.1 hp).1

theorem ne_empty_of_head? {key : String} (h : key.toList.head? = some ':') : key ≠ "" := by
  rintro rfl
  cases h

theorem place_class (style : Style) : place ("", style) = style := rfl

theorem place_states {states : String} (h : states ≠ "") (style : Style) :
    place (states, style) = .under states style :=
  if_neg (by simpa using h)

theorem nodup_keys_mergeAll_place {list : NamedStyles} (h : ∀ part ∈ list, Plain part.2)
    (className : String) :
    (Style.mergeAll ((forClass className list).map place)).keys.Nodup := by
  have hw : (Style.mergeAll ((forClass className list).map place)).value.wellFormed := by
    apply Style.mergeAll_keeps (P := fun style => style.value.wellFormed) rfl
      Style.wellFormed_merge
    rw [List.forall_mem_map]
    intro part hpart
    have hstyle := (plain_forClass h part hpart).wellFormed
    unfold place
    split
    · exact hstyle
    · exact Style.wellFormed_under _ hstyle
  exact Style.nodup_keys_of_wellFormed hw

/-- What a merge has under a key: the merge of what is for the states of that name, or else what the
merge of what is for the class itself has there. -/
theorem get?_mergeAll_place {parts : NamedStyles}
    (hstates : ∀ part ∈ parts, part.1 = "" ∨ part.1.toList.head? = some ':')
    (hplain : ∀ part ∈ parts, Plain part.2) (key : String) :
    (Style.mergeAll (parts.map place)).get? key =
      if key.toList.head? = some ':' then (Style.mergeAll? (under key parts)).map Style.value
      else (Style.mergeAll? (under "" parts)).bind (·.get? key) := by
  induction parts using List.reverseRecOn with
  | nil => split <;> rfl
  | append_singleton init last ih =>
    obtain ⟨states, style⟩ := last
    obtain ⟨hinit, hlast⟩ := List.forall_mem_append.1 hstates
    obtain ⟨hplainInit, hplainLast⟩ := List.forall_mem_append.1 hplain
    have hstyle : Plain style := hplainLast _ (List.mem_singleton_self _)
    have ih := ih hinit hplainInit
    rw [List.map_append, List.map_singleton, Style.mergeAll_append_singleton,
      under_append_singleton, under_append_singleton]
    -- a style for the class itself has no key of states, one for states has that key alone
    rcases hlast _ (List.mem_singleton_self _) with rfl | hcolon
    · rw [place_class, Style.get?_merge hstyle.wellFormed, ih]
      by_cases hkey : key.toList.head? = some ':'
      · have hnew : style.get? key = none :=
          Entries.get?_eq_none_iff.2 fun hm => hstyle.noStates key hm hkey
        simp [hkey, hnew, Ne.symm (ne_empty_of_head? hkey)]
      · rw [if_neg hkey, if_neg hkey, if_pos rfl, Style.mergeAll?_append_singleton _ hstyle.nodup]
        cases Style.mergeAll? (under "" init) with
        | none => cases h : style.get? key <;> simp [h, Style.mergeValue_none]
        | some old => exact (Style.get?_merge hstyle.wellFormed old key).symm
    · have hne : states ≠ "" := ne_empty_of_head? hcolon
      rw [place_states hne, Style.get?_merge (Style.wellFormed_under states hstyle.wellFormed), ih,
        if_neg hne]
      by_cases hkey : states = key
      · subst hkey
        rw [Style.get?_under_self, if_pos hcolon, if_pos hcolon, if_pos rfl,
          Style.mergeAll?_append_singleton _ hstyle.nodup]
        cases Style.mergeAll? (under states init) with
        | none => exact congrArg some (Style.mergeValue_none _)
        | some old => rfl
      · rw [Style.get?_under_of_ne (Ne.symm hkey), if_neg hkey, Option.map_none, Option.none_or]

theorem mergeAll?_under_of_nodup {entries : NamedStyles} (hnodup : (Entries.keys entries).Nodup)
    (hkeys : ∀ part ∈ entries, part.2.keys.Nodup) (name : String) :
    Style.mergeAll? (under name entries) = Entries.get? name entries := by
  induction entries with
  | nil => rfl
  | cons part rest ih =>
    obtain ⟨hnew, hrest⟩ := List.nodup_cons.1 hnodup
    obtain ⟨hpart, hkeys⟩ := List.forall_mem_cons.1 hkeys
    unfold Entries.get?
    by_cases hname : part.1 = name
    · subst hname
      have hothers : under part.1 rest = [] := under_eq_nil_iff.2 hnew
      have hunder : under part.1 (part :: rest) = [part.2] := by
        simpa [under] using hothers
      rw [hunder, if_pos rfl]
      exact congrArg some (Style.empty_merge hpart)
    · have hunder : under name (part :: rest) = under name rest := by
        simp [under, hname]
      rw [hunder, if_neg hname, ih hrest hkeys]

def Alike (a b : NamedStyles) : Prop :=
  ∀ name, Style.mergeAll? (under name a) = Style.mergeAll? (under name b)

section Alike

variable {a b : NamedStyles}

theorem Alike.mergeAll?_forClass (h : Alike a b) {states : String}
    (hstates : states = "" ∨ states.toList.head? = some ':') (className : String) :
    Style.mergeAll? (under states (forClass className a)) =
      Style.mergeAll? (under states (forClass className b)) := by
  rw [under_forClass hstates, under_forClass hstates, h]

theorem Alike.forClass_eq_nil (h : Alike a b) {className : String}
    (ha : forClass className a = []) : forClass className b = [] := by
  rw [List.eq_nil_iff_forall_not_mem]
  intro part hpart
  have hnone : Style.mergeAll? (under part.1 (forClass className b)) = none := by
    rw [← h.mergeAll?_forClass (mem_forClass.1 hpart).2, ha]
    rfl
  have hkey : part.1 ∉ Entries.keys (forClass className b) :=
    under_eq_nil_iff.1 (Style.mergeAll?_eq_none_iff.1 hnone)
  exact hkey (List.mem_map_of_mem hpart)

theorem Alike.forClass_eq_nil_iff (h : Alike a b) (className : String) :
    forClass className a = [] ↔ forClass className b = [] :=
  ⟨h.forClass_eq_nil, Alike.forClass_eq_nil fun name => (h name).symm⟩

theorem Alike.get?_mergeAll (h : Alike a b) (ha : ∀ part ∈ a, Plain part.2)
    (hb : ∀ part ∈ b, Plain part.2) (className key : String) :
    (Style.mergeAll ((forClass className a).map place)).get? key =
      (Style.mergeAll ((forClass className b).map place)).get? key := by
  rw [get?_mergeAll_place (fun _ hp => (mem_forClass.1 hp).2) (plain_forClass ha),
    get?_mergeAll_place (fun _ hp => (mem_forClass.1 hp).2) (plain_forClass hb),
    h.mergeAll?_forClass (.inl rfl)]
  split
  · rename_i hkey
    rw [h.mergeAll?_forClass (.inr hkey)]
  · rfl

end Alike

end NamedStyles

namespace Rule

def named (rules : List Rule) : NamedStyles :=
  rules.filterMap fun rule => (className? rule.selector).map fun name => (name, rule.style)

theorem exists_of_mem_named {part : String × Style} {rules : List Rule} (h : part ∈ named rules) :
    ∃ rule ∈ rules, rule.style = part.2 := by
  obtain ⟨rule, hrule, hname⟩ := List.mem_filterMap.1 h
  obtain ⟨name, -, rfl⟩ := Option.map_eq_some_iff.1 hname
  exact ⟨rule, hrule, rfl⟩

end Rule

namespace Rulebook

variable {rules : List Rule} {gathered found : Entries Style}

theorem gatherFrom_eq_foldl (h : gatherFrom gathered rules = .ok found) :
    (Rule.named rules).foldl (fun gathered part => gather part.1 part.2 gathered) gathered =
      found := by
  induction rules generalizing gathered with
  | nil => exact Except.ok.inj h
  | cons rule rest ih =>
    unfold gatherFrom at h
    split at h
    · cases h
    · split at h
      · rename_i name hname
        simpa [Rule.named, hname] using ih h
      · rename_i hname
        simpa [Rule.named, hname] using ih h

theorem gatherFrom_keeps {P : Entries Style → Prop} (h : P gathered)
    (hgather : ∀ gathered, P gathered → ∀ (rule : Rule) (name : String),
      P (gather name rule.style gathered)) (hf : gatherFrom gathered rules = .ok found) :
    P found := by
  rw [← gatherFrom_eq_foldl hf]
  refine List.foldlRecOn _ _ h ?_
  intro gathered hgathered part hpart
  obtain ⟨rule, -, hstyle⟩ := Rule.exists_of_mem_named hpart
  rw [← hstyle]
  exact hgather gathered hgathered rule part.1

end Rulebook

end UtilityStyle
