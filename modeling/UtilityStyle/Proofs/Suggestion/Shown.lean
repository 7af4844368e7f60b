import UtilityStyle.Proofs.Suggestion.Search
import UtilityStyle.Proofs.Theme.Lookup

/-!
The text that a token is suggested with, and the token that a look-up stops at. A look-up that finds
a value stops at a token of the section, whose path the key leads to, and the value has the text
that the token is suggested with, unless it is a list with a number that is written in two ways.
-/

namespace UtilityStyle

namespace Suggestion

def shown : Json → String
  | .string text => text
  | .number number => number.styled
  | .array items => ", ".intercalate (items.map itemText)
  | .null | .bool _ | .object _ => ""

/-- The numbers of a list are written in the theme as they are in a style. -/
def WritesAlike : Json → Prop
  | .array items => ∀ number, Json.number number ∈ items → number.text = number.styled
  | .null | .bool _ | .number _ | .string _ | .object _ => True

variable {fields : Fields} {key path : String} {value : Json} {found : ThemeValue}

theorem leaves_of_isLeaf (h : Lookup.isLeaf value) : leaves path value = [(path, shown value)] := by
  cases value with
  | string | number | array => simp [leaves, shown]
  | null | bool | object => cases h

theorem mem_fieldLeaves {leaf : String × String} (hmem : (key, value) ∈ fields)
    (hleaf : leaf ∈ leaves (if path.isEmpty then key else path ++ "-" ++ key) value) :
    leaf ∈ fieldLeaves path fields := by
  induction fields with
  | nil => cases hmem
  | cons entry rest ih =>
    unfold fieldLeaves
    rcases List.mem_cons.1 hmem with rfl | hmem
    · exact List.mem_append_left _ hleaf
    · exact List.mem_append_right _ (ih hmem)

theorem mem_fieldLeaves_entry (hmem : (key, value) ∈ fields) (h : Lookup.isLeaf value) :
    (key, shown value) ∈ fieldLeaves "" fields := by
  apply mem_fieldLeaves hmem
  rw [leaves_of_isLeaf h]
  exact List.mem_singleton_self _

theorem mem_fieldLeaves_inner {name : String} {child : Fields}
    (hmem : (name, .object child) ∈ fields) (hinner : (key, value) ∈ child)
    (h : Lookup.isLeaf value) :
    (if name.isEmpty then key else name ++ "-" ++ key, shown value) ∈ fieldLeaves "" fields := by
  apply mem_fieldLeaves hmem
  apply mem_fieldLeaves hinner
  rw [leaves_of_isLeaf h]
  exact List.mem_singleton_self _

theorem mapM_item_eq {items : List Json} {texts : List String}
    (h : items.mapM ThemeValue.item = .ok texts) (halike : WritesAlike (.array items)) :
    texts = items.map itemText := by
  induction items generalizing texts with
  | nil =>
    cases h
    rfl
  | cons item rest ih =>
    rw [List.mapM_cons] at h
    obtain ⟨first, hfirst, h⟩ := Outcome.bind_eq_ok_iff.1 h
    obtain ⟨others, hothers, h⟩ := Outcome.bind_eq_ok_iff.1 h
    obtain rfl := Outcome.pure_eq_ok_iff.1 h
    rw [ih hothers fun number hm => halike number (List.mem_cons_of_mem _ hm), List.map_cons]
    congr 1
    cases item with
    | string text =>
      cases hfirst
      rfl
    | number number =>
      cases hfirst
      exact (halike number List.mem_cons_self).symm
    | null | bool | array | object => cases hfirst

theorem text_ofJson (h : ThemeValue.ofJson value = .ok found) (halike : WritesAlike value) :
    found.text = shown value := by
  cases value with
  | string | number =>
    cases h
    rfl
  | array items =>
    obtain ⟨texts, htexts, rfl⟩ := Outcome.map_eq_ok_iff.1 h
    rw [mapM_item_eq htexts halike]
    rfl
  | null | bool | object => cases h

end Suggestion

namespace Lookup

variable {fields : Fields} {key : String} {value : Json}

inductive Leads : String → String → Prop
  | bare : Leads "" "default"
  | entry (key : String) : Leads key key
  | default (key : String) : Leads key (key ++ "-default")
  /-- The sign of the key is dropped where it is cut. -/
  | inside (key : String) : Leads key (unsigned key)
  /-- Objects without a name add nothing to a path, but a dash to a key. -/
  | unnamed {key path : String} : unsigned key = "-" ++ path → Leads key path

theorem exists_leads_of_named? (h : named? key fields = some value) (hleaf : isLeaf value) :
    ∃ path, Leads key path ∧
      (path, Suggestion.shown value) ∈ Suggestion.fieldLeaves "" fields := by
  unfold named? at h
  by_cases hkey : key.isEmpty
  · rw [if_pos hkey] at h
    obtain rfl := String.isEmpty_iff.1 hkey
    obtain ⟨hdefault, -⟩ := default?_eq_some_iff.1 h
    exact ⟨"default", .bare,
      Suggestion.mem_fieldLeaves_entry (Entries.mem_of_get?_eq_some hdefault) hleaf⟩
  · rw [if_neg hkey] at h
    cases hg : Entries.get? key fields with
    | none => simp [hg] at h
    | some own =>
      have hmem := Entries.mem_of_get?_eq_some hg
      rw [hg] at h
      cases own with
      | object child =>
        obtain ⟨hdefault, -⟩ := default?_eq_some_iff.1 h
        have hinner := Suggestion.mem_fieldLeaves_inner hmem
          (Entries.mem_of_get?_eq_some hdefault) hleaf
        rw [if_neg hkey, String.append_assoc] at hinner
        exact ⟨key ++ "-default", .default key, hinner⟩
      | string | number | array =>
        cases h
        exact ⟨key, .entry key, Suggestion.mem_fieldLeaves_entry hmem hleaf⟩
      | null | bool => cases h

theorem exists_leads_of_inChild? (h : inChild? (unsigned key) fields = some value)
    (hleaf : isLeaf value) :
    ∃ path, Leads key path ∧
      (path, Suggestion.shown value) ∈ Suggestion.fieldLeaves "" fields := by
  obtain ⟨name, child, hmem, he⟩ := exists_of_inChild? h
  obtain ⟨rest, -, hkey, hget, -⟩ := entry?_eq_some_iff.1 he
  have hinner := Suggestion.mem_fieldLeaves_inner hmem (Entries.mem_of_get?_eq_some hget) hleaf
  by_cases hname : name.isEmpty
  · rw [if_pos hname] at hinner
    rw [String.isEmpty_iff.1 hname, String.empty_append] at hkey
    exact ⟨rest, .unnamed hkey, hinner⟩
  · rw [if_neg hname, ← hkey] at hinner
    exact ⟨unsigned key, .inside key, hinner⟩

theorem exists_leads_of_stop? (h : stop? key fields = some value) (hleaf : isLeaf value) :
    ∃ path, Leads key path ∧
      (path, Suggestion.shown value) ∈ Suggestion.fieldLeaves "" fields := by
  rcases Option.or_eq_some_iff.1 h with hnamed | ⟨-, hinner⟩
  · exact exists_leads_of_named? hnamed hleaf
  · exact exists_leads_of_inChild? hinner hleaf

end Lookup

structure Theme.Stops (theme : Theme) (source key path : String) (value : Json) : Prop where
  leads : Lookup.Leads key path
  stop : ∃ fields, theme.section? source = some (.object fields) ∧
    Lookup.stop? key fields = some value ∧
    (path, Suggestion.shown value) ∈ Suggestion.fieldLeaves "" fields

variable {theme : Theme} {source key path : String} {value : Json}

theorem Theme.exists_stops {found : ThemeValue} (h : theme.resolve source key = .ok (some found)) :
    ∃ path value, theme.Stops source key path value ∧ ThemeValue.ofJson value = .ok found := by
  unfold resolve lookup at h
  split at h
  · rename_i fields hfields
    obtain ⟨value, hstop, -, hfound⟩ := Lookup.inFields_eq_ok_some_iff.1 h
    obtain ⟨path, hleads, hmem⟩ :=
      Lookup.exists_leads_of_stop? hstop (Lookup.isLeaf_of_ofJson hfound)
    exact ⟨path, value, ⟨hleads, fields, hfields, hstop, hmem⟩, hfound⟩
  · cases h

namespace Suggestion

variable {query : Query} {target : String}

def offers (theme : Theme) (query : Query) (target : String) : List Suggestion :=
  ((matching theme query).map (candidate query)).filter (·.target = target)

/-- The text that is shown with a target is that of the first of the best of its offers. -/
def Shows (theme : Theme) (query : Query) (target text : String) : Prop :=
  ∃ best, IsBest (offers theme query target) best ∧ best.value = text

theorem Shows.unique {text other : String} (h : Shows theme query target text)
    (h' : Shows theme query target other) : text = other := by
  obtain ⟨best, hbest, rfl⟩ := h
  obtain ⟨second, hsecond, rfl⟩ := h'
  rw [hbest.unique ((rated_map_candidate query _).filter _) hsecond]

theorem shows_of_mem_candidates {s : Suggestion} (hs : s ∈ candidates theme query) :
    Shows theme query s.target s.value :=
  ⟨s, (chosen_candidates theme query).best s hs, rfl⟩

theorem shows_of_mem_ranked {list : List Suggestion} {s : Suggestion}
    (h : fromTheme theme query = .ranked list) (hs : s ∈ list) :
    Shows theme query s.target s.value := by
  rcases (settled_fromTheme theme query).ranks list h with hranks | ⟨-, rfl⟩
  · have htie : s ∈ list.filter (·.rating = s.rating) := List.mem_filter.2 ⟨hs, by simp⟩
    exact shows_of_mem_candidates (List.mem_filter.1 ((hranks.ties s.rating).subset htie)).1
  · obtain ⟨t, ht, rfl⟩ := List.mem_map.1 hs
    have hshows := shows_of_mem_candidates (List.mem_of_mem_take ht)
    exact hshows

/-- The token at a path is offered for the target, and nothing else with another text. -/
structure Sole (theme : Theme) (query : Query) (target source path : String) : Prop where
  searched : source ∈ query.sections
  sign : isNegativePath path = query.negative
  target_eq : targetOf query.key path = target
  agree : ∀ a ∈ offers theme query target, ∀ b ∈ offers theme query target, a.value = b.value

theorem Sole.shows {text : String} (h : Sole theme query target source path)
    (hstops : theme.Stops source key path value) (hshows : Shows theme query target text) :
    text = shown value := by
  obtain ⟨fields, hfields, -, hmem⟩ := hstops.stop
  obtain ⟨best, hbest, rfl⟩ := hshows
  have hleaf : (path, shown value) ∈ matching theme query := by
    refine List.mem_filter.2 ⟨List.mem_flatMap.2 ⟨source, h.searched, ?_⟩, decide_eq_true h.sign⟩
    rw [hfields]
    exact hmem
  have hoffer : candidate query (path, shown value) ∈ offers theme query target :=
    List.mem_filter.2 ⟨List.mem_map_of_mem hleaf, decide_eq_true h.target_eq⟩
  exact h.agree best hbest.mem _ hoffer

end Suggestion

end UtilityStyle
