import Mathlib.Data.List.Nodup
import UtilityStyle.Proofs.Outcome
import UtilityStyle.Proofs.Theme.Derived
import UtilityStyle.Proofs.Theme.Overlay

namespace UtilityStyle

namespace Theme

def Extends (fields extension : Fields) : Prop :=
  (Entries.get? "extend" fields = none ∨ Entries.get? "extend" fields = some .null) ∧
      extension = [] ∨
    Entries.get? "extend" fields = some (.object extension)

def byDefault (theme : Theme) (name : String) : Json :=
  match Entries.get? name builtinSections with
  | some tokens => tokens.value theme.sections
  | none => .object []

def base (fields : Fields) (theme : Theme) (name : String) : Json :=
  (Entries.get? name fields).getD (theme.byDefault name)

def origin? (name : String) : Option String :=
  (Entries.get? name builtinSections).bind Tokens.base?

def DerivedFrom (source name : String) : Prop :=
  origin? name = some source ∨
    ∃ border ∈ ["borderColor", "borderOpacity", "borderWidth"],
      origin? name = some border ∧ origin? border = some source

instance (source name : String) : Decidable (DerivedFrom source name) :=
  inferInstanceAs (Decidable (_ ∨ ∃ border ∈ _, _))

theorem byDefault_congr {a b : Theme} {name : String}
    (h : ∀ base, origin? name = some base → a.section? base = b.section? base) :
    a.byDefault name = b.byDefault name := by
  unfold byDefault
  cases htokens : Entries.get? name builtinSections with
  | none => rfl
  | some tokens =>
    apply Tokens.value_congr
    intro base hb
    apply h
    rw [origin?, htokens, Option.bind_some]
    exact hb

/-- A section that follows one which follows another follows a section for borders, and the last of
them follows none. -/
theorem origins_end : ∀ entry ∈ builtinSections, ∀ base ∈ entry.2.base?, ∀ root ∈ origin? base,
    base ∈ ["borderColor", "borderOpacity", "borderWidth"] ∧ origin? root = none := by
  decide

namespace Overrides

theorem ofFields_eq_ok_iff {fields : Fields} {overrides : Overrides} :
    ofFields fields = .ok overrides ↔
      ∃ extension, Extends fields extension ∧ ⟨fields, extension⟩ = overrides := by
  unfold ofFields Extends
  generalize Entries.get? "extend" fields = found
  rcases found with _ | _ | _ | _ | _ | _ | extension <;> simp

variable (overrides : Overrides) (name : String)

theorem keys_addNamed (names : List String) (resolved : Fields) :
    Entries.keys (overrides.addNamed names resolved) =
      Entries.keys resolved ++ (names.filter (· ∉ Entries.keys resolved)).eraseDups := by
  have hstep : ∀ (resolved : Fields) (custom : String),
      Entries.keys (if Entries.has custom resolved then resolved
        else Entries.put custom (overrides.settle custom (.object [])) resolved) =
      if custom ∈ Entries.keys resolved then Entries.keys resolved
        else Entries.keys resolved ++ [custom] := by
    intro resolved custom
    by_cases hm : custom ∈ Entries.keys resolved
    · rw [if_pos (Entries.has_iff_mem_keys.2 hm), if_pos hm]
    · rw [if_neg (mt Entries.has_iff_mem_keys.1 hm), Entries.keys_put]
  rw [addNamed, Entries.keys_foldl hstep, List.map_id']

theorem keys_theme :
    Entries.keys overrides.theme.sections =
      Entries.keys builtinSections ++
        (overrides.names.filter (· ∉ Entries.keys builtinSections)).eraseDups := by
  have hbuiltin : Entries.keys (settleAll overrides.settle builtinSections) =
      Entries.keys builtinSections := by
    rw [settleAll_eq_settleFrom,
      keys_settleFrom basesFirst_builtinSections (by simp [Entries.keys])]
    rfl
  change Entries.keys (overrides.addCustom _) = _
  rw [addCustom_eq_addNamed, keys_addNamed, hbuiltin]

theorem mem_names :
    name ∈ overrides.names ↔ name ≠ "extend" ∧
      (name ∈ Entries.keys overrides.sections ∨ name ∈ Entries.keys overrides.extension) := by
  unfold names
  rw [List.mem_filter, List.mem_append, and_comm, decide_eq_true_eq]

theorem mem_keys_theme :
    name ∈ Entries.keys overrides.theme.sections ↔
      name ∈ Entries.keys builtinSections ∨ name ∈ overrides.names := by
  rw [keys_theme, List.mem_append, List.mem_eraseDups, List.mem_filter]
  by_cases hm : name ∈ Entries.keys builtinSections <;> simp [hm]

theorem nodup_keys_theme : (Entries.keys overrides.theme.sections).Nodup := by
  rw [keys_theme, List.nodup_append]
  refine ⟨nodup_of_basesFirst basesFirst_builtinSections, Entries.nodup_eraseDups _, ?_⟩
  rintro name hbuiltin _ hcustom rfl
  simp [List.mem_eraseDups, hbuiltin] at hcustom

theorem comesTo_byDefault {entry : String × Tokens} (h : entry ∈ builtinSections) :
    entry.2.ComesTo overrides.theme.sections (overrides.theme.byDefault entry.1) := by
  have hget : Entries.get? entry.1 builtinSections = some entry.2 :=
    Entries.get?_eq_some_of_mem (nodup_of_basesFirst basesFirst_builtinSections) h
  rw [byDefault, hget]
  apply Tokens.comesTo_value
  intro base hb
  have hbase := base_mem_builtinSections entry h
  rw [Option.all_eq_true] at hbase
  obtain ⟨found, hfound, rfl⟩ := List.mem_map.1 (of_decide_eq_true (hbase base hb))
  have hsection := overrides.section?_theme hfound
  exact Option.isSome_iff_exists.2 ⟨_, hsection⟩

theorem section?_eq :
    overrides.theme.section? name =
      if name ∈ Entries.keys overrides.theme.sections then
        some (overrides.settle name (overrides.theme.byDefault name))
      else none := by
  by_cases hkey : name ∈ Entries.keys overrides.theme.sections
  · rw [if_pos hkey]
    unfold byDefault
    cases htokens : Entries.get? name builtinSections with
    | some tokens => exact overrides.section?_theme (Entries.mem_of_get?_eq_some htokens)
    | none =>
      have hnew : name ∉ Entries.keys builtinSections := Entries.get?_eq_none_iff.1 htokens
      have hcustom := (overrides.mem_keys_theme name).1 hkey
      change Entries.get? name (overrides.addCustom _) = _
      rw [addCustom_eq_addNamed, get?_addNamed, settleAll_eq_settleFrom,
        get?_settleFrom_of_not_mem hnew, if_pos (hcustom.resolve_left hnew)]
      rfl
  · rw [if_neg hkey]
    exact Entries.get?_eq_none_iff.2 hkey

theorem settle_eq (builtin : Json) :
    overrides.settle name builtin =
      (Entries.get? name overrides.extension).elim
        ((Entries.get? name overrides.sections).getD builtin)
        ((Entries.get? name overrides.sections).getD builtin).overlay := by
  unfold settle
  cases Entries.get? name overrides.extension <;> rfl

theorem isSome_section?_iff :
    (overrides.theme.section? name).isSome ↔ name ∈ Entries.keys overrides.theme.sections :=
  Entries.has_iff_mem_keys

theorem extend_not_mem_keys : "extend" ∉ Entries.keys overrides.theme.sections := by
  rw [mem_keys_theme, mem_names, not_or]
  exact ⟨by decide, fun h => h.1 rfl⟩

def ofTheme (theme : Theme) : Overrides := ⟨theme.sections, []⟩

theorem names_ofTheme :
    (ofTheme overrides.theme).names = Entries.keys overrides.theme.sections := by
  change (Entries.keys overrides.theme.sections ++ []).filter _ = _
  rw [List.append_nil, List.filter_eq_self]
  intro name hn
  have hne : name ≠ "extend" := fun e => overrides.extend_not_mem_keys (e ▸ hn)
  simpa using hne

theorem keys_theme_ofTheme :
    Entries.keys (ofTheme overrides.theme).theme.sections =
      Entries.keys overrides.theme.sections := by
  have hbuiltin :
      (Entries.keys builtinSections).filter (· ∉ Entries.keys builtinSections) = [] := by
    simp
  have hcustom : ∀ names : List String,
      (names.filter (· ∉ Entries.keys builtinSections)).eraseDups.filter
          (· ∉ Entries.keys builtinSections) =
        (names.filter (· ∉ Entries.keys builtinSections)).eraseDups := by
    intro names
    rw [List.filter_eq_self]
    intro name hn
    exact (List.mem_filter.1 (List.mem_eraseDups.1 hn)).2
  rw [keys_theme, names_ofTheme, keys_theme, List.filter_append, hbuiltin, hcustom,
    List.nil_append, Entries.eraseDups_eq_self (Entries.nodup_eraseDups _)]

theorem theme_ofTheme : (ofTheme overrides.theme).theme = overrides.theme := by
  apply congrArg Theme.mk
  apply Entries.ext_of_keys_eq overrides.keys_theme_ofTheme
  · exact nodup_keys_theme _
  · intro name
    change (ofTheme overrides.theme).theme.section? name = overrides.theme.section? name
    rw [section?_eq, keys_theme_ofTheme]
    by_cases hkey : name ∈ Entries.keys overrides.theme.sections
    · have hsome := (overrides.isSome_section?_iff name).2 hkey
      obtain ⟨value, hvalue⟩ := Option.isSome_iff_exists.1 hsome
      have hown : Entries.get? name (ofTheme overrides.theme).sections = some value := hvalue
      rw [if_pos hkey, settle_eq, hown, hvalue]
      rfl
    · rw [if_neg hkey]
      exact (Entries.get?_eq_none_iff.2 hkey).symm

variable {a b : Overrides} {name source : String}

def DifferOnlyAt (source : String) (a b : Overrides) : Prop :=
  (∀ name, name ≠ source → name ≠ "extend" →
      Entries.get? name a.sections = Entries.get? name b.sections) ∧
    ∀ name, name ≠ source → Entries.get? name a.extension = Entries.get? name b.extension

theorem DifferOnlyAt.section?_congr (h : DifferOnlyAt source a b) (hne : name ≠ source)
    (ho : ∀ base, origin? name = some base → a.theme.section? base = b.theme.section? base) :
    a.theme.section? name = b.theme.section? name := by
  obtain ⟨hsections, hextension⟩ := h
  by_cases hextend : name = "extend"
  · subst hextend
    rw [section?_eq a, section?_eq b, if_neg a.extend_not_mem_keys, if_neg b.extend_not_mem_keys]
  · have hown := hsections name hne hextend
    have hmore := hextension name hne
    have hkeys : name ∈ Entries.keys a.theme.sections ↔ name ∈ Entries.keys b.theme.sections := by
      rw [mem_keys_theme, mem_keys_theme, mem_names, mem_names]
      simp only [← Entries.has_iff_mem_keys, Entries.has, hown, hmore]
    rw [section?_eq a, section?_eq b, settle_eq, settle_eq, hown, hmore, byDefault_congr ho]
    simp only [hkeys]

theorem DifferOnlyAt.section?_eq_of_not_derived (h : DifferOnlyAt source a b)
    (hne : name ≠ source) (hderived : ¬DerivedFrom source name) :
    a.theme.section? name = b.theme.section? name := by
  apply h.section?_congr hne
  intro base hbase
  have hbase' : base ≠ source := fun e => hderived (.inl (e ▸ hbase))
  apply h.section?_congr hbase'
  intro root hroot
  obtain ⟨tokens, htokens, hfollows⟩ := Option.bind_eq_some_iff.1 hbase
  obtain ⟨hborder, hend⟩ := origins_end _ (Entries.mem_of_get?_eq_some htokens) base hfollows root
    hroot
  -- only the colors of borders follow a section and are followed themselves
  have hroot' : root ≠ source := fun e => hderived (.inr ⟨base, hborder, hbase, e ▸ hroot⟩)
  apply h.section?_congr hroot'
  intro top htop
  rw [hend] at htop
  cases htop

end Overrides

theorem withOverrides_of_extends {fields extension : Fields} (h : Extends fields extension) :
    withOverrides (.object fields) = .ok (Overrides.theme ⟨fields, extension⟩) :=
  Outcome.map_eq_ok_iff.2 ⟨_, Overrides.ofFields_eq_ok_iff.2 ⟨extension, h, rfl⟩, rfl⟩

/-- A user's theme has the built-in sections and those that the user names. Each is what the user
has for it, or else what it is by default in this very theme, with the extension laid over it. By
default a section has its own tokens or follows another one, as that came out in the end. Users who
differ only in one section have themes that differ only there and in what is derived from it. -/
theorem section_equation :
    Json.IsDeepMerge Json.overlay ∧
      (∀ fields extension : Fields, Extends fields extension →
        ∃ theme, withOverrides (.object fields) = .ok theme ∧
          Entries.keys theme.sections = Entries.keys builtinSections ++
            ((Entries.keys fields ++ Entries.keys extension).filter fun name =>
              name ∉ Entries.keys builtinSections ∧ name ≠ "extend").eraseDups ∧
          (∀ name ∈ Entries.keys theme.sections, theme.section? name =
            some ((Entries.get? name extension).elim (base fields theme name)
              (base fields theme name).overlay)) ∧
          ∀ entry ∈ builtinSections, entry.2.ComesTo theme.sections (theme.byDefault entry.1)) ∧
      ∀ (source : String) (a b : Overrides), Extends a.sections a.extension →
        Extends b.sections b.extension → Overrides.DifferOnlyAt source a b →
          ∃ first second, withOverrides (.object a.sections) = .ok first ∧
            withOverrides (.object b.sections) = .ok second ∧
            ∀ name, name ≠ source → ¬DerivedFrom source name →
              first.section? name = second.section? name := by
  refine ⟨Json.isDeepMerge_overlay, ?_, ?_⟩
  · intro fields extension h
    refine ⟨_, withOverrides_of_extends h, ?_, ?_, fun _ => Overrides.comesTo_byDefault _⟩
    · simp only [Overrides.keys_theme, Overrides.names, List.filter_filter, Bool.decide_and]
    · intro name hname
      rw [Overrides.section?_eq, if_pos hname, Overrides.settle_eq]
      rfl
  · intro source a b ha hb h
    exact ⟨_, _, withOverrides_of_extends ha, withOverrides_of_extends hb,
      fun name => h.section?_eq_of_not_derived⟩

def roomy : Overrides :=
  let more : Fields :=
    [("spacing", .object [("8", .string "2rem")]),
      ("animation", .object [("spin", .string "spin")])]
  ⟨[("spacing", .object [("4", .string "1rem")]), ("extend", .object more)], more⟩

def cramped : Overrides :=
  let more : Fields := [("animation", .object [("spin", .string "spin")])]
  ⟨[("extend", .object more)], more⟩

theorem differOnlyAt_roomy : Overrides.DifferOnlyAt "spacing" roomy cramped := by
  constructor
  · intro name hne hextend
    simp [roomy, cramped, Entries.get?, Ne.symm hne, Ne.symm hextend]
  · intro name hne
    simp [roomy, cramped, Entries.get?, Ne.symm hne]

theorem section_equation_roomy :
    (∃ theme, withOverrides (.object roomy.sections) = .ok theme ∧
        theme.section? "spacing" =
          some (.object [("4", .string "1rem"), ("8", .string "2rem")]) ∧
        theme.section? "animation" = some (.object [("spin", .string "spin")]) ∧
        theme.section? "padding" = theme.section? "spacing" ∧
        ∃ margins, theme.section? "margin" = some (.object margins) ∧
          Entries.get? "8" margins = some (.string "2rem") ∧
          Entries.get? "-8" margins = some (.string "-2rem")) ∧
      DerivedFrom "spacing" "margin" ∧ ¬DerivedFrom "spacing" "divideColor" ∧
      ∃ first second, withOverrides (.object roomy.sections) = .ok first ∧
        withOverrides (.object cramped.sections) = .ok second ∧
        first.section? "divideColor" = second.section? "divideColor" := by
  obtain ⟨-, hequation, hdiffer⟩ := section_equation
  have hderived : ¬DerivedFrom "spacing" "divideColor" := by decide
  refine ⟨?_, by decide, hderived, ?_⟩
  · obtain ⟨theme, htheme, hkeys, hsections, hcomes⟩ :=
      hequation roomy.sections roomy.extension (.inr rfl)
    have hthere : ∀ name ∈ ["spacing", "animation", "padding", "margin"],
        name ∈ Entries.keys theme.sections := by
      rw [hkeys]
      decide
    have hspacing : theme.section? "spacing" =
        some (.object [("4", .string "1rem"), ("8", .string "2rem")]) :=
      (hsections "spacing" (hthere _ (by simp))).trans rfl
    have hpadding : theme.section? "padding" = some (theme.byDefault "padding") :=
      (hsections "padding" (hthere _ (by simp))).trans rfl
    have hmargin : theme.section? "margin" = some (theme.byDefault "margin") :=
      (hsections "margin" (hthere _ (by simp))).trans rfl
    have hsame : theme.section? "spacing" = some (theme.byDefault "padding") :=
      hcomes ("padding", .sameAs "spacing") (by simp [builtinSections])
    -- margins follow the spacing that was extended, with a twin for each step
    obtain ⟨followed, margins, hfollowed, hmargins, hnames⟩ :=
      hcomes ("margin", .around (Scale.texts [("auto", "auto")]) "spacing" true [])
        (by simp [builtinSections])
    obtain rfl := Option.some.inj (hspacing.symm.trans hfollowed)
    refine ⟨theme, htheme, hspacing, ?_, hpadding.trans hsame.symm, margins,
      hmargin.trans (congrArg some hmargins), ?_, ?_⟩
    · exact (hsections "animation" (hthere _ (by simp))).trans rfl
    · rw [hnames]
      decide
    · rw [hnames]
      decide
  · obtain ⟨first, second, hfirst, hsecond, hsame⟩ := hdiffer "spacing" roomy cramped
      (.inr rfl) (.inr rfl) differOnlyAt_roomy
    exact ⟨first, second, hfirst, hsecond, hsame "divideColor" (by decide) hderived⟩

/-- A theme that is given as a user's theme stays as it is, in the order of its sections and of what
is in them. -/
theorem withOverrides_value {user : Json} {theme : Theme} (h : withOverrides user = .ok theme) :
    withOverrides theme.value = .ok theme := by
  obtain ⟨overrides, -, rfl⟩ := Outcome.map_eq_ok_iff.1 h
  have hextends : Extends overrides.theme.sections [] :=
    .inl ⟨.inl (Entries.get?_eq_none_iff.2 overrides.extend_not_mem_keys), rfl⟩
  have hfinished := withOverrides_of_extends hextends
  rwa [show Overrides.mk overrides.theme.sections [] = .ofTheme overrides.theme from rfl,
    overrides.theme_ofTheme] at hfinished

theorem withOverrides_value_roomy :
    withOverrides (.object roomy.sections) = .ok roomy.theme ∧
      withOverrides roomy.theme.value = .ok roomy.theme := by
  have hroomy : withOverrides (.object roomy.sections) = .ok roomy.theme :=
    withOverrides_of_extends (.inr rfl)
  exact ⟨hroomy, withOverrides_value hroomy⟩

end Theme

end UtilityStyle
