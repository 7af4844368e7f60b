import UtilityStyle.Theme.Extension

/-!
Sections that are derived from others. They are built after the sections they follow, so that in the
finished theme each is what `Tokens.value` makes of the theme itself: `section?_theme`.
-/

namespace UtilityStyle

def Entries.last? {α : Type} (key : String) (entries : Entries α) : Option α :=
  (entries.filter (·.1 = key)).getLast?.map Prod.snd

namespace Tokens

theorem value_congr {tokens : Tokens} {a b : Fields}
    (h : ∀ base ∈ tokens.base?, Entries.get? base a = Entries.get? base b) :
    tokens.value a = tokens.value b := by
  cases tokens <;> simp_all [base?, value]

/-- What tokens come to among finished sections, name by name. -/
def ComesTo (sections : Fields) (found : Json) : Tokens → Prop
  | .fixed own => found = .object own
  | .sameAs base => Entries.get? base sections = some found
  | .withDefault base text => ∃ followed, Entries.get? base sections = some followed ∧
      (followed.isObject = false → found = followed) ∧
      ∀ fields, followed = .object fields → ∃ own, found = .object own ∧ ∀ key,
        Entries.get? key own =
          if key = "default" then some (.string text) else Entries.get? key fields
  | .around first base twins last => ∃ followed own, Entries.get? base sections = some followed ∧
      found = .object own ∧ ∀ key,
        let fields := followed.fields?.getD []
        let twin? := if twins then Entries.last? key (Scale.negated fields) else none
        Entries.get? key own = (Entries.last? key last).or
          (twin?.or ((Entries.last? key fields).or (Entries.get? key first)))

theorem comesTo_value {tokens : Tokens} {sections : Fields}
    (h : ∀ base ∈ tokens.base?, (Entries.get? base sections).isSome) :
    tokens.ComesTo sections (tokens.value sections) := by
  cases tokens with
  | fixed own => rfl
  | sameAs base =>
    obtain ⟨followed, hfollowed⟩ := Option.isSome_iff_exists.1 (h base rfl)
    simp [ComesTo, value, hfollowed]
  | withDefault base text =>
    obtain ⟨followed, hfollowed⟩ := Option.isSome_iff_exists.1 (h base rfl)
    refine ⟨followed, hfollowed, ?_, ?_⟩
    · intro hobject
      cases followed <;> simp_all [value, Json.isObject]
    · rintro fields rfl
      refine ⟨_, by rw [value, hfollowed]; rfl, fun key => ?_⟩
      by_cases hkey : key = "default"
      · subst hkey
        simp
      · rw [Entries.get?_put_of_ne hkey, if_neg hkey]
  | around first base twins last =>
    obtain ⟨followed, hfollowed⟩ := Option.isSome_iff_exists.1 (h base rfl)
    refine ⟨followed, _, hfollowed, rfl, fun key => ?_⟩
    rw [hfollowed]
    simp only [Entries.get?_putAll_eq_getLast?, Option.bind_some]
    cases twins <;> rfl

end Tokens

namespace Theme

def settleFrom (settle : String → Json → Json) (resolved : Fields)
    (sections : List (String × Tokens)) : Fields :=
  sections.foldl
    (fun resolved (name, tokens) =>
      Entries.put name (settle name (tokens.value resolved)) resolved)
    resolved

theorem settleAll_eq_settleFrom (settle : String → Json → Json)
    (sections : List (String × Tokens)) :
    settleAll settle sections = settleFrom settle [] sections :=
  rfl

/-- No name is known before its section, and each section follows a known one if it follows any. -/
def basesFirst (known : List String) : List (String × Tokens) → Bool
  | [] => true
  | (name, tokens) :: rest =>
    name ∉ known && tokens.base?.all (· ∈ known) && basesFirst (name :: known) rest

variable {settle : String → Json → Json} {known : List String} {sections : List (String × Tokens)}

theorem basesFirst_cons {name : String} {tokens : Tokens} {rest : List (String × Tokens)} :
    basesFirst known ((name, tokens) :: rest) ↔
      name ∉ known ∧ (∀ base ∈ tokens.base?, base ∈ known) ∧ basesFirst (name :: known) rest := by
  cases h : tokens.base? <;> simp [basesFirst, h, and_assoc]

theorem not_mem_of_basesFirst {name : String} (h : basesFirst known sections) (hn : name ∈ known) :
    name ∉ sections.map Prod.fst := by
  induction sections generalizing known with
  | nil => simp
  | cons entry rest ih =>
    obtain ⟨hfresh, -, hrest⟩ := basesFirst_cons.1 h
    rw [List.map_cons, List.mem_cons, not_or]
    exact ⟨fun e => hfresh (e ▸ hn), ih hrest (List.mem_cons_of_mem _ hn)⟩

theorem get?_settleFrom_of_not_mem {name : String} (h : name ∉ sections.map Prod.fst)
    (resolved : Fields) :
    Entries.get? name (settleFrom settle resolved sections) = Entries.get? name resolved := by
  induction sections generalizing resolved with
  | nil => rfl
  | cons entry rest ih =>
    rw [List.map_cons, List.mem_cons, not_or] at h
    exact (ih h.2 _).trans (Entries.get?_put_of_ne h.1 _ _)

theorem get?_settleFrom (h : basesFirst known sections) (resolved : Fields)
    {entry : String × Tokens} (he : entry ∈ sections) :
    Entries.get? entry.1 (settleFrom settle resolved sections) =
      some (settle entry.1 (entry.2.value (settleFrom settle resolved sections))) := by
  induction sections generalizing known resolved with
  | nil => cases he
  | cons first rest ih =>
    obtain ⟨hfresh, hbases, hrest⟩ := basesFirst_cons.1 h
    rcases List.mem_cons.1 he with rfl | he
    · have hkept : ∀ name ∈ entry.1 :: known,
          Entries.get? name (settleFrom settle resolved (entry :: rest)) = Entries.get? name
            (Entries.put entry.1 (settle entry.1 (entry.2.value resolved)) resolved) :=
        fun name hn => get?_settleFrom_of_not_mem (not_mem_of_basesFirst hrest hn) _
      have hvalue : entry.2.value (settleFrom settle resolved (entry :: rest)) =
          entry.2.value resolved := by
        apply Tokens.value_congr
        intro base hb
        have hne : base ≠ entry.1 := fun e => hfresh (e ▸ hbases base hb)
        rw [hkept base (List.mem_cons_of_mem _ (hbases base hb)), Entries.get?_put_of_ne hne]
      rw [hkept entry.1 List.mem_cons_self, Entries.get?_put_self, hvalue]
    · exact ih hrest _ he

theorem keys_settleFrom {resolved : Fields} (h : basesFirst known sections)
    (hknown : ∀ name ∈ Entries.keys resolved, name ∈ known) :
    Entries.keys (settleFrom settle resolved sections) =
      Entries.keys resolved ++ Entries.keys sections := by
  induction sections generalizing known resolved with
  | nil => simp [settleFrom, Entries.keys]
  | cons entry rest ih =>
    obtain ⟨hfresh, -, hrest⟩ := basesFirst_cons.1 h
    have hnew : entry.1 ∉ Entries.keys resolved := fun hm => hfresh (hknown _ hm)
    have hkeys : Entries.keys (Entries.put entry.1
        (settle entry.1 (entry.2.value resolved)) resolved) =
          Entries.keys resolved ++ [entry.1] := by
      rw [Entries.keys_put, if_neg hnew]
    have hmore : ∀ name ∈ Entries.keys resolved ++ [entry.1], name ∈ entry.1 :: known := by
      simpa [or_imp, forall_and] using fun name hn => .inr (hknown name hn)
    change Entries.keys (settleFrom settle (Entries.put entry.1 _ resolved) rest) = _
    rw [ih hrest (hkeys ▸ hmore), hkeys, List.append_assoc]
    rfl

theorem nodup_of_basesFirst (h : basesFirst known sections) :
    (Entries.keys sections).Nodup := by
  induction sections generalizing known with
  | nil => exact List.nodup_nil
  | cons entry rest ih =>
    obtain ⟨-, -, hrest⟩ := basesFirst_cons.1 h
    exact List.nodup_cons.2 ⟨not_mem_of_basesFirst hrest List.mem_cons_self, ih hrest⟩

theorem basesFirst_builtinSections : basesFirst [] builtinSections := by
  decide

theorem base_mem_builtinSections : ∀ entry ∈ builtinSections,
    entry.2.base?.all (· ∈ builtinSections.map Prod.fst) := by
  decide

namespace Overrides

variable (overrides : Overrides)

def addNamed (names : List String) (resolved : Fields) : Fields :=
  names.foldl
    (fun resolved name =>
      if Entries.has name resolved then resolved
      else Entries.put name (overrides.settle name (.object [])) resolved)
    resolved

theorem addCustom_eq_addNamed (resolved : Fields) :
    overrides.addCustom resolved = overrides.addNamed overrides.names resolved :=
  rfl

theorem get?_addNamed (name : String) (names : List String) (resolved : Fields) :
    Entries.get? name (overrides.addNamed names resolved) =
      (Entries.get? name resolved).or
        (if name ∈ names then some (overrides.settle name (.object [])) else none) := by
  induction names generalizing resolved with
  | nil => simp [addNamed]
  | cons custom rest ih =>
    unfold addNamed at ih ⊢
    rw [List.foldl_cons, ih]
    by_cases hname : name = custom
    · subst hname
      cases hget : Entries.get? name resolved with
      | none => simp [Entries.has, hget]
      | some found => simp [Entries.has, hget]
    · split <;> simp [hname]

theorem get?_addCustom {name : String} {resolved : Fields}
    (h : (Entries.get? name resolved).isSome) :
    Entries.get? name (overrides.addCustom resolved) = Entries.get? name resolved := by
  obtain ⟨value, hvalue⟩ := Option.isSome_iff_exists.1 h
  rw [addCustom_eq_addNamed, get?_addNamed, hvalue, Option.some_or]

theorem get?_theme {entry : String × Tokens} (h : entry ∈ builtinSections) :
    Entries.get? entry.1 overrides.theme.sections =
      Entries.get? entry.1 (settleFrom overrides.settle [] builtinSections) := by
  apply get?_addCustom
  rw [settleAll_eq_settleFrom, get?_settleFrom basesFirst_builtinSections [] h]
  rfl

theorem section?_theme {name : String} {tokens : Tokens} (h : (name, tokens) ∈ builtinSections) :
    overrides.theme.section? name =
      some (overrides.settle name (tokens.value overrides.theme.sections)) := by
  have hvalue : tokens.value overrides.theme.sections =
      tokens.value (settleFrom overrides.settle [] builtinSections) := by
    apply Tokens.value_congr
    intro base hb
    have hbase := base_mem_builtinSections _ h
    rw [Option.all_eq_true] at hbase
    obtain ⟨found, hfound, rfl⟩ := List.mem_map.1 (of_decide_eq_true (hbase base hb))
    exact overrides.get?_theme hfound
  have hget := overrides.get?_theme h
  rw [get?_settleFrom basesFirst_builtinSections [] h] at hget
  rw [hvalue]
  exact hget

end Overrides

end Theme

end UtilityStyle
