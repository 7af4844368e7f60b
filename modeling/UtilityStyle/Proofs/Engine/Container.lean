import UtilityStyle.Proofs.Engine.Success
import UtilityStyle.Proofs.Utility.Unscreened

/-!
The blocks of the container. A screen with a least width puts its block under the media query for
that width, in place of what stood there. So screens of one width have one block, at the place of
the first of them and with the padding and margin of the last.
-/

namespace UtilityStyle

namespace Style

theorem get?_merge_of_new {style more : Style} {key : String} (hmore : more.keys.Nodup)
    (hnew : style.get? key = none) : (style.merge more).get? key = more.get? key := by
  obtain ⟨fields⟩ := style
  obtain ⟨more⟩ := more
  simp only [get?, keys, merge] at hmore hnew ⊢
  induction more generalizing fields with
  | nil => exact hnew
  | cons entry rest ih =>
    obtain ⟨first, value⟩ := entry
    obtain ⟨hfirst, hrest⟩ := List.nodup_cons.1 hmore
    rw [mergeFields_cons]
    by_cases hk : first = key
    · subst hk
      have hvalue : mergeValue none value = value := by cases value <;> rfl
      rw [get?_mergeFields_of_none (Entries.get?_eq_none_iff.2 hfirst), Entries.get?_put_self, hnew,
        hvalue, Entries.get?, if_pos rfl]
    · rw [ih _ ((Entries.get?_put_of_ne (Ne.symm hk) _ _).trans hnew) hrest, Entries.get?,
        if_neg hk]

end Style

namespace Container

inductive Side
  | left
  | right
  deriving DecidableEq

def Side.name : Side → String
  | .left => "Left"
  | .right => "Right"

def Side.item (side : Side) : Json → Json
  | .array items =>
    match side with
    | .left => items[0]?.getD .null
    | .right => items[1]?.getD .null
  | value => value

def Side.item? (side : Side) (value : Json) : Option Json :=
  if side.item value = .null then none else some (side.item value)

inductive Spacing
  | padding
  | margin
  deriving DecidableEq

def Spacing.name : Spacing → String
  | .padding => "padding"
  | .margin => "margin"

def Spacing.values? (s : Settings) : Spacing → Option Json
  | .padding => s.padding
  | .margin => if s.centered then none else s.margin

def property (spacing : Spacing) (side : Side) : String := spacing.name ++ side.name

def given? (s : Settings) (spacing : Spacing) (side : Side) (screen : String) : Option Json :=
  ((spacing.values? s).bind (·.member? screen)).bind fun value =>
    if isVoid value then none else side.item? value

def widths (theme : Theme) : List (String × String) :=
  theme.screens.filterMap fun (name, screen) =>
    (Screen.minWidth? screen).map fun width => (name, width)

def screensOf (theme : Theme) (width : String) : List String :=
  ((widths theme).filter (·.2 = width)).map Prod.fst

/-- The last value that a screen of the width has for one side. -/
def lastGiven? (theme : Theme) (width : String) (spacing : Spacing) (side : Side) : Option Json :=
  ((screensOf theme width).filterMap (given? (settings theme) spacing side)).getLast?

def blockKey (width : String) : String := Screen.media ("(min-width: " ++ width ++ ")")

def blocks (theme : Theme) : Fields :=
  (widths theme).map fun (name, width) =>
    (blockKey width, (onScreen (settings theme) name width).value)

variable {s : Settings} {theme : Theme} {screen width key : String} {start more : Style}
  {more? : Option Style} {spacing other : Spacing} {side : Side}

theorem blockKey_inj {a b : String} : blockKey a = blockKey b ↔ a = b := by
  simp [blockKey, Screen.media, String.append_right_inj, String.append_left_inj]

theorem property_ne (h : other ≠ spacing) (first second : Side) :
    property other first ≠ property spacing second := by
  cases other <;> cases spacing <;> cases first <;> cases second <;> revert h <;> decide

theorem property_ne_maxWidth (spacing : Spacing) (side : Side) :
    property spacing side ≠ "maxWidth" := by
  cases spacing <;> cases side <;> decide

theorem not_isMedia_property (spacing : Spacing) (side : Side) :
    ¬Screen.IsMedia (property spacing side) := by
  cases spacing <;> cases side <;> decide

/-! ### Settings for one screen -/

theorem get?_side (property key : String) (value : Json) (start : Style) :
    (Container.side property value start).get? key =
      if key = property ∧ value ≠ .null then some value else start.get? key := by
  unfold Container.side
  by_cases hv : value = .null
  · simp [hv]
  · by_cases hk : key = property <;> simp [hv, hk]

theorem nodup_keys_side (h : start.keys.Nodup) (property : String) (value : Json) :
    (Container.side property value start).keys.Nodup := by
  unfold Container.side
  split
  · exact h
  · exact Entries.nodup_keys_put h property value

theorem unscreened_side (h : start.Unscreened) {property : String}
    (hproperty : ¬Screen.IsMedia property) (value : Json) :
    (Container.side property value start).Unscreened := by
  unfold Container.side
  split
  · exact h
  · exact h.put hproperty value

theorem gutters_eq (spacing : Spacing) (value : Json) :
    gutters spacing.name value =
      Container.side (property spacing .right) (Side.right.item value)
        (Container.side (property spacing .left) (Side.left.item value) .empty) := by
  cases value <;> rfl

theorem nodup_keys_gutters (spacing : Spacing) (value : Json) :
    (gutters spacing.name value).keys.Nodup := by
  have hempty : Style.empty.keys.Nodup := List.nodup_nil
  rw [gutters_eq]
  exact nodup_keys_side (nodup_keys_side hempty _ _) _ _

theorem unscreened_gutters (spacing : Spacing) (value : Json) :
    (gutters spacing.name value).Unscreened := by
  rw [gutters_eq]
  exact unscreened_side (unscreened_side Style.unscreened_empty (not_isMedia_property _ _) _)
    (not_isMedia_property _ _) _

theorem get?_gutters (spacing : Spacing) (side : Side) (value : Json) :
    (gutters spacing.name value).get? (property spacing side) = side.item? value := by
  have hempty : ∀ key, Style.empty.get? key = none := fun _ => rfl
  have hne : property spacing .left ≠ property spacing .right := by
    cases spacing <;> decide
  rw [gutters_eq, get?_side, get?_side, hempty]
  cases side <;> simp [hne, hne.symm, Side.item?]

theorem get?_gutters_of_ne (h : ∀ side, key ≠ property spacing side) (value : Json) :
    (gutters spacing.name value).get? key = none := by
  rw [gutters_eq, get?_side, get?_side, if_neg fun hk => h _ hk.1, if_neg fun hk => h _ hk.1]
  rfl

theorem forScreen?_eq (kind screen : String) (values : Json) :
    forScreen? kind screen values =
      (values.member? screen).bind fun value =>
        if isVoid value then none else some (gutters kind value) := by
  unfold forScreen?
  cases values.member? screen <;> rfl

theorem exists_of_forScreen? {kind : String} {values : Json}
    (h : forScreen? kind screen values = some more) : ∃ value, gutters kind value = more := by
  rw [forScreen?_eq, Option.bind_eq_some_iff] at h
  obtain ⟨value, -, h⟩ := h
  split at h
  · cases h
  · exact ⟨value, Option.some.inj h⟩

theorem exists_of_everywhere? {kind : String} {values : Json}
    (h : everywhere? kind values = some more) : ∃ value, gutters kind value = more := by
  unfold everywhere? at h
  split at h
  · exact ⟨_, Option.some.inj h⟩
  · exact exists_of_forScreen? h
  · split at h
    · cases h
    · exact ⟨_, Option.some.inj h⟩

/-! ### The block of one screen -/

def spaced? (s : Settings) (spacing : Spacing) (screen : String) : Option Style :=
  (spacing.values? s).bind (forScreen? spacing.name screen)

theorem exists_of_spaced? (h : spaced? s spacing screen = some more) :
    ∃ value, gutters spacing.name value = more := by
  obtain ⟨values, -, h⟩ := Option.bind_eq_some_iff.1 h
  exact exists_of_forScreen? h

theorem nodup_keys_of_spaced? (h : spaced? s spacing screen = some more) : more.keys.Nodup := by
  obtain ⟨value, rfl⟩ := exists_of_spaced? h
  exact nodup_keys_gutters spacing value

theorem get?_spaced? (s : Settings) (spacing : Spacing) (side : Side) (screen : String) :
    ((spaced? s spacing screen).bind fun more => more.get? (property spacing side)) =
      given? s spacing side screen := by
  unfold spaced? given?
  rw [Option.bind_assoc, Option.bind_assoc]
  congr 1
  funext values
  rw [forScreen?_eq, Option.bind_assoc]
  congr 1
  funext value
  split
  · rfl
  · exact get?_gutters spacing side value

theorem get?_spaced?_of_ne (h : ∀ side, key ≠ property spacing side) :
    ((spaced? s spacing screen).bind fun more => more.get? key) = none := by
  rw [Option.bind_eq_none_iff]
  intro more hmore
  obtain ⟨value, rfl⟩ := exists_of_spaced? hmore
  exact get?_gutters_of_ne h value

theorem get?_add_of_new (hmore : ∀ more, more? = some more → more.keys.Nodup)
    (hnew : start.get? key = none) :
    (add start more?).get? key = more?.bind fun more => more.get? key := by
  cases more? with
  | none => exact hnew
  | some more => exact Style.get?_merge_of_new (hmore more rfl) hnew

theorem get?_add_of_none (h : (more?.bind fun more => more.get? key) = none) :
    (add start more?).get? key = start.get? key := by
  cases more? with
  | none => rfl
  | some more => exact Style.get?_mergeFields_of_none h start.fields

theorem onScreen_eq (s : Settings) (screen width : String) :
    onScreen s screen width =
      add (add (.one "maxWidth" width) (spaced? s .padding screen)) (spaced? s .margin screen) := by
  unfold onScreen spaced? Spacing.values?
  cases s.centered <;> rfl

theorem get?_maxWidth_onScreen (s : Settings) (screen width : String) :
    (onScreen s screen width).get? "maxWidth" = some (.string width) := by
  have hnone : ∀ spacing : Spacing,
      ((spaced? s spacing screen).bind fun more => more.get? "maxWidth") = none :=
    fun spacing => get?_spaced?_of_ne fun side => (property_ne_maxWidth spacing side).symm
  rw [onScreen_eq, get?_add_of_none (hnone .margin), get?_add_of_none (hnone .padding)]
  exact Style.get?_put_self _ _ _

theorem get?_property_onScreen (s : Settings) (screen width : String) (spacing : Spacing)
    (side : Side) :
    (onScreen s screen width).get? (property spacing side) = given? s spacing side screen := by
  have hnew : (Style.one "maxWidth" width).get? (property spacing side) = none :=
    Style.get?_put_of_ne (property_ne_maxWidth spacing side) _ _
  rw [onScreen_eq, ← get?_spaced?]
  cases spacing with
  | padding =>
    rw [get?_add_of_none (get?_spaced?_of_ne (property_ne (by decide) side)),
      get?_add_of_new (fun _ => nodup_keys_of_spaced?) hnew]
  | margin =>
    apply get?_add_of_new fun _ => nodup_keys_of_spaced?
    rw [get?_add_of_none (get?_spaced?_of_ne (property_ne (by decide) side)), hnew]

/-! ### All blocks -/

theorem unscreened_add (h : start.Unscreened)
    (hmore : ∀ more, more? = some more → ∃ (spacing : Spacing) (value : Json),
      gutters spacing.name value = more) : (add start more?).Unscreened := by
  cases more? with
  | none => exact h
  | some more =>
    obtain ⟨spacing, value, rfl⟩ := hmore more rfl
    exact h.merge (unscreened_gutters spacing value)

theorem unscreened_base (s : Settings) : (base s).Unscreened := by
  have hmore : ∀ (spacing : Spacing) (values? : Option Json) (more : Style),
      values?.bind (everywhere? spacing.name) = some more →
        ∃ (spacing : Spacing) (value : Json), gutters spacing.name value = more := by
    intro spacing values? more h
    obtain ⟨values, -, h⟩ := Option.bind_eq_some_iff.1 h
    exact ⟨spacing, exists_of_everywhere? h⟩
  have hwidth : (Style.one "width" "100%").Unscreened := by decide
  have hpadded := unscreened_add hwidth (hmore .padding s.padding)
  unfold base
  split
  · exact (hpadded.put (not_isMedia_property .margin .left) _).put
      (not_isMedia_property .margin .right) _
  · exact unscreened_add hpadded (hmore .margin s.margin)

theorem style_eq (theme : Theme) :
    style theme = ⟨Entries.putAll (base (settings theme)).fields (blocks theme)⟩ := by
  unfold style blocks widths
  dsimp only
  generalize base (settings theme) = start
  induction theme.screens generalizing start with
  | nil => rfl
  | cons entry rest ih =>
    rw [List.foldl_cons, ih]
    unfold addScreen
    cases hwidth : Screen.minWidth? entry.2 with
    | none => simp [hwidth]
    | some width => simp [hwidth, Entries.putAll, Style.putNested, Style.put, blockKey]

theorem isMedia_of_mem_blocks (h : key ∈ Entries.keys (blocks theme)) : Screen.IsMedia key := by
  simp only [blocks, Entries.keys, List.map_map, List.mem_map, Function.comp] at h
  obtain ⟨entry, -, rfl⟩ := h
  exact Screen.isMedia_media _

theorem filter_isMedia_keys_style (theme : Theme) :
    (style theme).keys.filter Screen.IsMedia =
      ((widths theme).map fun screen => blockKey screen.2).eraseDups := by
  have hbase : (Entries.keys (base (settings theme)).fields).filter Screen.IsMedia = [] :=
    List.filter_eq_nil_iff.2 fun key hkey => by
      simpa using unscreened_base (settings theme) key hkey
  have hnew : (Entries.keys (blocks theme)).filter
      (· ∉ Entries.keys (base (settings theme)).fields) = Entries.keys (blocks theme) :=
    List.filter_eq_self.2 fun key hkey => by
      have hold : key ∉ Entries.keys (base (settings theme)).fields := fun hold =>
        unscreened_base (settings theme) key hold (isMedia_of_mem_blocks hkey)
      simpa using hold
  have hmedia : (Entries.keys (blocks theme)).eraseDups.filter Screen.IsMedia =
      (Entries.keys (blocks theme)).eraseDups :=
    List.filter_eq_self.2 fun key hkey => by
      simpa using isMedia_of_mem_blocks (List.mem_eraseDups.1 hkey)
  rw [style_eq, Style.keys, Entries.keys_putAll, hnew, List.filter_append, hbase, hmedia,
    List.nil_append]
  simp [blocks, Entries.keys, Function.comp_def]

theorem nested?_blockKey_style (theme : Theme) (width : String) :
    (style theme).nested? (blockKey width) =
      (screensOf theme width).getLast?.map fun name => onScreen (settings theme) name width := by
  have hbase : Entries.get? (blockKey width) (base (settings theme)).fields = none := by
    rw [Entries.get?_eq_none_iff]
    exact fun h => unscreened_base (settings theme) _ h (Screen.isMedia_media _)
  have hblocks : (blocks theme).filter (·.1 = blockKey width) =
      ((widths theme).filter (·.2 = width)).map fun (name, width) =>
        (blockKey width, (onScreen (settings theme) name width).value) := by
    rw [blocks, List.filter_map]
    congr 1
    apply List.filter_congr
    intro entry _
    simp [blockKey_inj]
  rw [Style.nested?, Style.get?, style_eq, Entries.get?_putAll_eq_getLast?, hbase, hblocks]
  unfold screensOf
  rw [List.getLast?_map, List.getLast?_map]
  cases hlast : ((widths theme).filter (·.2 = width)).getLast? with
  | none => rfl
  | some entry =>
    have hentry : entry.2 = width := by
      simpa using (List.mem_filter.1 (List.mem_of_getLast? hlast)).2
    subst hentry
    rfl

theorem lastGiven?_eq {earlier : List String} {last : String}
    (h : screensOf theme width = earlier ++ [last]) (spacing : Spacing) (side : Side) :
    lastGiven? theme width spacing side =
      (given? (settings theme) spacing side last).or
        (earlier.filterMap (given? (settings theme) spacing side)).getLast? := by
  rw [lastGiven?, h, List.filterMap_append]
  cases hlast : given? (settings theme) spacing side last <;> simp [hlast]

/-- The last value that is given for a side is lost where an earlier screen gives it and the last
one gives none. -/
theorem kept_iff {earlier : List String} {last : String}
    (h : screensOf theme width = earlier ++ [last]) (spacing : Spacing) (side : Side) :
    (∀ value, lastGiven? theme width spacing side = some value →
        given? (settings theme) spacing side last = some value) ↔
      (given? (settings theme) spacing side last).isSome ∨
        ∀ name ∈ earlier, given? (settings theme) spacing side name = none := by
  rw [lastGiven?_eq h]
  cases hlast : given? (settings theme) spacing side last with
  | some value => simp
  | none =>
    have hnone : (earlier.filterMap (given? (settings theme) spacing side)).getLast? = none ↔
        ∀ name ∈ earlier, given? (settings theme) spacing side name = none := by
      rw [List.getLast?_eq_none_iff, List.filterMap_eq_nil_iff]
    rw [← hnone, Option.eq_none_iff_forall_ne_some]
    simp

end Container

namespace Engine

theorem resolve_container (engine : Engine) :
    engine.resolve "container" = .ok (Container.style engine.theme) := by
  let row : Row := ⟨"container", .family .container⟩
  have hroute : Route.find engine.rules "container" = .family row .container := by
    obtain ⟨hfixed, hrow⟩ := Utility.find_family_key row (by decide) rfl
    rw [← Route.ofRow_of_family rfl]
    exact Route.find_eq_ofRow hfixed hrow
  have hread : Token.read "container" = .ok ⟨[], false, false, "container"⟩ := by decide
  rw [resolve_of_read (by decide) hread rfl (by decide), style_of_family hroute]
  rfl

/-- The container always resolves. It has one block for each width, in the order of the first
screens of the widths, and a block has what the last screen of its width has. So the last value that
is given for a side is kept if the last screen gives one or no screen before it does. -/
theorem container_blocks (engine : Engine) :
    ∃ style, engine.resolve "container" = .ok style ∧
      style.keys.filter Screen.IsMedia =
        ((Container.widths engine.theme).map fun screen =>
          Container.blockKey screen.2).eraseDups ∧
      ∀ width earlier last, Container.screensOf engine.theme width = earlier ++ [last] →
        ∃ block, style.nested? (Container.blockKey width) = some block ∧
          block.get? "maxWidth" = some (.string width) ∧
          ∀ spacing side,
            block.get? (Container.property spacing side) =
              Container.given? (Container.settings engine.theme) spacing side last ∧
            ((∀ value, Container.lastGiven? engine.theme width spacing side = some value →
                block.get? (Container.property spacing side) = some value) ↔
              (Container.given? (Container.settings engine.theme) spacing side last).isSome ∨
                ∀ name ∈ earlier,
                  Container.given? (Container.settings engine.theme) spacing side name = none) := by
  refine ⟨_, resolve_container engine, Container.filter_isMedia_keys_style engine.theme, ?_⟩
  intro width earlier last h
  have hblock := Container.nested?_blockKey_style engine.theme width
  rw [h, List.getLast?_concat, Option.map_some] at hblock
  refine ⟨_, hblock, Container.get?_maxWidth_onScreen _ _ _, ?_⟩
  intro spacing side
  rw [Container.get?_property_onScreen]
  exact ⟨rfl, Container.kept_iff h spacing side⟩

def sharedWidth (name : String) : Engine where
  theme := ⟨[
    ("screens", .object
      [("sm", .string "640px"), ("tablet", .object [("min", .string "640px")])]),
    ("container", .object [("padding", .object [(name, .string "2rem")])])]⟩

theorem container_blocks_shared :
    ∃ style, (sharedWidth "tablet").resolve "container" = .ok style ∧
      style.keys.filter Screen.IsMedia = ["@media (min-width: 640px)"] ∧
      ∃ block, style.nested? "@media (min-width: 640px)" = some block ∧
        block.get? "maxWidth" = some (.string "640px") ∧
        block.get? "paddingLeft" = some (.string "2rem") := by
  obtain ⟨style, hresolve, hkeys, hblocks⟩ := container_blocks (sharedWidth "tablet")
  have hscreens : Container.screensOf (sharedWidth "tablet").theme "640px" =
      ["sm"] ++ ["tablet"] := by
    decide
  obtain ⟨block, hblock, hwidth, hsides⟩ := hblocks "640px" ["sm"] "tablet" hscreens
  have hgiven : Container.given? (Container.settings (sharedWidth "tablet").theme) .padding .left
      "tablet" = some (.string "2rem") := by
    decide
  exact ⟨style, hresolve, hkeys.trans (by decide), block, hblock, hwidth,
    (hsides .padding .left).1.trans hgiven⟩

/-- The padding is given for the first of the two screens, and the block of the second replaces
it. -/
theorem not_container_blocks :
    ¬∀ (engine : Engine) (style : Style), engine.resolve "container" = .ok style →
      style.keys.filter Screen.IsMedia =
        ((Container.widths engine.theme).map fun screen =>
          Container.blockKey screen.2).eraseDups ∧
      ∀ width, Container.screensOf engine.theme width ≠ [] →
        ∃ block, style.nested? (Container.blockKey width) = some block ∧
          block.get? "maxWidth" = some (.string width) ∧
          ∀ spacing side value,
            Container.lastGiven? engine.theme width spacing side = some value →
              block.get? (Container.property spacing side) = some value := by
  intro h
  obtain ⟨-, hblocks⟩ := h (sharedWidth "sm") _ (resolve_container _)
  have hscreens : Container.screensOf (sharedWidth "sm").theme "640px" ≠ [] := by decide
  obtain ⟨block, hblock, -, hsides⟩ := hblocks "640px" hscreens
  have hlast : Container.lastGiven? (sharedWidth "sm").theme "640px" .padding .left =
      some (.string "2rem") := by
    decide
  have hfound : (Container.style (sharedWidth "sm").theme).nested?
      (Container.blockKey "640px") = some (.one "maxWidth" "640px") := by
    decide
  obtain rfl := Option.some.inj (hfound.symm.trans hblock)
  have hnone : (Style.one "maxWidth" "640px").get? (Container.property .padding .left) = none := by
    decide
  cases hnone.symm.trans (hsides .padding .left _ hlast)

end Engine

end UtilityStyle
