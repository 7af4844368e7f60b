import Mathlib.Data.List.Basic
import UtilityStyle.Proofs.Engine.Order
import UtilityStyle.Proofs.Engine.Success

namespace UtilityStyle

namespace Theme

def AgreeOn (names : List String) (a b : Theme) : Prop :=
  ∀ name ∈ names, a.section? name = b.section? name

instance (names : List String) (a b : Theme) : Decidable (AgreeOn names a b) :=
  inferInstanceAs (Decidable (∀ name ∈ names, _ = _))

variable {names fewer : List String} {a b : Theme}

theorem AgreeOn.mono (h : AgreeOn names a b) (hf : ∀ name ∈ fewer, name ∈ names) :
    AgreeOn fewer a b :=
  fun name hn => h name (hf name hn)

theorem resolve_congr {name : String} (h : a.section? name = b.section? name) (key : String) :
    a.resolve name key = b.resolve name key := by
  unfold resolve
  rw [h]

theorem has_congr {name : String} (h : a.section? name = b.section? name) :
    a.has name = b.has name := by
  unfold has
  rw [h]

theorem screens_congr (h : a.section? "screens" = b.section? "screens") :
    a.screens = b.screens := by
  unfold screens
  rw [h]

end Theme

variable {a b : Theme}

namespace Variant

theorem find_congr (h : a.section? "screens" = b.section? "screens") (name : String) :
    find a name = find b name := by
  unfold find Screen.query? Theme.screenNames
  rw [Theme.screens_congr h]

theorem keys_congr (h : a.section? "screens" = b.section? "screens") (sassy : Bool)
    (names : List String) : keys a sassy names = keys b sassy names := by
  have hfind : find a = find b := funext (find_congr h)
  unfold keys
  rw [hfind]

end Variant

namespace Suggestion

theorem matching_congr {query : Query} (h : Theme.AgreeOn query.sections a b) :
    matching a query = matching b query := by
  unfold matching
  congr 1
  apply List.flatMap_congr
  intro name hn
  rw [h name hn]

theorem fromTheme_congr {query : Query} (h : Theme.AgreeOn query.sections a b) :
    fromTheme a query = fromTheme b query := by
  unfold fromTheme candidates
  rw [matching_congr h]

theorem search_congr {query? : Option Query}
    (h : ∀ query ∈ query?, Theme.AgreeOn query.sections a b) (className : String) :
    search a className query? = search b className query? := by
  cases query? with
  | none => rfl
  | some query =>
    unfold search
    dsimp only
    rw [fromTheme_congr (h query rfl)]

end Suggestion

theorem Error.noSuchClass_congr {query? : Option Suggestion.Query}
    (h : ∀ query ∈ query?, Theme.AgreeOn query.sections a b) (options : Options) (token : Token) :
    noSuchClass a options token query? = noSuchClass b options token query? := by
  unfold noSuchClass
  rw [Suggestion.search_congr h]

namespace Request

def withTheme (r : Request) (theme : Theme) : Request := { r with theme }

variable {r : Request} {theme : Theme}

theorem notFoundIn_congr {sections : List String} (h : Theme.AgreeOn sections r.theme theme) :
    r.notFoundIn sections = (r.withTheme theme).notFoundIn sections := by
  apply Error.noSuchClass_congr
  rintro _ ⟨⟩
  exact h

theorem opacitySection_congr {own : String} (h : r.theme.section? own = theme.section? own) :
    r.opacitySection own = (r.withTheme theme).opacitySection own := by
  unfold opacitySection withTheme
  rw [Theme.has_congr h]

end Request

namespace Reading

theorem first?_congr {readings : List Reading}
    (h : ∀ reading ∈ readings, a.section? reading.source = b.section? reading.source) :
    first? a readings = first? b readings := by
  induction readings with
  | nil => rfl
  | cons reading rest ih =>
    obtain ⟨hreading, hrest⟩ := List.forall_mem_cons.1 h
    rw [first?_cons, first?_cons, Theme.resolve_congr hreading, ih hrest]

end Reading

theorem Request.read_congr {r : Request} {theme : Theme} {readings : List Reading}
    {searched : List String}
    (h : ∀ reading ∈ readings, r.theme.section? reading.source = theme.section? reading.source)
    (hs : Theme.AgreeOn searched r.theme theme) :
    r.read readings searched = (r.withTheme theme).read readings searched := by
  unfold read
  rw [Reading.first?_congr h, notFoundIn_congr hs]
  rfl

namespace Descriptor

def sections (d : Descriptor) : List String := d.source :: d.fallback.toList

theorem section?_congr {d : Descriptor} (h : Theme.AgreeOn d.sections a b) :
    d.section? a = d.section? b := by
  unfold section?
  rw [h d.source List.mem_cons_self]
  cases hd : d.fallback with
  | none => rfl
  | some fallback =>
    have hf : fallback ∈ d.sections := by simp [sections, hd]
    rw [Option.bind_some, Option.bind_some, h fallback hf]

theorem first?_congr {list : List Descriptor} (h : ∀ d ∈ list, Theme.AgreeOn d.sections a b)
    (key : String) : first? a key list = first? b key list := by
  induction list with
  | nil => rfl
  | cons d rest ih =>
    obtain ⟨hd, hrest⟩ := List.forall_mem_cons.1 h
    unfold first?
    rw [section?_congr hd, ih hrest]

end Descriptor

theorem Row.style_congr {row : Row} (h : ∀ d ∈ row.descriptors, Theme.AgreeOn d.sections a b)
    (options : Options) (token : Token) :
    row.style a options token = row.style b options token := by
  have hmissing : style.missing row a options token = style.missing row b options token := by
    apply Request.notFoundIn_congr
    intro name hn
    obtain ⟨d, hd, rfl⟩ := List.mem_map.1 hn
    exact h d hd d.source List.mem_cons_self
  unfold Row.style
  dsimp only
  rw [Descriptor.first?_congr h, hmissing]

theorem Container.style_congr (hscreens : a.section? "screens" = b.section? "screens")
    (h : a.section? "container" = b.section? "container") : style a = style b := by
  unfold style settings
  rw [Theme.screens_congr hscreens, h]

namespace Family

def sections : Family → List String
  | .container => ["container"]
  | .space => ["space"]
  | .divide =>
    ["divideWidth", "divideOpacity", "opacity", "divideColor", "borderColor", "colors"]
  | .placeholder => ["placeholderOpacity", "opacity", "placeholderColor"]
  | .text => ["textColor", "fontSize"]
  | .bg => ["backgroundColor", "backgroundSize", "backgroundPosition"]
  | .border => ["borderWidth", "borderColor"]

theorem source_mem_sections (member : Family) (r : Request) :
    ∀ reading ∈ member.readings r, reading.source ∈ member.sections := by
  cases member with
  | container => simp [readings]
  | space => simp [readings, Sibling.spaceReadings, sections]
  | divide =>
    unfold readings
    dsimp only
    split
    · simp [Sibling.divideWidthReadings, sections]
    · split
      · simp [Sibling.divideOpacityReadings, Reading.ofSections, sections]
      · simp [Sibling.divideColorReadings, Reading.ofSections, sections]
  | placeholder =>
    unfold readings Paint.placeholderReadings Paint.placeholderOpacityReadings
    dsimp only
    split <;> simp [Reading.ofSections, sections]
  | text => simp [readings, Paint.textReadings, sections]
  | bg => simp [readings, Paint.backgroundReadings, sections]
  | border => simp [readings, Paint.borderReadings, sections]

theorem searched_mem_sections (member : Family) (r : Request) :
    ∀ name ∈ member.searched r, name ∈ member.sections := by
  have hopacity : ∀ own, r.opacitySection own = own ∨ r.opacitySection own = "opacity" := by
    intro own
    unfold Request.opacitySection
    split
    · exact .inl rfl
    · exact .inr rfl
  cases member with
  | container | space | text | bg | border => simp [searched, sections]
  | divide =>
    unfold searched
    dsimp only
    split
    · decide
    · split
      · rcases hopacity "divideOpacity" with h | h <;> rw [h] <;> decide
      · decide
  | placeholder =>
    unfold searched
    dsimp only
    rcases hopacity "placeholderOpacity" with h | h <;> rw [h] <;> decide

theorem searched_congr {member : Family} {r : Request} {theme : Theme}
    (h : Theme.AgreeOn member.sections r.theme theme) :
    member.searched r = member.searched (r.withTheme theme) := by
  cases member with
  | container | space | text | bg | border => rfl
  | divide =>
    unfold searched
    rw [Request.opacitySection_congr (h "divideOpacity" (by decide))]
    rfl
  | placeholder =>
    unfold searched
    rw [Request.opacitySection_congr (h "placeholderOpacity" (by decide))]

theorem style_congr {member : Family} {r : Request} {theme : Theme}
    (hscreens : r.theme.section? "screens" = theme.section? "screens")
    (h : Theme.AgreeOn member.sections r.theme theme) :
    member.style r = member.style (r.withTheme theme) := by
  by_cases hm : member = .container
  · subst hm
    change Container.resolve r = Container.resolve (r.withTheme theme)
    unfold Container.resolve
    rw [Container.style_congr hscreens (h "container" (by decide))]
    rfl
  · have hreadings : member.readings (r.withTheme theme) = member.readings r := by
      cases member <;> rfl
    rw [style_eq_read hm, style_eq_read hm, hreadings, ← searched_congr h,
      Request.read_congr (fun reading hr => h _ (source_mem_sections member r reading hr))
        (h.mono (searched_mem_sections member r))]
    rfl

end Family

namespace Route

def sections : Route → List String
  | .reading row => row.descriptors.flatMap Descriptor.sections
  | .family _ member => member.sections
  | .fixed _ _ | .rule | .unmatched => []

end Route

namespace Engine

theorem style_congr {options : Options} {rules : Rulebook} {token : Token}
    (hscreens : a.section? "screens" = b.section? "screens")
    (h : Theme.AgreeOn (Route.find rules token.className).sections a b) :
    style ⟨a, options, rules⟩ token = style ⟨b, options, rules⟩ token := by
  have hmissing : Error.noSuchClass a options token none = .noSuchClass b options token none :=
    Error.noSuchClass_congr (by simp) options token
  unfold Engine.style
  dsimp only
  cases hfind : Route.find rules token.className with
  | fixed name style => rfl
  | reading row =>
    rw [hfind] at h
    have hrow : ∀ d ∈ row.descriptors, Theme.AgreeOn d.sections a b :=
      fun d hd => h.mono fun name hn => List.mem_flatMap.2 ⟨d, hd, hn⟩
    dsimp only
    rw [Row.style_congr hrow]
  | family row member =>
    rw [hfind] at h
    exact Family.style_congr hscreens h
  | rule =>
    dsimp only
    rw [hmissing]
  | unmatched => rw [hmissing]

/-- A token resolves to the same style under themes that agree on their screens and on the sections
of the row its class is routed to, or fails with the same error and the same suggestions. -/
theorem resolve_eq_of_agreeOn {options : Options} {rules : Rulebook} {raw : String}
    (hscreens : a.section? "screens" = b.section? "screens")
    (hsections : ∀ token, Token.read raw = .ok token →
      ∀ name ∈ (Route.find rules token.className).sections, a.section? name = b.section? name) :
    resolve ⟨a, options, rules⟩ raw = resolve ⟨b, options, rules⟩ raw := by
  unfold resolve keyedStyle
  cases hread : readToken raw with
  | error e => rfl
  | ok token =>
    have hstyle : style ⟨a, options, rules⟩ token = style ⟨b, options, rules⟩ token :=
      style_congr hscreens (hsections token (readToken_eq_ok_iff.1 hread).2)
    dsimp only [bind, Except.bind]
    rw [Variant.keys_congr hscreens, hstyle]

def crowded : Theme :=
  ⟨[("colors", .object [("red", .string "#f00")]), ("padding", .object [("4", .string "1rem")]),
    ("margin", .object [("4", .string "1rem")]),
    ("screens", .object [("sm", .string "640px"), ("md", .string "768px")])]⟩

theorem resolve_eq_of_agreeOn_padding :
    resolve ⟨crowded, {}, .empty⟩ "md:p-4" =
        .ok (.under "@media (min-width: 768px)" (.one "padding" "1rem")) ∧
      resolve ⟨twoScreens.theme, {}, .empty⟩ "md:p-5" = resolve ⟨crowded, {}, .empty⟩ "md:p-5" ∧
      twoScreens.theme.section? "margin" ≠ crowded.section? "margin" := by
  have hscreens : twoScreens.theme.section? "screens" = crowded.section? "screens" := by decide
  have hagree : ∀ name ∈ ["padding"], twoScreens.theme.section? name = crowded.section? name := by
    decide
  have hfour : Token.read "md:p-4" = .ok ⟨["md"], false, false, "p-4"⟩ := by decide
  have hfive : Token.read "md:p-5" = .ok ⟨["md"], false, false, "p-5"⟩ := by decide
  have hfound : (Route.find .empty "p-4").sections = ["padding"] := by decide
  have hmissed : (Route.find .empty "p-5").sections = ["padding"] := by decide
  have hstyle : resolve ⟨twoScreens.theme, {}, .empty⟩ "md:p-4" =
      .ok (.under "@media (min-width: 768px)" (.one "padding" "1rem")) := by
    decide
  refine ⟨?_, ?_, by decide⟩
  · rw [← hstyle]
    refine (resolve_eq_of_agreeOn hscreens ?_).symm
    intro token hread
    obtain rfl := Except.ok.inj (hfour.symm.trans hread)
    rwa [hfound]
  · apply resolve_eq_of_agreeOn hscreens
    intro token hread
    obtain rfl := Except.ok.inj (hfive.symm.trans hread)
    rwa [hmissed]

end Engine

end UtilityStyle
