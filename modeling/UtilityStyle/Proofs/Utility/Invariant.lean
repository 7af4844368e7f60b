import UtilityStyle.Proofs.Family
import UtilityStyle.Proofs.Screen
import UtilityStyle.Proofs.Style.Scope
import UtilityStyle.Proofs.Utility.Route

namespace UtilityStyle

theorem isScope_of_isMedia {key : String} (h : Screen.IsMedia key) : isScope key = true := by
  obtain ⟨rest, hrest⟩ := h
  rw [isScope, ← hrest]
  rfl

namespace Family

def selector : Family → List String
  | .space | .divide => [Selector.laterSiblings]
  | .placeholder => ["::placeholder"]
  | .container | .text | .bg | .border => []

theorem isScope_selector (member : Family) :
    ∀ key ∈ member.selector, isScope key = true ∧ ¬Screen.IsMedia key := by
  cases member <;> decide

end Family

namespace Utility

structure Extensible (P : Style → Prop) : Prop where
  empty : P .empty
  putText {style : Style} {key : String} (hs : P style) (hk : isScope key = false)
    (text : String) : P (style.putText key text)
  putNumber {style : Style} {key : String} (hs : P style) (hk : isScope key = false)
    (number : Number) : P (style.put key (.number number))

structure Invariant (P : Style → Prop) : Prop extends Extensible P where
  under {inner : Style} {member : Family} {key : String} (hi : P inner)
    (hk : key ∈ member.selector) : P (.under key inner)
  markImportant {style : Style} (hs : P style) : P style.markImportant
  fixed : ∀ entry ∈ Utility.fixed, P entry.2

namespace Extensible

variable {P : Style → Prop}

theorem one (hP : Extensible P) {key : String} (hk : isScope key = false) (text : String) :
    P (.one key text) :=
  hP.putText hP.empty hk text

theorem foldl_putText (hP : Extensible P) {text : String} {properties : List String}
    (h : ∀ property ∈ properties, isScope property = false) {style : Style} (hs : P style) :
    P (properties.foldl (fun style property => style.putText property text) style) := by
  induction properties generalizing style with
  | nil => exact hs
  | cons property rest ih =>
    obtain ⟨hproperty, hrest⟩ := List.forall_mem_cons.1 h
    exact ih hrest (hP.putText hs hproperty text)

end Extensible

theorem not_isScope_rows : ∀ row ∈ rows, ∀ d ∈ row.descriptors, ∀ property ∈ d.properties,
    isScope property = false := by
  decide

end Utility

namespace Row

variable {row : Row} {theme : Theme} {options : Options} {token : Token} {style : Style}

theorem exists_style_eq (h : row.style theme options token = .ok style) :
    ∃ d ∈ row.descriptors, ∃ text, style = d.style text := by
  rw [style_eq, Outcome.bind_eq_ok_iff] at h
  obtain ⟨found, hfound, h⟩ := h
  split at h
  · cases h
  · obtain rfl := Except.ok.inj h
    obtain ⟨_, reading, _, value, hreadings, -, -, rfl⟩ :=
      Reading.first?_eq_ok_some_iff.1 (Request.read_eq_ok_iff.1 hfound)
    have hreading : reading ∈ row.readings theme token := by simp [hreadings]
    obtain ⟨d, hd, rfl⟩ := List.mem_map.1 hreading
    exact ⟨d, hd, _, rfl⟩

theorem invariant_style {P : Style → Prop} (hP : Utility.Extensible P) (hrow : row ∈ Utility.rows)
    (h : row.style theme options token = .ok style) : P style := by
  obtain ⟨d, hd, text, rfl⟩ := exists_style_eq h
  exact hP.foldl_putText (Utility.not_isScope_rows row hrow d hd) hP.empty

end Row

namespace Reading

def Layers (path : List String) (P : Style → Prop) (reading : Reading) : Prop :=
  ∀ found, ∃ inner, P inner ∧ reading.style found = inner.within path

variable {path : List String} {P : Style → Prop}

theorem layers_ofSections {names : List String} {key : String} {style : ThemeValue → Style}
    (h : ∀ found, ∃ inner, P inner ∧ style found = inner.within path) :
    ∀ reading ∈ ofSections names key style, reading.Layers path P := by
  intro reading hr
  obtain ⟨name, -, rfl⟩ := List.mem_map.1 hr
  exact h

end Reading

namespace Sibling

variable {P : Style → Prop}

def Sides.Plain (sides : Sides) : Prop :=
  isScope sides.switch = false ∧ isScope sides.reverse = false ∧ isScope sides.forward = false

theorem plain_spaceSides (key : String) : (spaceSides key).Plain := by
  unfold spaceSides Sides.Plain
  split <;> decide

theorem plain_divideSides (key : String) : (divideSides key).Plain := by
  unfold divideSides Sides.Plain
  split <;> decide

theorem exists_share (hP : Utility.Extensible P) {sides : Sides} (h : sides.Plain)
    (length mark : String) :
    ∃ inner, P inner ∧ share sides length mark = inner.within [Selector.laterSiblings] := by
  obtain ⟨hswitch, hreverse, hforward⟩ := h
  have hstart := hP.putNumber hP.empty hswitch (.whole 0)
  unfold share
  dsimp only
  split
  · exact ⟨_, hP.putText (hP.putText hstart hreverse _) hforward _, rfl⟩
  · exact ⟨_, hP.putText (hP.putText hstart hforward _) hreverse _, rfl⟩

end Sibling

namespace Paint

variable {P : Style → Prop}

theorem invariant_colored (hP : Utility.Extensible P) {property opacity : String}
    (hp : isScope property = false) (ho : isScope opacity = false) (color mark : String) :
    P (colored color property opacity mark) := by
  unfold colored
  dsimp only
  split
  · exact hP.one hp _
  · split
    · exact hP.one hp _
    · exact hP.putText (hP.one ho _) hp _

theorem invariant_fontSize (hP : Utility.Extensible P) (mark : String) (found : ThemeValue) :
    P (fontSize mark found) := by
  have hsize : isScope "fontSize" = false := by decide
  unfold fontSize
  split
  · exact hP.one hsize _
  · exact hP.one hsize _
  · exact hP.one hsize _
  · exact hP.putText (hP.one hsize _) (by decide) _

end Paint

namespace Family

variable {P : Style → Prop}

theorem layers_divideReadings (hP : Utility.Extensible P) (r : Request) :
    ∀ reading ∈ readings .divide r, reading.Layers (selector .divide) P := by
  unfold readings
  dsimp only
  split
  · exact List.forall_mem_singleton.2 fun found =>
      Sibling.exists_share hP (Sibling.plain_divideSides r.key) _ _
  · split
    · exact Reading.layers_ofSections fun found => ⟨_, hP.one (by decide) found.text, rfl⟩
    · exact Reading.layers_ofSections fun found =>
        ⟨_, Paint.invariant_colored hP (by decide) (by decide) found.text r.token.mark, rfl⟩

theorem layers_placeholderReadings (hP : Utility.Extensible P) (r : Request) :
    ∀ reading ∈ readings .placeholder r, reading.Layers (selector .placeholder) P := by
  intro reading hr
  change reading ∈ Paint.placeholderOpacityReadings r ++ [_] at hr
  unfold Paint.placeholderOpacityReadings at hr
  rcases List.mem_append.1 hr with hr | hr
  · split at hr
    · exact Reading.layers_ofSections (fun found => ⟨_, hP.one (by decide) found.text, rfl⟩)
        reading hr
    · cases hr
  · obtain rfl := List.mem_singleton.1 hr
    exact fun found =>
      ⟨_, Paint.invariant_colored hP (by decide) (by decide) found.text r.token.mark, rfl⟩

theorem layers_textReadings (hP : Utility.Extensible P) (r : Request) :
    ∀ reading ∈ readings .text r, reading.Layers (selector .text) P := by
  unfold readings Paint.textReadings
  dsimp only
  rw [List.forall_mem_cons, List.forall_mem_singleton]
  constructor
  · exact fun found =>
      ⟨_, @Paint.invariant_colored P hP "color" "--text-opacity" (by decide) (by decide) found.text
        r.token.mark, rfl⟩
  · exact fun found => ⟨_, Paint.invariant_fontSize hP r.token.mark found, rfl⟩

theorem layers_backgroundReadings (hP : Utility.Extensible P) (r : Request) :
    ∀ reading ∈ readings .bg r, reading.Layers (selector .bg) P := by
  unfold readings Paint.backgroundReadings
  dsimp only
  rw [List.forall_mem_cons, List.forall_mem_cons, List.forall_mem_singleton]
  refine ⟨?_, ?_, ?_⟩
  · exact fun found =>
      ⟨_, @Paint.invariant_colored P hP "backgroundColor" "--bg-opacity" (by decide) (by decide)
        found.text r.token.mark, rfl⟩
  · exact fun found => ⟨_, hP.one (by decide) (found.text ++ r.token.mark), rfl⟩
  · exact fun found => ⟨_, hP.one (by decide) (found.text ++ r.token.mark), rfl⟩

theorem layers_borderReadings (hP : Utility.Extensible P) (r : Request) :
    ∀ reading ∈ readings .border r, reading.Layers (selector .border) P := by
  unfold readings Paint.borderReadings
  dsimp only
  rw [List.forall_mem_cons, List.forall_mem_singleton]
  constructor
  · exact fun found => ⟨_, hP.one (by decide) (found.text ++ r.token.mark), rfl⟩
  · exact fun found =>
      ⟨_, @Paint.invariant_colored P hP "borderColor" "--border-opacity" (by decide) (by decide)
        found.text r.token.mark, rfl⟩

theorem layers_readings (hP : Utility.Extensible P) (member : Family) (r : Request) :
    ∀ reading ∈ member.readings r, reading.Layers member.selector P := by
  cases member with
  | container => simp [readings]
  | space =>
    exact List.forall_mem_singleton.2 fun found =>
      Sibling.exists_share hP (Sibling.plain_spaceSides r.key) _ _
  | divide => exact layers_divideReadings hP r
  | placeholder => exact layers_placeholderReadings hP r
  | text => exact layers_textReadings hP r
  | bg => exact layers_backgroundReadings hP r
  | border => exact layers_borderReadings hP r

end Family

end UtilityStyle
