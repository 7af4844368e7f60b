import UtilityStyle.Proofs.Family
import UtilityStyle.Proofs.Style.Declaration

namespace UtilityStyle

namespace Reading

def marking (reading : Reading) : Reading :=
  { reading with style := fun found => (reading.style found).markProperties }

theorem first?_map_marking (theme : Theme) (readings : List Reading) :
    first? theme (readings.map marking) =
      (first? theme readings).map (Option.map Style.markProperties) := by
  induction readings with
  | nil => rfl
  | cons reading rest ih =>
    rw [List.map_cons, first?_cons, first?_cons]
    change theme.resolve reading.source reading.key >>= _ = _
    cases theme.resolve reading.source reading.key with
    | error cause => rfl
    | ok found? =>
      cases found? with
      | none => exact ih
      | some found => rfl

theorem map_marking_ofSections (names : List String) (key : String) (style : ThemeValue → Style) :
    (ofSections names key style).map marking =
      ofSections names key fun found => (style found).markProperties := by
  simp [ofSections, marking]

end Reading

namespace Style

variable {key text : String} {style : Style}

theorem markProperties_under (key : String) (inner : Style) :
    (under key inner).markProperties = under key inner.markProperties := rfl

theorem markProperties_putText (h : isVariable key = false) :
    (style.putText key text).markProperties =
      style.markProperties.putText key (text ++ importantMark) := by
  unfold markProperties putText
  rw [markWhere_put, markValueWhere_of_leaf rfl]
  simp [h, markValue]

theorem markProperties_put_variable (h : isVariable key = true) {value : Json}
    (hv : value.isObject = false) :
    (style.put key value).markProperties = style.markProperties.put key value := by
  unfold markProperties
  rw [markWhere_put, markValueWhere_of_leaf hv]
  simp [h]

theorem markProperties_one (h : isVariable key = false) :
    (one key text).markProperties = one key (text ++ importantMark) :=
  markProperties_putText h

theorem markProperties_one_variable (h : isVariable key = true) :
    (one key text).markProperties = one key text :=
  markProperties_put_variable h rfl

end Style

theorem Paint.colored_importantMark {property opacity : String} (hp : isVariable property = false)
    (ho : isVariable opacity = true) (color : String) :
    colored color property opacity Style.importantMark =
      (colored color property opacity "").markProperties := by
  have hdirect : Style.one property (color ++ Style.importantMark) =
      (Style.one property (color ++ "")).markProperties := by
    rw [Style.markProperties_one hp, String.append_empty]
  unfold colored
  dsimp only
  split
  · exact hdirect
  · split
    · exact hdirect
    · rw [Style.markProperties_putText hp, Style.markProperties_one_variable ho,
        String.append_empty]

theorem Paint.fontSize_importantMark :
    fontSize Style.importantMark = fun found => (fontSize "" found).markProperties := by
  funext found
  have hsize : isVariable "fontSize" = false := by decide
  have hheight : isVariable "lineHeight" = false := by decide
  unfold fontSize
  split <;> simp [Style.markProperties_one hsize, Style.markProperties_putText hheight]

namespace Sibling

structure Sides.Separate (sides : Sides) : Prop where
  switch : isVariable sides.switch = true
  reverse : isVariable sides.reverse = false
  forward : isVariable sides.forward = false

theorem separate_spaceSides (key : String) : (spaceSides key).Separate := by
  unfold spaceSides
  split <;> exact ⟨by decide, by decide, by decide⟩

theorem separate_divideSides (key : String) : (divideSides key).Separate := by
  unfold divideSides
  split <;> exact ⟨by decide, by decide, by decide⟩

theorem share_importantMark {sides : Sides} (h : sides.Separate) (length : String) :
    share sides length Style.importantMark = (share sides length "").markProperties := by
  have hstart : (Style.empty.put sides.switch (.number (.whole 0))).markProperties =
      Style.empty.put sides.switch (.number (.whole 0)) :=
    Style.markProperties_put_variable h.switch rfl
  unfold share
  dsimp only
  rw [Style.markProperties_under]
  split
  · rw [Style.markProperties_putText h.forward, Style.markProperties_putText h.reverse, hstart,
      String.append_empty, String.append_empty]
  · rw [Style.markProperties_putText h.reverse, Style.markProperties_putText h.forward, hstart,
      String.append_empty, String.append_empty]

end Sibling

namespace Request

def marked (r : Request) : Request := { r with token := { r.token with important := true } }

@[simp] theorem key_marked (r : Request) : r.marked.key = r.key := rfl

@[simp] theorem argument?_marked (r : Request) (start : String) :
    r.marked.argument? start = r.argument? start := rfl

@[simp] theorem mark_marked (r : Request) : r.marked.token.mark = Style.importantMark := rfl

theorem mark_eq_empty {r : Request} (h : r.token.important = false) : r.token.mark = "" := by
  rw [Token.mark, h]
  rfl

end Request

namespace Sibling

variable {r : Request}

theorem signedLength_marked (r : Request) : signedLength r.marked = signedLength r := rfl

theorem spaceReadings_marked (h : r.token.important = false) :
    spaceReadings r.marked = (spaceReadings r).map Reading.marking := by
  simp only [spaceReadings, List.map_singleton, Reading.marking, Request.argument?_marked,
    Request.key_marked, Request.mark_marked, Request.mark_eq_empty h, signedLength_marked,
    share_importantMark (separate_spaceSides r.key)]

theorem divideWidthReadings_marked (h : r.token.important = false) :
    divideWidthReadings r.marked = (divideWidthReadings r).map Reading.marking := by
  simp only [divideWidthReadings, List.map_singleton, Reading.marking, Request.argument?_marked,
    Request.key_marked, Request.mark_marked, Request.mark_eq_empty h, signedLength_marked,
    share_importantMark (separate_divideSides r.key)]

theorem divideOpacityReadings_marked (r : Request) :
    divideOpacityReadings r.marked = (divideOpacityReadings r).map Reading.marking := by
  have hopacity : isVariable "--divide-opacity" = true := by decide
  simp only [divideOpacityReadings, Reading.map_marking_ofSections, Request.argument?_marked,
    Style.markProperties_under, Style.markProperties_one_variable hopacity]

theorem divideColorReadings_marked (h : r.token.important = false) :
    divideColorReadings r.marked = (divideColorReadings r).map Reading.marking := by
  have hcolor : isVariable "borderColor" = false := by decide
  have hopacity : isVariable "--divide-opacity" = true := by decide
  simp only [divideColorReadings, Reading.map_marking_ofSections, Request.argument?_marked,
    Request.mark_marked, Request.mark_eq_empty h, Style.markProperties_under,
    Paint.colored_importantMark hcolor hopacity]

end Sibling

namespace Paint

variable {r : Request}

theorem textReadings_marked (h : r.token.important = false) :
    textReadings r.marked = (textReadings r).map Reading.marking := by
  have hcolor : isVariable "color" = false := by decide
  have hopacity : isVariable "--text-opacity" = true := by decide
  simp only [textReadings, List.map_cons, List.map_nil, Reading.marking, Request.argument?_marked,
    Request.mark_marked, Request.mark_eq_empty h, colored_importantMark hcolor hopacity,
    fontSize_importantMark]

theorem backgroundReadings_marked (h : r.token.important = false) :
    backgroundReadings r.marked = (backgroundReadings r).map Reading.marking := by
  have hcolor : isVariable "backgroundColor" = false := by decide
  have hsize : isVariable "backgroundSize" = false := by decide
  have hposition : isVariable "backgroundPosition" = false := by decide
  have hopacity : isVariable "--bg-opacity" = true := by decide
  simp only [backgroundReadings, List.map_cons, List.map_nil, Reading.marking,
    Request.argument?_marked, Request.mark_marked, Request.mark_eq_empty h,
    colored_importantMark hcolor hopacity, Style.markProperties_one hsize,
    Style.markProperties_one hposition, String.append_empty]

theorem borderReadings_marked (h : r.token.important = false) :
    borderReadings r.marked = (borderReadings r).map Reading.marking := by
  have hwidth : isVariable "borderWidth" = false := by decide
  have hcolor : isVariable "borderColor" = false := by decide
  have hopacity : isVariable "--border-opacity" = true := by decide
  simp only [borderReadings, List.map_cons, List.map_nil, Reading.marking, Request.argument?_marked,
    Request.mark_marked, Request.mark_eq_empty h, colored_importantMark hcolor hopacity,
    Style.markProperties_one hwidth, String.append_empty]

theorem placeholderOpacityReadings_marked (r : Request) :
    placeholderOpacityReadings r.marked =
      (placeholderOpacityReadings r).map Reading.marking := by
  have hopacity : isVariable "--placeholder-opacity" = true := by decide
  have hkey : placeholderOpacityKey? r.marked = placeholderOpacityKey? r := rfl
  unfold placeholderOpacityReadings
  rw [hkey]
  cases placeholderOpacityKey? r with
  | none => rfl
  | some key =>
    simp only [Reading.map_marking_ofSections, Style.markProperties_under,
      Style.markProperties_one_variable hopacity]

theorem placeholderReadings_marked (h : r.token.important = false) :
    placeholderReadings r.marked = (placeholderReadings r).map Reading.marking := by
  have hcolor : isVariable "color" = false := by decide
  have hopacity : isVariable "--placeholder-opacity" = true := by decide
  unfold placeholderReadings
  rw [placeholderOpacityReadings_marked, List.map_append, List.map_singleton]
  simp only [Reading.marking, Request.argument?_marked, Request.mark_marked,
    Request.mark_eq_empty h, Style.markProperties_under, colored_importantMark hcolor hopacity]

end Paint

namespace Family

variable {r : Request}

theorem readings_marked (member : Family) (h : r.token.important = false) :
    member.readings r.marked = (member.readings r).map Reading.marking := by
  cases member with
  | container => rfl
  | space => exact Sibling.spaceReadings_marked h
  | divide =>
    change (if r.key = "divide-x" || r.key = "divide-y" then _ else if r.key = "divide-opacity"
      then _ else _) = _
    unfold readings
    dsimp only
    split
    · exact Sibling.divideWidthReadings_marked h
    · split
      · exact Sibling.divideOpacityReadings_marked r
      · exact Sibling.divideColorReadings_marked h
  | placeholder => exact Paint.placeholderReadings_marked h
  | text => exact Paint.textReadings_marked h
  | bg => exact Paint.backgroundReadings_marked h
  | border => exact Paint.borderReadings_marked h

end Family

end UtilityStyle
