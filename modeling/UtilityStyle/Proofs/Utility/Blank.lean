import UtilityStyle.Proofs.Family
import UtilityStyle.Proofs.Paint.Alpha
import UtilityStyle.Proofs.Style.Blank
import UtilityStyle.Proofs.Theme.Lookup

namespace UtilityStyle

theorem Token.mark_cases (token : Token) : token.mark = "" ∨ token.mark = Style.importantMark := by
  unfold mark
  cases token.important with
  | false => exact .inl rfl
  | true => exact .inr rfl

theorem Color.read?_eq_none_of_isBlank {text : String} (h : Style.IsBlank text) :
    read? text = none := by
  have hmark : read? Style.importantMark = none := by decide
  have hempty : read? "" = none := by decide
  have hskip : ∀ {blanks : String}, Text.allBlank blanks → ∀ rest,
      read? (blanks ++ rest) = read? rest := by
    intro blanks hblanks rest
    rw [read?, read?, Text.trim_append_of_allBlank hblanks]
  rcases Style.isBlank_iff.1 h with hblank | ⟨blanks, hblanks, rfl⟩
  · have htext := hskip hblank ""
    rwa [String.append_empty, hempty] at htext
  · rw [hskip hblanks, hmark]

namespace ThemeValue

theorem not_allBlank_of_ofJson {value : Json} {text : String} (hempty : value.isEmpty = false)
    (h : ofJson value = .ok (.scalar text)) : ¬Text.allBlank text := by
  cases value with
  | string own =>
    cases h
    simpa [Json.isEmpty] using hempty
  | number number =>
    cases h
    exact number.not_allBlank_styled
  | array items => cases hitems : items.mapM item <;> simp [ofJson, hitems, Except.map] at h
  | null | bool | object => cases h

end ThemeValue

theorem Theme.not_allBlank_of_resolve {theme : Theme} {source key text : String}
    (h : theme.resolve source key = .ok (some (.scalar text))) : ¬Text.allBlank text := by
  unfold resolve lookup at h
  split at h
  · obtain ⟨value, -, hempty, hvalue⟩ := Lookup.inFields_eq_ok_some_iff.1 h
    exact ThemeValue.not_allBlank_of_ofJson hempty hvalue
  · cases h

namespace ThemeValue

/-- Nothing of the value is to be seen before the mark. A single value is found with something in
it, which may be a mark of its own. -/
def Vanishes (mark : String) : ThemeValue → Prop
  | .scalar text => mark = "" ∧ Style.OnlyMark text
  | .list [] => True
  | .list [item] => Style.IsBlank (item ++ mark)
  | .list _ => False

def VanishesInFont (mark : String) : ThemeValue → Prop
  | .list (size :: height :: _) => Style.IsBlank (size ++ mark) ∨ Style.IsBlank (height ++ mark)
  | found => found.Vanishes mark

variable {theme : Theme} {source key mark : String} {found : ThemeValue}

theorem not_isBlank_commas (first second : String) (rest : List String) :
    ¬Style.IsBlank (list (first :: second :: rest)).text := by
  have hcomma : ',' ∈ (list (first :: second :: rest)).text.toList := by
    simp [ThemeValue.text, String.intercalate_cons_cons]
  exact Style.not_isBlank_of_mem hcomma (by decide) (by decide)

theorem isBlank_text_iff (hmark : mark = "" ∨ mark = Style.importantMark)
    (hfound : theme.resolve source key = .ok (some found)) :
    Style.IsBlank (found.text ++ mark) ↔ found.Vanishes mark := by
  cases found with
  | scalar text =>
    rw [ThemeValue.text, Style.isBlank_append_iff hmark,
      or_iff_right (Theme.not_allBlank_of_resolve hfound)]
    rfl
  | list items =>
    match items with
    | [] => exact iff_of_true ((Style.isBlank_append_iff hmark).2 (.inl rfl)) trivial
    | [item] => rfl
    | first :: second :: rest =>
      exact iff_of_false (fun h => not_isBlank_commas first second rest (h.of_append hmark)) id

end ThemeValue

namespace Reading

def BlankWith (mark : String) (style : ThemeValue → Style) : Prop :=
  ∀ found, (style found).HasBlank ↔ Style.IsBlank (found.text ++ mark)

variable {mark property : String} {style : ThemeValue → Style} {theme : Theme}
  {source key : String} {found : ThemeValue}

theorem blankWith_one : BlankWith mark fun found => .one property (found.text ++ mark) :=
  fun _ => Style.hasBlank_one

theorem blankWith_bare : BlankWith "" fun found => .one property found.text := by
  intro found
  rw [Style.hasBlank_one, String.append_empty]

theorem BlankWith.under (h : BlankWith mark style) (selector : String) :
    BlankWith mark fun found => .under selector (style found) :=
  fun found => (Style.hasBlank_under _).trans (h found)

theorem BlankWith.hasBlank_iff (h : BlankWith mark style)
    (hmark : mark = "" ∨ mark = Style.importantMark)
    (hfound : theme.resolve source key = .ok (some found)) :
    (style found).HasBlank ↔ found.Vanishes mark :=
  (h found).trans (ThemeValue.isBlank_text_iff hmark hfound)

end Reading

namespace Paint

variable {property opacity mark : String}

theorem not_hasBlank_split (red green blue : Nat) :
    ¬(split property opacity mark red green blue).HasBlank := by
  have hparen : ∀ rest, ¬Style.IsBlank ("rgba(" ++ rest) := fun rest =>
    @Style.not_isBlank_of_mem _ '(' (by simp) (by decide) (by decide)
  have hone : ¬Style.IsBlank "1" := by decide
  change ¬(Style.ofTexts [(opacity, "1"), (property, _)]).HasBlank
  rw [Style.hasBlank_ofTexts]
  simp only [String.append_assoc]
  simp [hone, hparen]

/-- What leaves a blank is no color, and so it is set as it stands. -/
theorem blankWith_colored (hne : opacity ≠ property)
    (hmark : mark = "" ∨ mark = Style.importantMark) :
    Reading.BlankWith mark fun found => colored found.text property opacity mark := by
  intro found
  dsimp only
  rcases colored_cases hne found.text mark with hdirect | ⟨channels, hread, hsplit⟩
  · rw [hdirect, Style.hasBlank_one]
  · rw [hsplit]
    refine iff_of_false (not_hasBlank_split _ _ _) fun h => ?_
    rw [Color.read?_eq_none_of_isBlank (h.of_append hmark)] at hread
    cases hread

variable {theme : Theme} {source key : String} {found : ThemeValue}

theorem hasBlank_fontSize (hmark : mark = "" ∨ mark = Style.importantMark)
    (hfound : theme.resolve source key = .ok (some found)) :
    (fontSize mark found).HasBlank ↔ found.VanishesInFont mark := by
  match found with
  | .scalar text =>
    have hscalar := ThemeValue.isBlank_text_iff hmark hfound
    rw [ThemeValue.text] at hscalar
    rw [fontSize, Style.hasBlank_one, hscalar]
    rfl
  | .list [] =>
    rw [fontSize, Style.hasBlank_one]
    exact iff_of_true ((@Style.isBlank_append_iff "" mark hmark).2 (.inl rfl)) trivial
  | .list [size] =>
    rw [fontSize, Style.hasBlank_one]
    rfl
  | .list (size :: height :: rest) =>
    have hfields : fontSize mark (.list (size :: height :: rest)) =
        .ofTexts [("fontSize", size ++ mark), ("lineHeight", height ++ mark)] := rfl
    rw [hfields, Style.hasBlank_ofTexts]
    simp [ThemeValue.VanishesInFont]

end Paint

theorem Sibling.not_hasBlank_share (sides : Sides) (length mark : String) :
    ¬(share sides length mark).HasBlank := by
  have hcalc : ∀ rest, ¬Style.IsBlank ("calc(" ++ rest) := fun rest =>
    @Style.not_isBlank_of_mem _ '(' (by simp) (by decide) (by decide)
  have hstart : ¬(Style.empty.put sides.switch (.number (.whole 0))).HasBlank := fun h =>
    (h.of_put rfl).elim Style.not_hasBlank_empty id
  unfold share
  rw [Style.hasBlank_under]
  simp only [String.append_assoc]
  split
  · exact Style.not_hasBlank_putText (Style.not_hasBlank_putText hstart (hcalc _)) (hcalc _)
  · exact Style.not_hasBlank_putText (Style.not_hasBlank_putText hstart (hcalc _)) (hcalc _)

namespace Family

def LeavesBlank (member : Family) (r : Request) (source : String) (found : ThemeValue) : Prop :=
  match member with
  | .container | .space => False
  | .divide =>
    if r.key = "divide-x" ∨ r.key = "divide-y" then False
    else found.Vanishes (if r.key = "divide-opacity" then "" else r.token.mark)
  | .placeholder => found.Vanishes (if source = "placeholderColor" then r.token.mark else "")
  | .text =>
    if source = "fontSize" then found.VanishesInFont r.token.mark
    else found.Vanishes r.token.mark
  | .bg | .border => found.Vanishes r.token.mark

variable {r : Request} {reading : Reading} {found : ThemeValue}

theorem hasBlank_divide (hreading : reading ∈ readings .divide r)
    (hfound : r.theme.resolve reading.source reading.key = .ok (some found)) :
    (reading.style found).HasBlank ↔ LeavesBlank .divide r reading.source found := by
  unfold LeavesBlank
  dsimp only
  by_cases hwidth : r.key = "divide-x" ∨ r.key = "divide-y"
  · rw [readings, if_pos (by simpa using hwidth)] at hreading
    obtain rfl := List.mem_singleton.1 hreading
    rw [if_pos hwidth, iff_false]
    exact Sibling.not_hasBlank_share _ _ _
  · rw [readings, if_neg (by simpa using hwidth)] at hreading
    rw [if_neg hwidth]
    by_cases hopacity : r.key = "divide-opacity"
    · rw [if_pos hopacity] at hreading
      obtain ⟨source, -, rfl⟩ := List.mem_map.1 hreading
      rw [if_pos hopacity]
      exact (Reading.blankWith_bare.under _).hasBlank_iff (.inl rfl) hfound
    · rw [if_neg hopacity] at hreading
      obtain ⟨source, -, rfl⟩ := List.mem_map.1 hreading
      rw [if_neg hopacity]
      exact ((Paint.blankWith_colored (by decide) r.token.mark_cases).under _).hasBlank_iff
        r.token.mark_cases hfound

theorem source_ne_placeholderColor (h : reading ∈ Paint.placeholderOpacityReadings r) :
    reading.source ≠ "placeholderColor" := by
  unfold Paint.placeholderOpacityReadings at h
  split at h
  · obtain ⟨source, hsource, rfl⟩ := List.mem_map.1 h
    rintro rfl
    exact absurd hsource (by decide)
  · cases h

theorem hasBlank_placeholder (hreading : reading ∈ readings .placeholder r)
    (hfound : r.theme.resolve reading.source reading.key = .ok (some found)) :
    (reading.style found).HasBlank ↔ LeavesBlank .placeholder r reading.source found := by
  unfold LeavesBlank
  dsimp only
  rcases List.mem_append.1 hreading with hreading | hreading
  · rw [if_neg (source_ne_placeholderColor hreading)]
    unfold Paint.placeholderOpacityReadings at hreading
    split at hreading
    · obtain ⟨source, -, rfl⟩ := List.mem_map.1 hreading
      exact (Reading.blankWith_bare.under _).hasBlank_iff (.inl rfl) hfound
    · cases hreading
  · obtain rfl := List.mem_singleton.1 hreading
    rw [if_pos rfl]
    exact ((Paint.blankWith_colored (by decide) r.token.mark_cases).under _).hasBlank_iff
      r.token.mark_cases hfound

theorem hasBlank_text (hreading : reading ∈ readings .text r)
    (hfound : r.theme.resolve reading.source reading.key = .ok (some found)) :
    (reading.style found).HasBlank ↔ LeavesBlank .text r reading.source found := by
  unfold LeavesBlank
  dsimp only
  rcases List.mem_cons.1 hreading with rfl | hreading
  · have hcolored := @Paint.blankWith_colored "color" "--text-opacity" r.token.mark (by decide)
      r.token.mark_cases
    have hblank := hcolored.hasBlank_iff r.token.mark_cases hfound
    rwa [if_neg (show "textColor" ≠ "fontSize" by decide)]
  · obtain rfl := List.mem_singleton.1 hreading
    rw [if_pos rfl]
    exact Paint.hasBlank_fontSize r.token.mark_cases hfound

theorem blankWith_background (hreading : reading ∈ readings .bg r) :
    Reading.BlankWith r.token.mark reading.style := by
  simp only [readings, Paint.backgroundReadings, List.mem_cons, List.not_mem_nil, or_false]
    at hreading
  rcases hreading with rfl | rfl | rfl
  · exact @Paint.blankWith_colored "backgroundColor" "--bg-opacity" r.token.mark (by decide)
      r.token.mark_cases
  · exact Reading.blankWith_one
  · exact Reading.blankWith_one

theorem blankWith_border (hreading : reading ∈ readings .border r) :
    Reading.BlankWith r.token.mark reading.style := by
  simp only [readings, Paint.borderReadings, List.mem_cons, List.not_mem_nil, or_false] at hreading
  rcases hreading with rfl | rfl
  · exact Reading.blankWith_one
  · exact @Paint.blankWith_colored "borderColor" "--border-opacity" r.token.mark (by decide)
      r.token.mark_cases

theorem hasBlank_iff {member : Family} (hreading : reading ∈ member.readings r)
    (hfound : r.theme.resolve reading.source reading.key = .ok (some found)) :
    (reading.style found).HasBlank ↔ member.LeavesBlank r reading.source found := by
  cases member with
  | container => cases hreading
  | space =>
    obtain rfl := List.mem_singleton.1 hreading
    exact iff_of_false (Sibling.not_hasBlank_share _ _ _) id
  | divide => exact hasBlank_divide hreading hfound
  | placeholder => exact hasBlank_placeholder hreading hfound
  | text => exact hasBlank_text hreading hfound
  | bg => exact (blankWith_background hreading).hasBlank_iff r.token.mark_cases hfound
  | border => exact (blankWith_border hreading).hasBlank_iff r.token.mark_cases hfound

end Family

end UtilityStyle
