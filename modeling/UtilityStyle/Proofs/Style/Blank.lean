import UtilityStyle.Proofs.Style.Flat
import UtilityStyle.Proofs.Text.Start
import UtilityStyle.Proofs.Text.Visible

namespace UtilityStyle

namespace Style

def unmarked (text : String) : String := (Text.beforeEnd importantMark text).getD text

/-- Nothing of the text is to be seen but a mark at its end. -/
def IsBlank (text : String) : Prop := Text.allBlank (unmarked text)

instance (text : String) : Decidable (IsBlank text) :=
  inferInstanceAs (Decidable (Text.allBlank (unmarked text) = true))

def OnlyMark (text : String) : Prop :=
  ∃ blanks, Text.allBlank blanks ∧ text = blanks ++ importantMark

variable {text mark : String}

theorem unmarked_append (text : String) : unmarked (text ++ importantMark) = text := by
  rw [unmarked, Text.beforeEnd_eq_some_iff.2 rfl, Option.getD_some]

theorem isBlank_append_importantMark : IsBlank (text ++ importantMark) ↔ Text.allBlank text := by
  rw [IsBlank, unmarked_append]

theorem isBlank_iff : IsBlank text ↔ Text.allBlank text ∨ OnlyMark text := by
  cases hend : Text.beforeEnd importantMark text with
  | some blanks =>
    obtain rfl := Text.beforeEnd_eq_some_iff.1 hend
    have hmark : ¬Text.allBlank importantMark := by decide
    rw [isBlank_append_importantMark, Text.allBlank_append, or_iff_right fun h => hmark h.2]
    constructor
    · exact fun hblanks => ⟨blanks, hblanks, rfl⟩
    · rintro ⟨others, hothers, he⟩
      rwa [(String.append_left_inj importantMark).1 he]
  | none =>
    have honly : ¬OnlyMark text := by
      rintro ⟨blanks, -, he⟩
      rw [Text.beforeEnd_eq_some_iff.2 he] at hend
      cases hend
    rw [IsBlank, unmarked, hend, Option.getD_none, or_iff_left honly]

theorem isBlank_append_iff (hmark : mark = "" ∨ mark = importantMark) :
    IsBlank (text ++ mark) ↔ Text.allBlank text ∨ mark = "" ∧ OnlyMark text := by
  have hne : importantMark ≠ "" := by decide
  rcases hmark with rfl | rfl
  · rw [String.append_empty, isBlank_iff]
    simp
  · rw [isBlank_append_importantMark]
    simp [hne]

theorem IsBlank.of_append (h : IsBlank (text ++ mark)) (hmark : mark = "" ∨ mark = importantMark) :
    IsBlank text := by
  rw [isBlank_append_iff hmark] at h
  exact isBlank_iff.2 (h.imp_right And.right)

theorem not_isBlank_of_mem {c : Char} (h : c ∈ text.toList) (hc : Text.isBlank c = false)
    (hmark : c ∉ importantMark.toList) : ¬IsBlank text := by
  rw [isBlank_iff, not_or]
  refine ⟨Text.not_allBlank_of_mem h hc, ?_⟩
  rintro ⟨blanks, hblanks, rfl⟩
  rw [String.toList_append, List.mem_append, or_iff_left hmark] at h
  exact Text.not_allBlank_of_mem h hc hblanks

/-- A mark has a blank in front of it, so that what starts with something else is no mark alone. -/
theorem not_isBlank_of_head {c : Char} (h : text.toList.head? = some c)
    (hc : Text.isBlank c = false) : ¬IsBlank text := by
  have hvisible := Text.not_allBlank_of_mem (List.mem_of_mem_head? h) hc
  rw [isBlank_iff, not_or]
  refine ⟨hvisible, ?_⟩
  rintro ⟨blanks, hblanks, rfl⟩
  cases hcs : blanks.toList with
  | nil =>
    rw [String.toList_append, hcs] at h
    obtain rfl : ' ' = c := Option.some.inj h
    exact absurd hc (by decide)
  | cons d rest =>
    rw [String.toList_append, hcs] at h
    obtain rfl : d = c := Option.some.inj h
    exact Text.not_allBlank_of_mem (by rw [hcs]; exact List.mem_cons_self) hc hblanks

def ReadsBlank : Json → Prop
  | .string text => IsBlank text
  | _ => False

instance : DecidablePred ReadsBlank
  | .string text => inferInstanceAs (Decidable (IsBlank text))
  | .null | .bool _ | .number _ | .array _ | .object _ => inferInstanceAs (Decidable False)

def HasBlank (style : Style) : Prop := ∃ d ∈ style.declarations, ReadsBlank d.value

instance (style : Style) : Decidable style.HasBlank :=
  inferInstanceAs (Decidable (∃ d ∈ style.declarations, ReadsBlank d.value))

variable {key : String} {value : Json} {style : Style}

theorem hasBlank_iff_values :
    style.HasBlank ↔ ∃ value ∈ style.declarations.map (·.value), ReadsBlank value := by
  simp [HasBlank]

theorem hasBlank_within (path : List String) : (style.within path).HasBlank ↔ style.HasBlank := by
  rw [hasBlank_iff_values, values_within, ← hasBlank_iff_values]

theorem mem_declarationsIn {d : Declaration} {fields : Fields} :
    d ∈ declarationsIn fields ↔ ∃ entry ∈ fields, d ∈ declarationsOf entry.1 entry.2 := by
  induction fields with
  | nil => simp [declarationsIn]
  | cons entry rest ih => simp [declarationsIn, ih]

def ofTexts (texts : List (String × String)) : Style :=
  ⟨texts.map fun entry => (entry.1, .string entry.2)⟩

theorem hasBlank_ofTexts {texts : List (String × String)} :
    (ofTexts texts).HasBlank ↔ ∃ entry ∈ texts, IsBlank entry.2 := by
  simp [HasBlank, declarations, ofTexts, mem_declarationsIn, declarationsOf, ReadsBlank]

theorem hasBlank_one : (one key text).HasBlank ↔ IsBlank text := by
  have htexts : one key text = ofTexts [(key, text)] := rfl
  rw [htexts, hasBlank_ofTexts]
  simp

theorem hasBlank_under (inner : Style) : (under key inner).HasBlank ↔ inner.HasBlank :=
  @hasBlank_within inner [key]

theorem HasBlank.of_put (hvalue : value.isObject = false) (h : (style.put key value).HasBlank) :
    style.HasBlank ∨ ReadsBlank value := by
  obtain ⟨d, hd, hblank⟩ := h
  obtain ⟨entry, hentry, hd⟩ := mem_declarationsIn.1 hd
  rcases Entries.mem_of_mem_put hentry with rfl | hold
  · rw [declarationsOf_of_leaf hvalue] at hd
    obtain rfl := List.mem_singleton.1 hd
    exact .inr hblank
  · exact .inl ⟨d, mem_declarationsIn.2 ⟨entry, hold, hd⟩, hblank⟩

theorem HasBlank.of_markImportant (h : style.markImportant.HasBlank) : style.HasBlank := by
  have hvalue : ∀ value, ReadsBlank (markValue value) → ReadsBlank value := by
    intro value hvalue
    cases value with
    | string text => exact isBlank_iff.2 (.inl (isBlank_append_importantMark.1 hvalue))
    | null | bool | number | array | object =>
      exact absurd (isBlank_append_importantMark.1 hvalue) (Json.not_allBlank_text _)
  obtain ⟨d, hd, hblank⟩ := h
  rw [← markWhere_true, declarations_markWhere] at hd
  obtain ⟨inner, hinner, rfl⟩ := List.mem_map.1 hd
  exact ⟨inner, hinner, hvalue _ hblank⟩

theorem not_hasBlank_empty : ¬empty.HasBlank := by decide

theorem not_hasBlank_putText (hs : ¬style.HasBlank) (htext : ¬IsBlank text) :
    ¬(style.putText key text).HasBlank :=
  fun h => (h.of_put rfl).elim hs htext

end Style

end UtilityStyle
