import UtilityStyle.Proofs.Family
import UtilityStyle.Proofs.Text.Start
import UtilityStyle.Utility.Rows

namespace UtilityStyle

def Dropped (rest : String) : Prop := rest = "" ∨ '\n' ∈ rest.toList

instance (rest : String) : Decidable (Dropped rest) :=
  inferInstanceAs (Decidable (rest = "" ∨ '\n' ∈ rest.toList))

namespace Request

variable {r : Request} {start key rest : String}

theorem argument?_of_eq_append (h : r.className = start ++ "-" ++ rest) :
    r.argument? start = if Dropped rest then none else some rest := by
  unfold argument?
  rw [Text.afterDash_eq_some_iff.2 h]
  by_cases hd : Dropped rest
  · rw [if_pos hd]
    rcases hd with rfl | hn
    · rfl
    · simp [Option.filter, hn]
  · rw [if_neg hd]
    obtain ⟨he, hn⟩ := not_or.1 hd
    simp [Option.filter, he, hn]

theorem argument?_eq_none (h : ∀ rest, r.className ≠ start ++ "-" ++ rest) :
    r.argument? start = none := by
  unfold argument? Text.afterDash
  rw [Text.afterStart_eq_none_iff.2 h]
  rfl

theorem argument?_of_eq (h : r.className = key) (hl : key.length ≤ start.length) :
    r.argument? start = none := by
  apply argument?_eq_none
  intro rest he
  have hlength := congrArg String.length (h.symm.trans he)
  rw [String.length_append, String.length_append] at hlength
  have hdash : "-".length = 1 := rfl
  omega

theorem argument?_of_ne (h : r.className = key ++ "-" ++ rest) (hl : key.length = start.length)
    (hne : key ≠ start) : r.argument? start = none := by
  apply argument?_eq_none
  intro other he
  have hlists := congrArg String.toList (h.symm.trans he)
  simp only [String.toList_append, List.append_assoc] at hlists
  exact hne (String.toList_inj.1 (List.append_inj_left hlists hl))

def bare (r : Request) : Request := { r with token := { r.token with className := r.key } }

@[simp] theorem key_bare (r : Request) : r.bare.key = r.key := rfl

@[simp] theorem className_bare (r : Request) : r.bare.className = r.key := rfl

@[simp] theorem sign_bare (r : Request) : r.bare.token.sign = r.token.sign := rfl

@[simp] theorem mark_bare (r : Request) : r.bare.token.mark = r.token.mark := rfl

theorem argument?_bare (h : r.key.length ≤ start.length) : r.bare.argument? start = none :=
  argument?_of_eq rfl h

theorem argument?_getD (hk : r.key = start) (hc : r.className = r.key ++ "-" ++ rest)
    (fallback : String) :
    (r.argument? start).getD fallback = (if Dropped rest then fallback else rest) ∧
      (r.bare.argument? start).getD fallback = fallback := by
  subst hk
  rw [argument?_of_eq_append hc, argument?_bare (Nat.le_refl _)]
  constructor
  · split <;> rfl
  · rfl

theorem argument?_or_getD {a b : String} (hl : a.length = b.length) (hne : a ≠ b)
    (hk : r.key = a ∨ r.key = b) (hc : r.className = r.key ++ "-" ++ rest) (fallback : String) :
    ((r.argument? a).or (r.argument? b)).getD fallback =
        (if Dropped rest then fallback else rest) ∧
      ((r.bare.argument? a).or (r.bare.argument? b)).getD fallback = fallback := by
  rcases hk with hk | hk
  · have hb : r.argument? b = none := argument?_of_ne hc (hk ▸ hl) (hk ▸ hne)
    have hbare : r.bare.argument? b = none := argument?_bare (hk ▸ Nat.le_of_eq hl)
    rw [hb, hbare, Option.or_none, Option.or_none]
    exact argument?_getD hk hc fallback
  · have ha : r.argument? a = none := argument?_of_ne hc (hk ▸ hl.symm) (hk ▸ hne.symm)
    have hbare : r.bare.argument? a = none := argument?_bare (hk ▸ Nat.le_of_eq hl.symm)
    rw [ha, hbare, Option.none_or, Option.none_or]
    exact argument?_getD hk hc fallback

end Request

def Reading.withEnd (rest : String) (reading : Reading) : Reading :=
  if Dropped rest then reading else { reading with key := rest }

@[simp] theorem Reading.withEnd_mk (rest source key : String) (style : ThemeValue → Style) :
    withEnd rest ⟨source, key, style⟩ = ⟨source, if Dropped rest then key else rest, style⟩ := by
  unfold withEnd
  split <;> rfl

namespace Sibling

variable {r : Request} {rest : String}

@[simp] theorem signedLength_bare : signedLength r.bare = signedLength r := rfl

theorem spaceReadings_eq_map (hk : r.key = "space-x" ∨ r.key = "space-y")
    (hc : r.className = r.key ++ "-" ++ rest) :
    spaceReadings r = (spaceReadings r.bare).map (Reading.withEnd rest) := by
  obtain ⟨harg, hbare⟩ := Request.argument?_or_getD (by decide) (by decide) hk hc "default"
  simp [spaceReadings, harg, hbare]

theorem divideWidthReadings_eq_map (hk : r.key = "divide-x" ∨ r.key = "divide-y")
    (hc : r.className = r.key ++ "-" ++ rest) :
    divideWidthReadings r = (divideWidthReadings r.bare).map (Reading.withEnd rest) := by
  obtain ⟨harg, hbare⟩ := Request.argument?_or_getD (by decide) (by decide) hk hc "default"
  simp [divideWidthReadings, harg, hbare]

theorem divideOpacityReadings_eq_map (hk : r.key = "divide-opacity")
    (hc : r.className = r.key ++ "-" ++ rest) :
    divideOpacityReadings r = (divideOpacityReadings r.bare).map (Reading.withEnd rest) := by
  obtain ⟨harg, hbare⟩ := Request.argument?_getD hk hc "default"
  simp [divideOpacityReadings, Reading.ofSections, harg, hbare]

theorem divideColorReadings_eq_map (hk : r.key = "divide")
    (hc : r.className = r.key ++ "-" ++ rest) :
    divideColorReadings r = (divideColorReadings r.bare).map (Reading.withEnd rest) := by
  obtain ⟨harg, hbare⟩ := Request.argument?_getD hk hc ""
  simp [divideColorReadings, Reading.ofSections, harg, hbare]

end Sibling

namespace Paint

variable {r : Request} {rest : String}

theorem textReadings_eq_map (hk : r.key = "text") (hc : r.className = r.key ++ "-" ++ rest) :
    textReadings r = (textReadings r.bare).map (Reading.withEnd rest) := by
  obtain ⟨harg, hbare⟩ := Request.argument?_getD hk hc ""
  simp [textReadings, harg, hbare]

theorem backgroundReadings_eq_map (hk : r.key = "bg") (hc : r.className = r.key ++ "-" ++ rest) :
    backgroundReadings r = (backgroundReadings r.bare).map (Reading.withEnd rest) := by
  obtain ⟨harg, hbare⟩ := Request.argument?_getD hk hc ""
  simp [backgroundReadings, harg, hbare]

theorem borderReadings_eq_map (hk : r.key = "border") (hc : r.className = r.key ++ "-" ++ rest) :
    borderReadings r = (borderReadings r.bare).map (Reading.withEnd rest) := by
  obtain ⟨harg, hbare⟩ := Request.argument?_getD hk hc ""
  simp [borderReadings, harg, hbare]

theorem placeholderOpacityKey?_bare (hk : r.key = "placeholder") :
    placeholderOpacityKey? r.bare = none := by
  unfold placeholderOpacityKey?
  rw [Request.className_bare, Request.argument?_bare (by rw [hk]; decide), hk]
  rfl

theorem placeholderOpacityKey?_eq_none (hk : r.key = "placeholder")
    (hc : r.className = r.key ++ "-" ++ rest) (ho : ¬"opacity".toList <+: rest.toList) :
    placeholderOpacityKey? r = none := by
  have hne : ∀ more, r.className ≠ "placeholder-" ++ ("opacity" ++ more) := by
    intro more he
    rw [hk] at hc
    have hrest : rest = "opacity" ++ more :=
      (String.append_right_inj "placeholder-").1 (hc.symm.trans he)
    apply ho
    rw [hrest, String.toList_append]
    exact List.prefix_append _ _
  have hopacity : r.className ≠ "placeholder-opacity" := hne ""
  unfold placeholderOpacityKey?
  rw [if_neg hopacity, Request.argument?_eq_none]
  · rfl
  · intro more he
    apply hne ("-" ++ more)
    rw [he, String.append_assoc, ← @String.append_assoc "placeholder-"]
    rfl

theorem placeholderReadings_eq_map (hk : r.key = "placeholder")
    (hc : r.className = r.key ++ "-" ++ rest) (ho : ¬"opacity".toList <+: rest.toList) :
    placeholderReadings r = (placeholderReadings r.bare).map (Reading.withEnd rest) := by
  obtain ⟨harg, hbare⟩ := Request.argument?_getD hk hc ""
  unfold placeholderReadings placeholderOpacityReadings
  rw [placeholderOpacityKey?_eq_none hk hc ho, placeholderOpacityKey?_bare hk, harg, hbare]
  simp

end Paint

namespace Family

def keys : Family → List String
  | .container => ["container"]
  | .space => ["space-x", "space-y"]
  | .divide => ["divide-x", "divide-y", "divide-opacity", "divide"]
  | .placeholder => ["placeholder"]
  | .text => ["text"]
  | .bg => ["bg"]
  | .border => ["border"]

theorem key_mem_keys : ∀ row ∈ Utility.rows, ∀ member ∈ row.family?, row.key ∈ member.keys := by
  decide

theorem readings_eq_map {member : Family} {r : Request} {rest : String} (hk : r.key ∈ member.keys)
    (hc : r.className = r.key ++ "-" ++ rest) (ho : ¬"opacity".toList <+: rest.toList) :
    member.readings r = (member.readings r.bare).map (Reading.withEnd rest) := by
  cases member with
  | container => rfl
  | space => exact Sibling.spaceReadings_eq_map (by simpa [keys] using hk) hc
  | divide =>
    simp only [keys, List.mem_cons, List.not_mem_nil, or_false] at hk
    simp only [readings, Request.key_bare]
    rcases hk with hk | hk | hk | hk
    · simp only [hk]
      exact Sibling.divideWidthReadings_eq_map (.inl hk) hc
    · simp only [hk]
      exact Sibling.divideWidthReadings_eq_map (.inr hk) hc
    · simp only [hk]
      exact Sibling.divideOpacityReadings_eq_map hk hc
    · simp only [hk]
      exact Sibling.divideColorReadings_eq_map hk hc
  | placeholder => exact Paint.placeholderReadings_eq_map (List.mem_singleton.1 hk) hc ho
  | text => exact Paint.textReadings_eq_map (List.mem_singleton.1 hk) hc
  | bg => exact Paint.backgroundReadings_eq_map (List.mem_singleton.1 hk) hc
  | border => exact Paint.borderReadings_eq_map (List.mem_singleton.1 hk) hc

end Family

end UtilityStyle
