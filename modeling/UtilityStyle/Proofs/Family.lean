import UtilityStyle.Family
import UtilityStyle.Proofs.Utility.Reading

namespace UtilityStyle

namespace Sibling

def spaceReadings (r : Request) : List Reading :=
  [⟨"space", ((r.argument? "space-x").or (r.argument? "space-y")).getD "default",
    fun found => share (spaceSides r.key) (signedLength r found) r.token.mark⟩]

def divideWidthReadings (r : Request) : List Reading :=
  [⟨"divideWidth", ((r.argument? "divide-x").or (r.argument? "divide-y")).getD "default",
    fun found => share (divideSides r.key) (signedLength r found) r.token.mark⟩]

def divideOpacityReadings (r : Request) : List Reading :=
  Reading.ofSections ["divideOpacity", "opacity"] ((r.argument? "divide-opacity").getD "default")
    fun found => .under Selector.laterSiblings (.one "--divide-opacity" found.text)

def divideColorReadings (r : Request) : List Reading :=
  Reading.ofSections ["divideColor", "borderColor", "colors"] ((r.argument? "divide").getD "")
    fun found => .under Selector.laterSiblings
      (Paint.colored found.text "borderColor" "--divide-opacity" r.token.mark)

theorem space_eq_read (r : Request) : space r = r.read (spaceReadings r) ["space"] := by
  unfold spaceReadings
  rw [Request.read_cons]
  rfl

theorem divideWidth_eq_read (r : Request) :
    divideWidth r = r.read (divideWidthReadings r) ["divideWidth"] := by
  unfold divideWidthReadings
  rw [Request.read_cons]
  rfl

theorem divideOpacity_eq_read (r : Request) :
    divideOpacity r = r.refuseNegative >>= fun _ =>
      r.read (divideOpacityReadings r) [r.opacitySection "divideOpacity"] := by
  unfold divideOpacityReadings
  rw [← List.append_nil (Reading.ofSections _ _ _), Request.read_ofSections_append]
  rfl

theorem divideColor_eq_read (r : Request) :
    divideColor r = r.refuseNegative >>= fun _ =>
      r.read (divideColorReadings r) ["divideColor"] := by
  unfold divideColorReadings
  rw [← List.append_nil (Reading.ofSections _ _ _), Request.read_ofSections_append]
  rfl

end Sibling

namespace Paint

def textReadings (r : Request) : List Reading :=
  let key := (r.argument? "text").getD ""
  [⟨"textColor", key, fun found => colored found.text "color" "--text-opacity" r.token.mark⟩,
    ⟨"fontSize", key, fontSize r.token.mark⟩]

def backgroundReadings (r : Request) : List Reading :=
  let key := (r.argument? "bg").getD ""
  [⟨"backgroundColor", key,
      fun found => colored found.text "backgroundColor" "--bg-opacity" r.token.mark⟩,
    ⟨"backgroundSize", key, fun found => .one "backgroundSize" (found.text ++ r.token.mark)⟩,
    ⟨"backgroundPosition", key,
      fun found => .one "backgroundPosition" (found.text ++ r.token.mark)⟩]

def borderReadings (r : Request) : List Reading :=
  let key := (r.argument? "border").getD ""
  [⟨"borderWidth", key, fun found => .one "borderWidth" (found.text ++ r.token.mark)⟩,
    ⟨"borderColor", key,
      fun found => colored found.text "borderColor" "--border-opacity" r.token.mark⟩]

def placeholderOpacityReadings (r : Request) : List Reading :=
  match placeholderOpacityKey? r with
  | some key => Reading.ofSections ["placeholderOpacity", "opacity"] key
      fun found => .under "::placeholder" (.one "--placeholder-opacity" found.text)
  | none => []

def placeholderReadings (r : Request) : List Reading :=
  placeholderOpacityReadings r ++
    [⟨"placeholderColor", (r.argument? "placeholder").getD "", fun found => .under "::placeholder"
      (colored found.text "color" "--placeholder-opacity" r.token.mark)⟩]

theorem text_eq_read (r : Request) :
    text r = r.refuseNegative >>= fun _ =>
      r.read (textReadings r) ["textColor", "fontSize"] := by
  unfold text textReadings
  dsimp only
  rw [Request.read_cons, Request.read_cons]
  apply bind_congr
  intro _
  apply bind_congr
  intro color?
  cases color? with
  | some color => rfl
  | none =>
    apply bind_congr
    intro size?
    cases size? <;> rfl

theorem background_eq_read (r : Request) :
    background r = r.refuseNegative >>= fun _ =>
      r.read (backgroundReadings r)
        ["backgroundColor", "backgroundSize", "backgroundPosition"] := by
  unfold background backgroundReadings
  dsimp only
  rw [Request.read_cons, Request.read_cons, Request.read_cons]
  apply bind_congr
  intro _
  apply bind_congr
  intro color?
  cases color? with
  | some color => rfl
  | none =>
    apply bind_congr
    intro size?
    cases size? with
    | some size => rfl
    | none =>
      apply bind_congr
      intro position?
      cases position? <;> rfl

theorem border_eq_read (r : Request) :
    border r = r.refuseNegative >>= fun _ =>
      r.read (borderReadings r) ["borderColor", "borderWidth"] := by
  unfold border borderReadings
  dsimp only
  rw [Request.read_cons, Request.read_cons]
  apply bind_congr
  intro _
  apply bind_congr
  intro width?
  cases width? with
  | some width => rfl
  | none =>
    apply bind_congr
    intro color?
    cases color? <;> rfl

theorem placeholder_eq_read (r : Request) :
    placeholder r = r.refuseNegative >>= fun _ =>
      r.read (placeholderReadings r)
        ["placeholderColor", r.opacitySection "placeholderOpacity"] := by
  unfold placeholder placeholderReadings placeholderOpacityReadings placeholderOpacity
  apply bind_congr
  intro _
  cases placeholderOpacityKey? r with
  | none =>
    dsimp only
    rw [List.nil_append, Request.read_cons]
    change r.value "placeholderColor" _ >>= _ = _
    apply bind_congr
    intro color?
    cases color? <;> rfl
  | some key =>
    dsimp only
    rw [Request.read_ofSections_append, Request.read_cons]
    apply bind_congr
    intro opacity?
    cases opacity? with
    | some opacity => rfl
    | none =>
      apply bind_congr
      intro color?
      cases color? <;> rfl

end Paint

namespace Family

def readings (member : Family) (r : Request) : List Reading :=
  match member with
  | .container => []
  | .space => Sibling.spaceReadings r
  | .divide =>
    if r.key = "divide-x" || r.key = "divide-y" then Sibling.divideWidthReadings r
    else if r.key = "divide-opacity" then Sibling.divideOpacityReadings r
    else Sibling.divideColorReadings r
  | .placeholder => Paint.placeholderReadings r
  | .text => Paint.textReadings r
  | .bg => Paint.backgroundReadings r
  | .border => Paint.borderReadings r

def searched (member : Family) (r : Request) : List String :=
  match member with
  | .container => []
  | .space => ["space"]
  | .divide =>
    if r.key = "divide-x" || r.key = "divide-y" then ["divideWidth"]
    else if r.key = "divide-opacity" then [r.opacitySection "divideOpacity"]
    else ["divideColor"]
  | .placeholder => ["placeholderColor", r.opacitySection "placeholderOpacity"]
  | .text => ["textColor", "fontSize"]
  | .bg => ["backgroundColor", "backgroundSize", "backgroundPosition"]
  | .border => ["borderColor", "borderWidth"]

def takesSign (member : Family) (key : String) : Bool :=
  match member with
  | .space => true
  | .divide => key = "divide-x" || key = "divide-y"
  | .container | .placeholder | .text | .bg | .border => false

theorem style_eq_read {member : Family} (h : member ≠ .container) (r : Request) :
    member.style r =
      (if member.takesSign r.key then .ok () else r.refuseNegative) >>= fun _ =>
        r.read (member.readings r) (member.searched r) := by
  cases member with
  | container => exact absurd rfl h
  | space => exact Sibling.space_eq_read r
  | divide =>
    simp only [style, Sibling.divide, takesSign, readings, searched, Bool.or_eq_true,
      decide_eq_true_eq]
    by_cases hw : r.key = "divide-x" ∨ r.key = "divide-y"
    · simp only [if_pos hw]
      exact Sibling.divideWidth_eq_read r
    · simp only [if_neg hw]
      by_cases ho : r.key = "divide-opacity"
      · simp only [if_pos ho]
        exact Sibling.divideOpacity_eq_read r
      · simp only [if_neg ho]
        exact Sibling.divideColor_eq_read r
  | placeholder => exact Paint.placeholder_eq_read r
  | text => exact Paint.text_eq_read r
  | bg => exact Paint.background_eq_read r
  | border => exact Paint.border_eq_read r

end Family

end UtilityStyle
