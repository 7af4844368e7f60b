import UtilityStyle.Paint.Alpha
import UtilityStyle.Utility.Request

namespace UtilityStyle.Paint

def fontSize (mark : String) : ThemeValue → Style
  | .scalar size => .one "fontSize" (size ++ mark)
  | .list [] => .one "fontSize" mark
  | .list [size] => .one "fontSize" (size ++ mark)
  | .list (size :: height :: _) =>
    (Style.one "fontSize" (size ++ mark)).putText "lineHeight" (height ++ mark)

def text (r : Request) : Except Error Style := do
  r.refuseNegative
  let key := (r.argument? "text").getD ""
  if let some color ← r.value "textColor" key then
    return colored color.text "color" "--text-opacity" r.token.mark
  if let some size ← r.value "fontSize" key then
    return fontSize r.token.mark size
  .error (r.notFoundIn ["textColor", "fontSize"])

def background (r : Request) : Except Error Style := do
  r.refuseNegative
  let key := (r.argument? "bg").getD ""
  if let some color ← r.value "backgroundColor" key then
    return colored color.text "backgroundColor" "--bg-opacity" r.token.mark
  if let some size ← r.value "backgroundSize" key then
    return .one "backgroundSize" (size.text ++ r.token.mark)
  if let some position ← r.value "backgroundPosition" key then
    return .one "backgroundPosition" (position.text ++ r.token.mark)
  .error (r.notFoundIn ["backgroundColor", "backgroundSize", "backgroundPosition"])

def border (r : Request) : Except Error Style := do
  r.refuseNegative
  let key := (r.argument? "border").getD ""
  if let some width ← r.value "borderWidth" key then
    return .one "borderWidth" (width.text ++ r.token.mark)
  if let some color ← r.value "borderColor" key then
    return colored color.text "borderColor" "--border-opacity" r.token.mark
  .error (r.notFoundIn ["borderColor", "borderWidth"])

def placeholderOpacityKey? (r : Request) : Option String :=
  if r.className = "placeholder-opacity" then some "default"
  else (r.argument? "placeholder-opacity").map fun key =>
    if key = "placeholder-opacity" then "default" else key

def placeholderOpacity (r : Request) : Except Error (Option ThemeValue) :=
  match placeholderOpacityKey? r with
  | some key => r.firstValue ["placeholderOpacity", "opacity"] key
  | none => .ok none

def placeholder (r : Request) : Except Error Style := do
  r.refuseNegative
  if let some opacity ← placeholderOpacity r then
    return .under "::placeholder" (.one "--placeholder-opacity" opacity.text)
  let key := (r.argument? "placeholder").getD ""
  if let some color ← r.value "placeholderColor" key then
    return .under "::placeholder"
      (colored color.text "color" "--placeholder-opacity" r.token.mark)
  .error (r.notFoundIn ["placeholderColor", r.opacitySection "placeholderOpacity"])

end UtilityStyle.Paint
