import UtilityStyle.Paint.Alpha
import UtilityStyle.Number.Decimal
import UtilityStyle.Utility.Request

namespace UtilityStyle.Sibling

def readsZero (text : String) : Bool :=
  let cs := match (Text.trim text).toList with
    | '-' :: rest | '+' :: rest => rest
    | rest => rest
  (Numeral.read? cs).any Numeral.roundsToZero

def withUnit (text : String) : String := if readsZero text then text ++ "px" else text

structure Sides where
  /-- The variable that says which side has the length. -/
  switch : String
  /-- Has the length where the variable is one. -/
  reverse : String
  /-- Has the length where the variable is zero. -/
  forward : String
  reverseFirst : Bool

/-- Gives a length to one of both sides of every child but the first. The variable that decides is
zero at first. -/
def share (sides : Sides) (length mark : String) : Style :=
  let reversed := "var(" ++ sides.switch ++ ")"
  let reverse := "calc(" ++ length ++ " * " ++ reversed ++ ")" ++ mark
  let forward := "calc(" ++ length ++ " * calc(1 - " ++ reversed ++ "))" ++ mark
  let start := Style.empty.put sides.switch (.number (.whole 0))
  .under Selector.laterSiblings
    (if sides.reverseFirst then
      (start.putText sides.reverse reverse).putText sides.forward forward
    else
      (start.putText sides.forward forward).putText sides.reverse reverse)

def signedLength (r : Request) (found : ThemeValue) : String :=
  r.token.sign ++ withUnit found.text

def spaceSides (key : String) : Sides :=
  if key = "space-x" then ⟨"--space-x-reverse", "marginRight", "marginLeft", true⟩
  else ⟨"--space-y-reverse", "marginBottom", "marginTop", false⟩

def space (r : Request) : Except Error Style := do
  let key := ((r.argument? "space-x").or (r.argument? "space-y")).getD "default"
  match ← r.value "space" key with
  | some found => return share (spaceSides r.key) (signedLength r found) r.token.mark
  | none => .error (r.notFoundIn ["space"])

def divideSides (key : String) : Sides :=
  if key = "divide-x" then ⟨"--divide-x-reverse", "borderRightWidth", "borderLeftWidth", true⟩
  else ⟨"--divide-y-reverse", "borderBottomWidth", "borderTopWidth", false⟩

def divideWidth (r : Request) : Except Error Style := do
  let key := ((r.argument? "divide-x").or (r.argument? "divide-y")).getD "default"
  match ← r.value "divideWidth" key with
  | some found => return share (divideSides r.key) (signedLength r found) r.token.mark
  | none => .error (r.notFoundIn ["divideWidth"])

def divideOpacity (r : Request) : Except Error Style := do
  r.refuseNegative
  let key := (r.argument? "divide-opacity").getD "default"
  match ← r.firstValue ["divideOpacity", "opacity"] key with
  | some found => return .under Selector.laterSiblings (.one "--divide-opacity" found.text)
  | none => .error (r.notFoundIn [r.opacitySection "divideOpacity"])

def divideColor (r : Request) : Except Error Style := do
  r.refuseNegative
  let key := (r.argument? "divide").getD ""
  match ← r.firstValue ["divideColor", "borderColor", "colors"] key with
  | some found =>
    return .under Selector.laterSiblings
      (Paint.colored found.text "borderColor" "--divide-opacity" r.token.mark)
  | none => .error (r.notFoundIn ["divideColor"])

def divide (r : Request) : Except Error Style :=
  if r.key = "divide-x" || r.key = "divide-y" then divideWidth r
  else if r.key = "divide-opacity" then divideOpacity r
  else divideColor r

end UtilityStyle.Sibling
