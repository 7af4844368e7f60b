import UtilityStyle.Utility.Request

/-!
The container: as wide as what is around it, and no wider than the screen asks for. Its padding and
margin are one value, a pair of left and right, or an object with a default and values by screen.
-/

namespace UtilityStyle.Container

def isVoid : Json → Bool
  | .null => true
  | .string text => text.isEmpty
  | .array items => items.isEmpty
  | .object fields => fields.isEmpty
  | _ => false

def isTruthy : Json → Bool
  | .bool value => value
  | .null => false
  | .string text => !text.isEmpty
  | .number number => !number.isZero
  | _ => true

def side (property : String) (value : Json) (style : Style) : Style :=
  if value = .null then style else style.put property value

def bothSides (kind : String) (left right : Json) : Style :=
  side (kind ++ "Right") right (side (kind ++ "Left") left .empty)

def gutters (kind : String) : Json → Style
  | .array items => bothSides kind (items[0]?.getD .null) (items[1]?.getD .null)
  | value => bothSides kind value value

def forScreen? (kind screen : String) (values : Json) : Option Style :=
  match values.member? screen with
  | some value => if isVoid value then none else some (gutters kind value)
  | none => none

def everywhere? (kind : String) (values : Json) : Option Style :=
  match values with
  | .array _ => some (gutters kind values)
  | .object _ => forScreen? kind "default" values
  | value => if isVoid value then none else some (gutters kind value)

/-- The settings of the container. A centered container has no margin of its own. -/
structure Settings where
  padding : Option Json
  margin : Option Json
  centered : Bool

def settings (theme : Theme) : Settings :=
  let fields := ((theme.section? "container").bind Json.fields?).getD []
  ⟨Entries.get? "padding" fields, Entries.get? "margin" fields,
    (Entries.get? "center" fields).any isTruthy⟩

def add (style : Style) (more? : Option Style) : Style :=
  match more? with
  | some more => style.merge more
  | none => style

def base (s : Settings) : Style :=
  let padded := add (.one "width" "100%") (s.padding.bind (everywhere? "padding"))
  if s.centered then (padded.putText "marginLeft" "auto").putText "marginRight" "auto"
  else add padded (s.margin.bind (everywhere? "margin"))

def onScreen (s : Settings) (screen width : String) : Style :=
  let padded := add (.one "maxWidth" width) (s.padding.bind (forScreen? "padding" screen))
  if s.centered then padded else add padded (s.margin.bind (forScreen? "margin" screen))

/-- Adds the block of a screen, in place of one with the same width. -/
def addScreen (s : Settings) (style : Style) (screen : String × Json) : Style :=
  match Screen.minWidth? screen.2 with
  | some width =>
    style.putNested (Screen.media ("(min-width: " ++ width ++ ")")) (onScreen s screen.1 width)
  | none => style

def style (theme : Theme) : Style :=
  let s := settings theme
  theme.screens.foldl (addScreen s) (base s)

def resolve (r : Request) : Except Error Style :=
  if !r.token.variants.isEmpty then .error (r.refuse (.variants r.token.variants))
  else if r.token.important then .error (r.refuse .important)
  else if r.token.negative then .error (r.refuse .negatives)
  else .ok (style r.theme)

end UtilityStyle.Container
