import UtilityStyle.Color.Basic
import UtilityStyle.Style

namespace UtilityStyle.Paint

/-- Sets a property to a color. An opaque color takes its opacity from a variable, which starts as
one, so that another utility only has to set that. A color with an alpha channel of its own
stays as it is, and so does what is no color. -/
def colored (color property opacity mark : String) : Style :=
  let direct := Style.one property (color ++ mark)
  if Color.hasAlpha color then direct
  else match Color.read? color with
    | none => direct
    | some c =>
      let channels := toString c.red ++ ", " ++ toString c.green ++ ", " ++ toString c.blue
      (Style.one opacity "1").putText property
        ("rgba(" ++ channels ++ ", var(" ++ opacity ++ "))" ++ mark)

end UtilityStyle.Paint
