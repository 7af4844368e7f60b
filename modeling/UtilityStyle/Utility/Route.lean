import UtilityStyle.Rule.Rulebook
import UtilityStyle.Utility.Fixed
import UtilityStyle.Utility.Rows

/-!
Which table, family or rule a class name belongs to. Fixed styles come first, then the row with the
longest key, and the user's rules only where neither table has the name.
-/

namespace UtilityStyle

inductive Route
  | fixed (name : String) (style : Style)
  | reading (row : Row)
  | family (row : Row) (member : Family)
  | rule
  | unmatched
  deriving DecidableEq

namespace Route

def ofRow (row : Row) : Route :=
  match row.handler with
  | .descriptors _ => .reading row
  | .family member => .family row member

def find (rules : Rulebook) (className : String) : Route :=
  match Utility.fixed? className with
  | some style => .fixed className style
  | none =>
    match Row.longest Utility.rows className with
    | some row => ofRow row
    | none => if rules.covers className then .rule else .unmatched

def key? : Route → Option String
  | .fixed name _ => some name
  | .reading row | .family row _ => some row.key
  | .rule | .unmatched => none

end Route

end UtilityStyle
