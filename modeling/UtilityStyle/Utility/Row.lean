import UtilityStyle.Text.Pieces

namespace UtilityStyle

inductive Family
  | container
  | space
  | divide
  | placeholder
  | text
  | bg
  | border
  deriving DecidableEq

def Family.name : Family → String
  | .container => "container"
  | .space => "space"
  | .divide => "divide"
  | .placeholder => "placeholder"
  | .text => "text"
  | .bg => "bg"
  | .border => "border"

structure Descriptor where
  properties : List String
  source : String
  /-- Read when the theme has no section `source`. -/
  fallback : Option String := none
  deriving DecidableEq

inductive Handler
  | descriptors (list : List Descriptor)
  | family (family : Family)
  deriving DecidableEq

structure Row where
  key : String
  handler : Handler
  deriving DecidableEq

namespace Row

def descriptors (row : Row) : List Descriptor :=
  match row.handler with
  | .descriptors list => list
  | .family _ => []

def family? (row : Row) : Option Family :=
  match row.handler with
  | .descriptors _ => none
  | .family family => some family

def sources (row : Row) : List String := row.descriptors.map (·.source)

def covers (row : Row) (className : String) : Bool :=
  className = row.key || (Text.afterDash row.key className).isSome

/-- Keeps the row with the longer key, and the first of two equally long. -/
def longer (best : Option Row) (row : Row) : Option Row :=
  match best with
  | some best => if row.key.utf8ByteSize ≤ best.key.utf8ByteSize then some best else some row
  | none => some row

def longest (rows : List Row) (className : String) : Option Row :=
  (rows.filter (·.covers className)).foldl longer none

end Row

end UtilityStyle
