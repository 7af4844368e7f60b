import UtilityStyle.Number.Binary
import UtilityStyle.Text.Blank

namespace UtilityStyle

structure Suggestion where
  target : String
  value : String
  rating : Double
  deriving DecidableEq

namespace Suggestion

def label (s : Suggestion) : String :=
  if s.value.isEmpty then s.target else s.target ++ " [" ++ s.value ++ "]"

def width (s : Suggestion) : Nat := s.target.utf8ByteSize + s.value.utf8ByteSize

/-- A line ends behind the suggestion that takes it past this length. -/
def lineLength : Nat := 60

def layout (used : Nat) : List Suggestion → String
  | [] => ""
  | [last] => last.label
  | s :: rest =>
    if lineLength < used + s.width then s.label ++ "\n" ++ layout 0 rest
    else s.label ++ " / " ++ layout (used + s.width) rest

def listText (list : List Suggestion) : String := Text.trimEnd (layout 0 list)

end Suggestion

inductive Suggestions
  | nothing
  | single (target : String)
  | ranked (list : List Suggestion)
  deriving DecidableEq

namespace Suggestions

def targets : Suggestions → List String
  | .nothing => []
  | .single target => [target]
  | .ranked list => list.map (·.target)

def size (s : Suggestions) : Nat := s.targets.length

def isEmpty (s : Suggestions) : Bool := s.size = 0

end Suggestions

end UtilityStyle
