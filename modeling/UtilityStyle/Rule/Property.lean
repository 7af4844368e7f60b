import UtilityStyle.Text.Capital
import UtilityStyle.Text.Word

namespace UtilityStyle.Property

/-- Cuts a run of separators at its last character that is no line end, unless that is the first. -/
def cutRun (run : List Char) : Option (Char × List Char) :=
  match run.reverse.dropWhile (· = '\n') with
  | c :: _ :: _ => some (c, run.reverse.takeWhile (· = '\n'))
  | _ => none

/-- What a run of separators at the end of a name becomes: its last character that is no line end
stands for those before it. -/
def endRun (run : List Char) : List Char :=
  match cutRun run with
  | some (c, lineEnds) => Text.capital c ++ lineEnds
  | none => run

def joinFrom (run : List Char) : List Char → List Char
  | [] => endRun run.reverse
  | c :: rest =>
    if Text.isWord c then
      (if run.isEmpty then [c] else Text.capital c) ++ joinFrom [] rest
    else joinFrom (c :: run) rest

/-- Each run of separators and the character behind it become that character in upper case. -/
def camelCase (property : String) : String :=
  match property.toList with
  | '-' :: '-' :: _ => property
  | cs => String.ofList (joinFrom [] cs)

end UtilityStyle.Property
