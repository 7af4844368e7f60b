import UtilityStyle.Suggestion.Basic
import UtilityStyle.Text.Similarity
import UtilityStyle.Theme.Lookup
import UtilityStyle.Utility.Fixed
import UtilityStyle.Utility.Rows

/-!
Searching for other classes. For a class whose row has no value for it, every token of the sections
it reads is a candidate; for any other, the names of the tables are. Some names that people know
from plain CSS have an answer of their own.
-/

namespace UtilityStyle.Suggestion

def corrections : Entries String := [
  ("align-center", "items-center"),
  ("center-align", "items-center"),
  ("flex-center", "items-center / justify-center"),
  ("inline-block", "block"),
  ("display-none", "hidden"),
  ("display-inline", "inline-block"),
  ("display-flex", "flex"),
  ("border-radius", "rounded"),
  ("flex-column", "flex-col"),
  ("flex-column-reverse", "flex-col-reverse"),
  ("text-italic", "italic"),
  ("text-normal", "not-italic")]

def correction? (className : String) : Option String := Entries.get? className corrections

def decisiveRating : Double := Binary.ofRatio 3 5

def leastRating : Double := Binary.ofRatio 3 20

def vocabularyRating : Double := Binary.ofRatio 1 4

def sectionLimit : Nat := 20

def vocabularyLimit : Nat := 6

def sorted (list : List Suggestion) : List Suggestion :=
  list.mergeSort fun a b => b.rating.totalKey ≤ a.rating.totalKey

def shortlist (limit : Nat) (candidates : List Suggestion) : Suggestions :=
  match sorted candidates with
  | [] => .nothing
  | best :: rest =>
    if decisiveRating ≤ best.rating then .single best.target
    else .ranked ((best :: rest).take limit)

structure Query where
  sections : List String
  key : String
  className : String
  negative : Bool
  deriving DecidableEq

namespace Query

def suffix (query : Query) : String :=
  match Text.afterStart query.key query.className with
  | some rest => (Text.afterStart "-" rest).getD rest
  | none => query.className

def input (query : Query) : String := "-" ++ (if query.negative then "-" else "") ++ query.suffix

end Query

def itemText : Json → String
  | .string text => text
  | other => other.text

mutual

def leaves (path : String) : Json → Entries String
  | .object fields => fieldLeaves path fields
  | .string text => [(path, text)]
  | .number number => [(path, number.styled)]
  | .array items => [(path, ", ".intercalate (items.map itemText))]
  | .bool _ | .null => []

def fieldLeaves (path : String) : List (String × Json) → Entries String
  | [] => []
  | (key, value) :: rest =>
    leaves (if path.isEmpty then key else path ++ "-" ++ key) value ++ fieldLeaves path rest

end

def sectionLeaves : Json → Entries String
  | .object fields => fieldLeaves "" fields
  | _ => []

def classPath (path : String) : String :=
  if path = "default" then "" else (Text.beforeEnd "-default" path).getD path

def targetOf (key path : String) : String :=
  let path := classPath path
  let bare := unsigned path
  let sign := if bare = path then "" else "-"
  sign ++ "-".intercalate ([key, bare].filter (!·.isEmpty))

def isNegativePath (path : String) : Bool := path.toList.head? = some '-'

def candidate (query : Query) (leaf : String × String) : Suggestion :=
  ⟨targetOf query.key leaf.1, leaf.2, Text.similarity ("-" ++ leaf.1) query.input⟩

/-- Adds a candidate, or lets it take the place of one with its target and a lower rating. -/
def keepBest (list : List Suggestion) (new : Suggestion) : List Suggestion :=
  match list with
  | [] => [new]
  | old :: rest =>
    if old.target = new.target then (if new.rating ≤ old.rating then old else new) :: rest
    else old :: keepBest rest new

def matching (theme : Theme) (query : Query) : Entries String :=
  (query.sections.flatMap fun name => ((theme.section? name).map sectionLeaves).getD []).filter
    fun leaf => isNegativePath leaf.1 = query.negative

def candidates (theme : Theme) (query : Query) : List Suggestion :=
  ((matching theme query).map (candidate query)).foldl keepBest []

/-- Ranks the candidates of the theme. If none is alike at all the first ones are shown, unrated, so
that the user sees what the row accepts. -/
def fromTheme (theme : Theme) (query : Query) : Suggestions :=
  let all := candidates theme query
  match all.filter fun s => leastRating ≤ s.rating with
  | [] =>
    if all.isEmpty then .nothing
    else .ranked ((all.take sectionLimit).map fun s => { s with rating := Binary.zero false })
  | rated => shortlist sectionLimit rated

def vocabulary : List String :=
  Utility.fixedNames ++ Utility.rows.map fun row => row.key ++ "-..."

def fromVocabulary (className : String) : Suggestions :=
  let all := vocabulary.map fun name => (⟨name, "", Text.similarity className name⟩ : Suggestion)
  shortlist vocabularyLimit (all.filter fun s => vocabularyRating < s.rating)

def search (theme : Theme) (className : String) (query? : Option Query) : Suggestions :=
  match correction? className with
  | some target => .single target
  | none =>
    match query? with
    | some query =>
      if query.sections.isEmpty then fromVocabulary className else fromTheme theme query
    | none => fromVocabulary className

end UtilityStyle.Suggestion
