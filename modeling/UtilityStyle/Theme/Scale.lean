import UtilityStyle.Theme.Basic

namespace UtilityStyle

namespace Scale

def texts (pairs : List (String × String)) : Fields := pairs.map fun (k, v) => (k, .string v)

def upTo (count : Nat) (text : Nat → String) : Fields :=
  (List.range count).map fun n => (toString (n + 1), .string (text (n + 1)))

def negatedText (text : String) : String := (Text.afterStart "-" text).getD ("-" ++ text)

/-- The negative twin of a token: `4: 1rem` has `-4: -1rem`. Zero has none, nor has what is not
text. -/
def negated? : String × Json → Option (String × Json)
  | (key, .string text) =>
    if text = "0" then none else some ("-" ++ key, .string (negatedText text))
  | _ => none

def negated (fields : Fields) : Fields := fields.filterMap negated?

end Scale

inductive Tokens
  | fixed (tokens : Fields)
  | sameAs (base : String)
  | withDefault (base : String) (text : String)
  | around (first : Fields) (base : String) (twins : Bool) (last : Fields)

namespace Tokens

def base? : Tokens → Option String
  | .fixed _ => none
  | .sameAs base | .withDefault base _ | .around _ base _ _ => some base

def value (resolved : Fields) : Tokens → Json
  | .fixed tokens => .object tokens
  | .sameAs base => (Entries.get? base resolved).getD .null
  | .withDefault base text =>
    match (Entries.get? base resolved).getD .null with
    | .object fields => .object (Entries.put "default" (.string text) fields)
    | other => other
  | .around first base twins last =>
    let fields := ((Entries.get? base resolved).bind Json.fields?).getD []
    let negatives := if twins then Scale.negated fields else []
    .object (Entries.putAll (Entries.putAll (Entries.putAll first fields) negatives) last)

end Tokens

end UtilityStyle
