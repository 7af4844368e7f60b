import UtilityStyle.Theme.Builtin

/-!
A user's theme over the built-in one. A section of the user replaces the built-in one, an extension
is laid over whatever the section came to, and sections derived from others follow what those came
to.
-/

namespace UtilityStyle

namespace Json

mutual

def overlay (old : Json) : Json → Json
  | .object more =>
    match old with
    | .object fields => .object (overlayFields fields more)
    | _ => .object more
  | value => value

def overlayFields (fields : Fields) : List (String × Json) → Fields
  | [] => fields
  | (key, value) :: rest =>
    match Entries.get? key fields with
    | some old => overlayFields (Entries.put key (overlay old value) fields) rest
    | none => overlayFields (Entries.put key value fields) rest

end

end Json

namespace Theme

structure Overrides where
  sections : Fields
  extension : Fields
  deriving DecidableEq

namespace Overrides

def ofFields (fields : Fields) : Except ThemeError Overrides :=
  match Entries.get? "extend" fields with
  | none | some .null => .ok ⟨fields, []⟩
  | some (.object extension) => .ok ⟨fields, extension⟩
  | some _ => .error (.invalid .extensionNotAnObject)

def ofJson : Json → Except ThemeError Overrides
  | .object fields => ofFields fields
  | _ => .error (.invalid .overridesNotAnObject)

def settle (overrides : Overrides) (name : String) (builtin : Json) : Json :=
  let value := (Entries.get? name overrides.sections).getD builtin
  match Entries.get? name overrides.extension with
  | some extra => value.overlay extra
  | none => value

def names (overrides : Overrides) : List String :=
  (Entries.keys overrides.sections ++ Entries.keys overrides.extension).filter (· ≠ "extend")

def addCustom (overrides : Overrides) (resolved : Fields) : Fields :=
  overrides.names.foldl
    (fun resolved name =>
      if Entries.has name resolved then resolved
      else Entries.put name (overrides.settle name (.object [])) resolved)
    resolved

def theme (overrides : Overrides) : Theme :=
  ⟨overrides.addCustom (settleAll overrides.settle builtinSections)⟩

end Overrides

def withOverrides (user : Json) : Except ThemeError Theme :=
  (Overrides.ofJson user).map Overrides.theme

end Theme

end UtilityStyle
