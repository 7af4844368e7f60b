import UtilityStyle.Entries

namespace UtilityStyle.Selector

def builtin : Entries String := [
  ("hover", ":hover"),
  ("focus", ":focus"),
  ("active", ":active"),
  ("visited", ":visited"),
  ("disabled", ":disabled"),
  ("first", ":first-child"),
  ("last", ":last-child"),
  ("odd", ":nth-child(odd)"),
  ("even", ":nth-child(even)"),
  ("group-hover", ".group:hover &"),
  ("group-focus", ".group:focus &"),
  ("focus-within", ":focus-within"),
  ("before", ":before"),
  ("after", ":after"),
  ("hocus", ":hover, :focus"),
  ("link", ":link"),
  ("target", ":target"),
  ("focus-visible", ":focus-visible"),
  ("checked", ":checked"),
  ("not-checked", ":not(:checked)"),
  ("default", ":default"),
  ("enabled", ":enabled"),
  ("indeterminate", ":indeterminate"),
  ("invalid", ":invalid"),
  ("valid", ":valid"),
  ("optional", ":optional"),
  ("required", ":required"),
  ("placeholder-shown", ":placeholder-shown"),
  ("read-only", ":read-only"),
  ("read-write", ":read-write"),
  ("not-first", ":not(:first-child)"),
  ("not-last", ":not(:last-child)"),
  ("not-only-child", ":not(:only-child)"),
  ("only-child", ":only-child"),
  ("only-of-type", ":only-of-type"),
  ("group-hocus", ".group:hover &, .group:focus &"),
  ("group-active", ".group:active &"),
  ("group-visited", ".group:visited &")]

def builtin? (name : String) : Option String := Entries.get? name builtin

/-- Writes `&` before each colon that starts the text or follows a space. -/
def sassyFrom (atStart : Bool) : List Char → List Char
  | [] => []
  | c :: rest =>
    let more := c :: sassyFrom (c = ' ') rest
    if c = ':' && atStart then '&' :: more else more

def sassy (selector : String) : String := String.ofList (sassyFrom true selector.toList)

def laterSiblings : String := "> :not(template) ~ :not(template)"

end UtilityStyle.Selector
