import UtilityStyle.Container
import UtilityStyle.Paint.Basic
import UtilityStyle.Sibling

namespace UtilityStyle.Family

def style (family : Family) (r : Request) : Except Error Style :=
  match family with
  | .container => Container.resolve r
  | .space => Sibling.space r
  | .divide => Sibling.divide r
  | .placeholder => Paint.placeholder r
  | .text => Paint.text r
  | .bg => Paint.background r
  | .border => Paint.border r

def all : List Family := [.container, .space, .divide, .placeholder, .text, .bg, .border]

def named? (name : String) : Option Family := all.find? (·.name = name)

end UtilityStyle.Family
