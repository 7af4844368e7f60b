import UtilityStyle.Paint.Alpha

namespace UtilityStyle.Paint

def split (property opacity mark : String) (red green blue : Nat) : Style :=
  ⟨[(opacity, .string "1"),
    (property, .string ("rgba(" ++ toString red ++ ", " ++ toString green ++ ", " ++
      toString blue ++ ", var(" ++ opacity ++ "))" ++ mark))]⟩

variable {color property opacity mark : String}

theorem colored_of_hasAlpha (h : Color.hasAlpha color) :
    colored color property opacity mark = .one property (color ++ mark) :=
  if_pos h

theorem colored_of_not_read? (h : Color.read? color = none) :
    colored color property opacity mark = .one property (color ++ mark) := by
  unfold colored
  dsimp only
  rw [h]
  exact ite_self _

theorem colored_of_read? {channels : Color} (halpha : ¬Color.hasAlpha color)
    (h : Color.read? color = some channels) (hne : opacity ≠ property) :
    colored color property opacity mark =
      split property opacity mark channels.red channels.green channels.blue := by
  unfold colored
  dsimp only
  rw [if_neg halpha, h]
  simp [split, Style.one, Style.empty, Style.putText, Style.put, Entries.put, hne,
    String.append_assoc]

theorem colored_cases (hne : opacity ≠ property) (color mark : String) :
    colored color property opacity mark = .one property (color ++ mark) ∨
      ∃ channels, Color.read? color = some channels ∧
        colored color property opacity mark =
          split property opacity mark channels.red channels.green channels.blue := by
  by_cases halpha : Color.hasAlpha color
  · exact .inl (colored_of_hasAlpha halpha)
  · cases hread : Color.read? color with
    | none => exact .inl (colored_of_not_read? hread)
    | some channels => exact .inr ⟨channels, rfl, colored_of_read? halpha hread hne⟩

end UtilityStyle.Paint
