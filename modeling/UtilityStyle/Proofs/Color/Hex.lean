import Mathlib.Data.List.Basic
import UtilityStyle.Proofs.Paint.Alpha
import UtilityStyle.Proofs.Text.Start

namespace UtilityStyle

theorem Text.trim_eq_self {text : String} (h : ∀ c ∈ text.toList, isBlank c = false) :
    trim text = text := by
  have hdrop : ∀ {cs : List Char}, (∀ c ∈ cs, isBlank c = false) → dropBlanks cs = cs := by
    intro cs hcs
    cases cs with
    | nil => rfl
    | cons c rest => exact List.dropWhile_cons_of_neg (by simp [hcs c List.mem_cons_self])
  rw [trim, dropBlanksEnd, hdrop h, hdrop fun c hc => h c (List.mem_reverse.1 hc),
    List.reverse_reverse, String.ofList_toList]

namespace Color

def hexDigits : List Char := "0123456789abcdefABCDEF".toList

def hexValue (c : Char) : Nat := "0123456789abcdef".toList.idxOf c.toLower

def pairValue (high low : Char) : Nat := 16 * hexValue high + hexValue low

def hexText (digits : List Char) : String := .ofList ('#' :: digits)

theorem forall_hexDigits {p : Char → Prop} [DecidablePred p] (h : hexDigits.all (p ·)) :
    ∀ c ∈ hexDigits, p c := by
  simpa using h

theorem hexValue?_of_mem : ∀ c ∈ hexDigits, hexValue? c = some (hexValue c) :=
  forall_hexDigits (by decide)

theorem isNameChar_of_mem : ∀ c ∈ hexDigits, Lexeme.isNameChar c ∧ c ≠ '\x00' :=
  forall_hexDigits (by decide)

theorem startsName_or_isDigit : ∀ c ∈ hexDigits, ∀ rest : List Char,
    Lexeme.startsName (c :: rest) || isDigit c := by
  have hstart : ∀ c ∈ hexDigits, c ≠ '-' ∧ (Lexeme.isNameStart c || isDigit c) :=
    forall_hexDigits (by decide)
  intro c hc rest
  obtain ⟨hdash, hname⟩ := hstart c hc
  unfold Lexeme.startsName
  split
  · rename_i he
    exact absurd (List.cons.inj he).1 hdash
  · rename_i he
    obtain ⟨rfl, rfl⟩ := List.cons.inj he
    rw [Bool.or_right_comm, hname, Bool.true_or]
  · rename_i he
    cases he

theorem isBlank_of_mem : ∀ c ∈ hexDigits, Text.isBlank c = false :=
  forall_hexDigits (by decide)

theorem utf8Size_of_mem : ∀ c ∈ hexDigits, c.utf8Size = 1 :=
  forall_hexDigits (by decide)

variable {digits : List Char}

theorem mapM_hexValue? (h : ∀ c ∈ digits, c ∈ hexDigits) :
    digits.mapM hexValue? = some (digits.map hexValue) := by
  induction digits with
  | nil => rfl
  | cons c rest ih =>
    obtain ⟨hc, hrest⟩ := List.forall_mem_cons.1 h
    rw [List.mapM_cons, hexValue?_of_mem c hc, ih hrest]
    rfl

theorem ofHex?_cases (h : ∀ c ∈ digits, c ∈ hexDigits) {color : Color}
    (hcolor : ofHex? digits = some color) :
    (digits.length = 3 ∨ digits.length = 6) ∧ color.alpha = one ∨
      digits.length = 4 ∨ digits.length = 8 := by
  rw [← List.length_map hexValue]
  unfold ofHex? at hcolor
  rw [mapM_hexValue? h] at hcolor
  split at hcolor
  · rename_i hvalues
    obtain rfl := Option.some.inj hcolor
    rw [Option.some.inj hvalues]
    exact .inl ⟨.inl rfl, rfl⟩
  · rename_i hvalues
    rw [Option.some.inj hvalues]
    exact .inr (.inl rfl)
  · rename_i hvalues
    obtain rfl := Option.some.inj hcolor
    rw [Option.some.inj hvalues]
    exact .inl ⟨.inr rfl, rfl⟩
  · rename_i hvalues
    rw [Option.some.inj hvalues]
    exact .inr (.inr rfl)
  · cases hcolor

theorem utf8ByteSize_hexText (h : ∀ c ∈ digits, c ∈ hexDigits) :
    (hexText digits).utf8ByteSize = digits.length + 1 := by
  have hdigits : (String.ofList digits).utf8ByteSize = digits.length := by
    induction digits with
    | nil => rfl
    | cons c rest ih =>
      obtain ⟨hc, hrest⟩ := List.forall_mem_cons.1 h
      rw [Text.utf8ByteSize_ofList_cons, utf8Size_of_mem c hc, ih hrest, List.length_cons,
        Nat.add_comm]
  rw [hexText, Text.utf8ByteSize_ofList_cons, hdigits, Nat.add_comm]
  rfl

theorem trim_hexText (h : ∀ c ∈ digits, c ∈ hexDigits) :
    Text.trim (hexText digits) = hexText digits := by
  apply Text.trim_eq_self
  rw [hexText, String.toList_ofList, List.forall_mem_cons]
  exact ⟨by decide, fun c hc => isBlank_of_mem c (h c hc)⟩

namespace Lexeme

theorem nameFrom_of_all {cs : List Char} (h : ∀ c ∈ cs, isNameChar c ∧ c ≠ '\x00') {fuel : Nat}
    (hfuel : cs.length < fuel) : nameFrom fuel cs = (cs, []) := by
  induction cs generalizing fuel with
  | nil =>
    obtain ⟨n, rfl⟩ := Nat.exists_eq_succ_of_ne_zero (Nat.ne_of_gt hfuel)
    rfl
  | cons c rest ih =>
    obtain ⟨n, rfl⟩ := Nat.exists_eq_succ_of_ne_zero (Nat.ne_of_gt (Nat.zero_lt_of_lt hfuel))
    obtain ⟨⟨hname, hzero⟩, hrest⟩ := List.forall_mem_cons.1 h
    rw [nameFrom, if_pos hname, ih hrest (Nat.lt_of_succ_lt_succ hfuel), if_neg hzero]

theorem readAll_hash {c : Char} {cs : List Char} (hstart : startsName (c :: cs) || isDigit c)
    (h : ∀ d ∈ c :: cs, isNameChar d ∧ d ≠ '\x00') :
    readAll ('#' :: c :: cs) = some [.hash (.ofList (c :: cs))] := by
  have hnumber : startsNumber ('#' :: c :: cs) = false := by cases cs <;> rfl
  have hname : startsName ('#' :: c :: cs) = false := rfl
  have hread : readName (c :: cs) = (.ofList (c :: cs), []) := by
    rw [readName, nameFrom_of_all h (Nat.lt_succ_self _)]
  have hhash : startsName (c :: cs) || isDigit c || c = '-' := by rw [hstart, Bool.true_or]
  rw [readAll, List.length_cons, List.length_cons, readFrom, if_neg (by decide), hnumber, hname]
  simp only [Bool.false_eq_true, if_false, hhash, if_true, hread, readFrom, Option.map_some]

end Lexeme

theorem read?_hexText (h : ∀ c ∈ digits, c ∈ hexDigits) :
    read? (hexText digits) = ofHex? digits := by
  rw [read?, trim_hexText h, hexText, String.toList_ofList]
  cases digits with
  | nil => rfl
  | cons c rest =>
    rw [Lexeme.readAll_hash]
    · rw [Option.bind_some, ofLexemes?, String.toList_ofList]
    · exact startsName_or_isDigit c (h c List.mem_cons_self) rest
    · exact fun d hd => isNameChar_of_mem d (h d hd)

theorem hasAlpha_hexText (h : ∀ c ∈ digits, c ∈ hexDigits) :
    hasAlpha (hexText digits) ↔ digits.length = 4 ∨ digits.length = 8 := by
  have hlower : ((hexText digits).map Char.toLower).toList = '#' :: digits.map Char.toLower := by
    simp [hexText]
  have hrgba : Text.afterStart "rgba(" ((hexText digits).map Char.toLower) = none := by
    rw [Text.afterStart, hlower]
    rfl
  have hhsla : Text.afterStart "hsla(" ((hexText digits).map Char.toLower) = none := by
    rw [Text.afterStart, hlower]
    rfl
  have hhash : Text.afterStart "#" (hexText digits) = some (.ofList digits) :=
    Text.afterStart_eq_some_iff.2 (by apply String.toList_inj.1; simp [hexText])
  unfold hasAlpha
  dsimp only
  rw [trim_hexText h, hrgba, hhsla, hhash, read?_hexText h, utf8ByteSize_hexText h]
  have hopaque : (ofHex? digits).any (fun color => color.alpha < one) →
      digits.length = 4 ∨ digits.length = 8 := by
    rw [Option.any_eq_true]
    rintro ⟨color, hcolor, halpha⟩
    refine (ofHex?_cases h hcolor).resolve_left fun hone => ?_
    rw [hone.2] at halpha
    exact absurd halpha (by decide)
  simp only [Option.isSome_none, Option.isSome_some, Bool.false_or, Bool.true_and, Bool.or_eq_true,
    decide_eq_true_eq]
  constructor
  · rintro (hlength | hcolor)
    · omega
    · exact hopaque hcolor
  · intro hlength
    left
    omega

end Color

namespace Paint

open Color

variable {digits : List Char} {property opacity mark : String}

/-- What a color in so many digits sets. One digit for a channel stands for two. -/
def ofHex (property opacity mark : String) : List Char → Style
  | [r, g, b] => split property opacity mark (pairValue r r) (pairValue g g) (pairValue b b)
  | [r, r', g, g', b, b'] =>
    split property opacity mark (pairValue r r') (pairValue g g') (pairValue b b')
  | digits => ⟨[(property, .string (hexText digits ++ mark))]⟩

theorem exists_of_length_eq_six (h : digits.length = 6) :
    ∃ r r' g g' b b', digits = [r, r', g, g', b, b'] := by
  match digits, h with
  | [r, r', g, g', b, b'], _ => exact ⟨r, r', g, g', b, b', rfl⟩

theorem ofHex_of_length (h3 : digits.length ≠ 3) (h6 : digits.length ≠ 6) :
    ofHex property opacity mark digits = .one property (hexText digits ++ mark) := by
  unfold ofHex
  split
  · exact absurd rfl h3
  · exact absurd rfl h6
  · rfl

/-- Three or six hexadecimal digits are split into channels and opacity, and any other number of
them stays as it is. -/
theorem colored_hex (hdigits : ∀ c ∈ digits, c ∈ hexDigits) (hne : opacity ≠ property)
    (mark : String) :
    colored (hexText digits) property opacity mark = ofHex property opacity mark digits := by
  have halpha := hasAlpha_hexText hdigits
  have hread : Color.read? (hexText digits) = Color.ofHex? digits := read?_hexText hdigits
  have hvalues := mapM_hexValue? hdigits
  by_cases h3 : digits.length = 3
  · obtain ⟨r, g, b, rfl⟩ := List.length_eq_three.1 h3
    have hcolor : Color.ofHex? [r, g, b] =
        some ⟨pairValue r r, pairValue g g, pairValue b b, one⟩ := by
      have hdouble : ∀ c, 17 * hexValue c = pairValue c c := fun c => by
        unfold pairValue
        omega
      simp only [Color.ofHex?, hvalues, List.map_cons, List.map_nil, hdouble]
    have hopaque : ¬Color.hasAlpha (hexText [r, g, b]) := by simp [halpha]
    exact (colored_of_read? hopaque (hread.trans hcolor) hne).trans rfl
  by_cases h6 : digits.length = 6
  · obtain ⟨r, r', g, g', b, b', rfl⟩ := exists_of_length_eq_six h6
    have hcolor : Color.ofHex? [r, r', g, g', b, b'] =
        some ⟨pairValue r r', pairValue g g', pairValue b b', one⟩ := by
      simp only [Color.ofHex?, hvalues, List.map_cons, List.map_nil, pairValue]
    have hopaque : ¬Color.hasAlpha (hexText [r, r', g, g', b, b']) := by simp [halpha]
    exact (colored_of_read? hopaque (hread.trans hcolor) hne).trans rfl
  rw [ofHex_of_length h3 h6]
  by_cases h : Color.hasAlpha (hexText digits)
  · exact colored_of_hasAlpha h
  · apply colored_of_not_read?
    rw [hread, Option.eq_none_iff_forall_ne_some]
    intro color hcolor
    rw [halpha] at h
    have hlength := ofHex?_cases hdigits hcolor
    omega

theorem colored_hex_short :
    colored "#0aF" "color" "--text-opacity" " !important" =
        ⟨[("--text-opacity", .string "1"),
          ("color", .string "rgba(0, 170, 255, var(--text-opacity)) !important")]⟩ ∧
      colored "#00AAff" "color" "--text-opacity" "" =
        ⟨[("--text-opacity", .string "1"),
          ("color", .string "rgba(0, 170, 255, var(--text-opacity))")]⟩ ∧
      colored "#0aFf" "color" "--text-opacity" "" = ⟨[("color", .string "#0aFf")]⟩ ∧
      colored "#00AAf" "color" "--text-opacity" "" = ⟨[("color", .string "#00AAf")]⟩ := by
  have hne : "--text-opacity" ≠ "color" := by decide
  have hdigits : ∀ {digits : List Char}, digits.all (· ∈ hexDigits) →
      ∀ c ∈ digits, c ∈ hexDigits := by
    intro digits h
    simpa using h
  refine ⟨?_, ?_, ?_, ?_⟩
  · exact (@colored_hex ['0', 'a', 'F'] _ _ (hdigits (by decide)) hne _).trans (by decide)
  · exact (@colored_hex ['0', '0', 'A', 'A', 'f', 'f'] _ _ (hdigits (by decide)) hne _).trans
      (by decide)
  · exact (@colored_hex ['0', 'a', 'F', 'f'] _ _ (hdigits (by decide)) hne _).trans (by decide)
  · exact (@colored_hex ['0', '0', 'A', 'A', 'f'] _ _ (hdigits (by decide)) hne _).trans (by decide)

end Paint

end UtilityStyle
