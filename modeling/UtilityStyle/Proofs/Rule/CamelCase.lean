import Mathlib.Data.Bool.AllAny
import Mathlib.Data.List.Nodup
import Mathlib.Data.Set.Function
import UtilityStyle.Proofs.Style.Algebra
import UtilityStyle.Proofs.Style.Declaration
import UtilityStyle.Proofs.Text.Pieces
import UtilityStyle.Rule.Rulebook

namespace UtilityStyle

namespace Property

theorem isVariable_iff {property : String} :
    isVariable property ↔ ∃ rest, property.toList = '-' :: '-' :: rest := by
  rw [isVariable, List.isPrefixOf_iff_prefix]
  exact exists_congr fun _ => eq_comm

def smallLetters : List Char := "abcdefghijklmnopqrstuvwxyz".toList

theorem isWord_of_mem : ∀ c ∈ smallLetters, Text.isWord c :=
  List.all_iff_forall_prop.1 (by decide)

theorem capital_of_mem : ∀ c ∈ smallLetters, Text.capital c = [c.toUpper] :=
  List.all_iff_forall_prop.1 (by decide)

theorem ne_dash_of_mem : ∀ c ∈ smallLetters, c ≠ '-' ∧ c.toUpper ≠ '-' :=
  List.all_iff_forall_prop.1 (by decide)

structure Word where
  first : Char
  rest : List Char
  small : (first :: rest).all (· ∈ smallLetters)
  deriving DecidableEq

namespace Word

def letters (word : Word) : List Char := word.first :: word.rest

def capitalized (word : Word) : List Char := word.first.toUpper :: word.rest

theorem letters_mem (word : Word) : ∀ c ∈ word.letters, c ∈ smallLetters :=
  List.all_iff_forall_prop.1 word.small

theorem first_mem (word : Word) : word.first ∈ smallLetters :=
  word.letters_mem word.first List.mem_cons_self

theorem rest_mem (word : Word) : ∀ c ∈ word.rest, c ∈ smallLetters :=
  fun c hc => word.letters_mem c (List.mem_cons_of_mem _ hc)

end Word

/-- A name as style sheets have it: words with dashes between them, and one more in front if the
property is a vendor's. -/
structure Name where
  vendor : Bool
  first : Word
  later : List Word
  deriving DecidableEq

namespace Name

def text (name : Name) : String :=
  (if name.vendor then "-" else "") ++
    "-".intercalate ((name.first :: name.later).map fun word => .ofList word.letters)

def key (name : Name) : String :=
  .ofList ((if name.vendor then name.first.capitalized else name.first.letters) ++
    name.later.flatMap Word.capitalized)

theorem toList_text (name : Name) :
    name.text.toList = (if name.vendor then ['-'] else []) ++
      (name.first.letters ++ name.later.flatMap fun word => '-' :: word.letters) := by
  have hdash : (if name.vendor then "-" else "").toList = if name.vendor then ['-'] else [] := by
    split <;> rfl
  rw [text, String.toList_append, hdash, Text.toList_intercalate (c := '-') rfl, List.map_map,
    List.map_cons, Text.join_cons, List.flatMap_map]
  simp

theorem not_isVariable_text (name : Name) : ¬isVariable name.text := by
  have hfirst := (ne_dash_of_mem _ name.first.first_mem).1
  rw [isVariable_iff, toList_text]
  rintro ⟨rest, h⟩
  cases hvendor : name.vendor <;> simp [hvendor, Word.letters, hfirst] at h

theorem not_isVariable_key (name : Name) : ¬isVariable name.key := by
  obtain ⟨hfirst, hcapital⟩ := ne_dash_of_mem _ name.first.first_mem
  rw [isVariable_iff, key, String.toList_ofList]
  rintro ⟨rest, h⟩
  cases hvendor : name.vendor with
  | false => simp [hvendor, Word.letters, hfirst] at h
  | true => simp [hvendor, Word.capitalized, hcapital] at h

end Name

theorem joinFrom_letters {letters : List Char} (h : ∀ c ∈ letters, c ∈ smallLetters)
    (cs : List Char) : joinFrom [] (letters ++ cs) = letters ++ joinFrom [] cs := by
  induction letters with
  | nil => rfl
  | cons c rest ih =>
    obtain ⟨hc, hrest⟩ := List.forall_mem_cons.1 h
    rw [List.cons_append, joinFrom, if_pos (isWord_of_mem c hc), ih hrest]
    rfl

theorem joinFrom_word (word : Word) (cs : List Char) :
    joinFrom [] (word.letters ++ cs) = word.letters ++ joinFrom [] cs :=
  joinFrom_letters word.letters_mem cs

theorem joinFrom_dash (word : Word) (cs : List Char) :
    joinFrom [] ('-' :: (word.letters ++ cs)) = word.capitalized ++ joinFrom [] cs := by
  have hdash : ¬Text.isWord '-' := by decide
  have hrest := joinFrom_letters word.rest_mem cs
  rw [joinFrom, if_neg hdash, Word.letters, List.cons_append, joinFrom,
    if_pos (isWord_of_mem _ word.first_mem), capital_of_mem _ word.first_mem, hrest]
  rfl

theorem joinFrom_later (later : List Word) :
    joinFrom [] (later.flatMap fun word => '-' :: word.letters) =
      later.flatMap Word.capitalized := by
  induction later with
  | nil => rfl
  | cons word later ih =>
    rw [List.flatMap_cons, List.cons_append, joinFrom_dash, ih, List.flatMap_cons]

theorem camelCase_of_isVariable {property : String} (h : isVariable property) :
    camelCase property = property := by
  obtain ⟨rest, hdashes⟩ := isVariable_iff.1 h
  simp only [camelCase, hdashes]

theorem camelCase_of_not_isVariable {property : String} (h : ¬isVariable property) :
    camelCase property = .ofList (joinFrom [] property.toList) := by
  unfold camelCase
  split
  · rename_i hdashes
    exact absurd (isVariable_iff.2 ⟨_, hdashes⟩) h
  · rfl

theorem camelCase_text (name : Name) : camelCase name.text = name.key := by
  rw [camelCase_of_not_isVariable name.not_isVariable_text, Name.toList_text, Name.key]
  -- behind a vendor's dash the first word is read as the later ones are
  cases name.vendor with
  | false => exact congrArg String.ofList (by simp [joinFrom_word, joinFrom_later])
  | true => exact congrArg String.ofList (by simp [joinFrom_dash, joinFrom_later])

def uncapital (c : Char) : List Char := if c.isUpper then ['-', c.toLower] else [c]

def hyphenated (key : String) : String :=
  if isVariable key then key else .ofList (key.toList.flatMap uncapital)

theorem uncapital_of_mem : ∀ c ∈ smallLetters, uncapital c = [c] :=
  List.all_iff_forall_prop.1 (by decide)

theorem uncapital_toUpper_of_mem : ∀ c ∈ smallLetters, uncapital c.toUpper = ['-', c] :=
  List.all_iff_forall_prop.1 (by decide)

theorem flatMap_uncapital {letters : List Char} (h : ∀ c ∈ letters, c ∈ smallLetters) :
    letters.flatMap uncapital = letters := by
  induction letters with
  | nil => rfl
  | cons c rest ih =>
    obtain ⟨hc, hrest⟩ := List.forall_mem_cons.1 h
    rw [List.flatMap_cons, uncapital_of_mem c hc, ih hrest, List.singleton_append]

theorem flatMap_uncapital_letters (word : Word) : word.letters.flatMap uncapital = word.letters :=
  flatMap_uncapital word.letters_mem

theorem flatMap_uncapital_capitalized (word : Word) :
    word.capitalized.flatMap uncapital = '-' :: word.letters := by
  have hrest := flatMap_uncapital word.rest_mem
  rw [Word.capitalized, List.flatMap_cons, uncapital_toUpper_of_mem _ word.first_mem, hrest]
  rfl

theorem hyphenated_key (name : Name) : hyphenated name.key = name.text := by
  have hlater : (name.later.flatMap Word.capitalized).flatMap uncapital =
      name.later.flatMap fun word => '-' :: word.letters := by
    rw [List.flatMap_assoc]
    simp only [flatMap_uncapital_capitalized]
  apply String.toList_inj.1
  rw [hyphenated, if_neg name.not_isVariable_key, String.toList_ofList, Name.key,
    String.toList_ofList, List.flatMap_append, hlater, Name.toList_text]
  cases name.vendor with
  | false => simp [flatMap_uncapital_letters]
  | true => simp [flatMap_uncapital_capitalized]

def declarable : Set String := Set.range Name.text ∪ {property | isVariable property}

theorem leftInvOn_hyphenated : Set.LeftInvOn hyphenated camelCase declarable := by
  rintro property (⟨name, rfl⟩ | (hvariable : isVariable property))
  · rw [camelCase_text, hyphenated_key]
  · rw [camelCase_of_isVariable hvariable, hyphenated, if_pos hvariable]

/-- The key of a name is its words in one, a capital for each dash. A variable is its own key. No
two properties have one key. -/
theorem camelCase_declarable :
    (∀ name : Name, camelCase name.text = name.key) ∧
      (∀ property, isVariable property → camelCase property = property) ∧
      Set.InjOn camelCase declarable :=
  ⟨camelCase_text, fun _ => camelCase_of_isVariable, leftInvOn_hyphenated.injOn⟩

theorem camelCase_declarable_letters :
    camelCase "-o-x" = "OX" ∧ camelCase "o-x" = "oX" ∧ camelCase "--o-x" = "--o-x" ∧
      camelCase "ox" ≠ camelCase "o-x" := by
  obtain ⟨hname, hvariable, hinj⟩ := camelCase_declarable
  refine ⟨?_, ?_, hvariable "--o-x" (by decide), ?_⟩
  · exact (hname ⟨true, ⟨'o', [], by decide⟩, [⟨'x', [], by decide⟩]⟩).trans (by decide)
  · exact (hname ⟨false, ⟨'o', [], by decide⟩, [⟨'x', [], by decide⟩]⟩).trans (by decide)
  · have hjoined : "ox" ∈ declarable := .inl ⟨⟨false, ⟨'o', ['x'], by decide⟩, []⟩, by decide⟩
    have hdashed : "o-x" ∈ declarable :=
      .inl ⟨⟨false, ⟨'o', [], by decide⟩, [⟨'x', [], by decide⟩]⟩, by decide⟩
    exact fun he => absurd (hinj hjoined hdashed he) (by decide)

end Property

namespace Rule

theorem fields_style (rule : Rule) :
    rule.style.fields = Style.mergeFields [] (rule.declarations.map fun (property, value) =>
      (Property.camelCase property, .string value)) := by
  have hfold : ∀ (declarations : Entries String) (style : Style),
      (declarations.foldl (fun style (property, value) =>
        style.putText (Property.camelCase property) value) style).fields =
      Style.mergeFields style.fields (declarations.map fun (property, value) =>
        (Property.camelCase property, .string value)) := by
    intro declarations
    induction declarations with
    | nil => exact fun _ => rfl
    | cons d rest ih => exact fun style => ih _
  exact hfold rule.declarations .empty

/-- Of different properties a rule keeps every declaration, in order. -/
theorem fields_style_of_declarable {rule : Rule} (hnodup : (Entries.keys rule.declarations).Nodup)
    (h : ∀ property ∈ Entries.keys rule.declarations, property ∈ Property.declarable) :
    rule.style.fields = rule.declarations.map fun (property, value) =>
      (Property.camelCase property, .string value) := by
  have hkeys : Entries.keys (rule.declarations.map fun (property, value) =>
      (Property.camelCase property, Json.string value)) =
      (Entries.keys rule.declarations).map Property.camelCase := by
    simp [Entries.keys, Function.comp_def]
  have hdistinct := hnodup.map_on fun a ha b hb =>
    Property.leftInvOn_hyphenated.injOn (h a ha) (h b hb)
  rw [fields_style, Style.mergeFields_of_disjoint (hkeys ▸ hdistinct) (by simp [Entries.keys]),
    List.nil_append]

end Rule

end UtilityStyle
