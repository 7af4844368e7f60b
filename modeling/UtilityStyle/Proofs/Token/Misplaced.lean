import UtilityStyle.Proofs.Token.Grammar

/-!
Tokens with the sign before some of their variants. Reading refuses them and names a token with the
sign behind those variants. That token is the one that was meant if all the names behind the sign
are names of variants, the class name has no sign or mark left, and nothing stands before the sign:
what does is missing from the token named.
-/

namespace UtilityStyle

namespace Token

/-- A token as it is written with the sign before some of its variants, of which only the first has
to have the name of a variant. -/
structure Misplaced where
  ahead : List String
  first : String
  others : List String
  className : String
  important : Bool
  isAhead : ∀ name ∈ ahead, isVariantName name.toList
  isFirst : isVariantName first.toList
  noColon : ∀ other ∈ others, ':' ∉ other.toList
  noColonInClass : ':' ∉ className.toList
  noBang : important ∨ className.toList.getLast? ≠ some '!'

namespace Misplaced

def behind (written : Misplaced) : List String := written.first :: written.others

def turned (written : Misplaced) : Token :=
  ⟨written.behind, true, written.important, written.className⟩

def text (written : Misplaced) : String :=
  String.join (written.ahead.map (· ++ ":")) ++ "-" ++
    { written.turned with negative := false }.text

def repaired (written : Misplaced) : String := written.turned.text

structure Readable (written : Misplaced) : Prop where
  isName : ∀ name ∈ written.others, isVariantName name.toList
  noSign : written.className.toList.head? ≠ some '-'
  noBang : written.className.toList.getLast? ≠ some '!'

variable {written : Misplaced}

theorem readable_iff : written.Readable ↔ written.turned.Grammatical := by
  constructor
  · intro h
    exact ⟨List.forall_mem_cons.2 ⟨written.isFirst, h.isName⟩, written.noColonInClass, h.noSign,
      h.noBang⟩
  · intro h
    exact ⟨(List.forall_mem_cons.1 h.isName).2, h.noSign, h.noBang⟩

theorem colon_not_mem_behind : ∀ piece ∈ written.behind.map String.toList, ':' ∉ piece := by
  intro piece hp
  obtain ⟨name, hn, rfl⟩ := List.mem_map.1 hp
  rcases List.mem_cons.1 hn with rfl | hn
  · exact colon_not_mem_of_isVariantName written.isFirst
  · exact written.noColon name hn

theorem toList_text (written : Misplaced) :
    written.text.toList = (written.ahead.map String.toList).flatMap (· ++ [':']) ++
      '-' :: ((written.behind.map String.toList).flatMap (· ++ [':']) ++ written.className.toList ++
        (if written.important then ['!'] else [])) := by
  unfold text
  rw [String.toList_append, String.toList_append, Token.toList_text]
  cases h : written.important <;> simp [turned, h, List.flatMap_map]

theorem toList_repaired (written : Misplaced) :
    written.repaired.toList = (written.behind.map String.toList).flatMap (· ++ [':']) ++
      '-' :: (written.className.toList ++ (if written.important then ['!'] else [])) :=
  Token.toList_text written.turned

theorem eq_turned {token : Token} (h : token.Grammatical) (ht : token.text = written.repaired) :
    token = written.turned := by
  have hcolon : ':' ∉ '-' :: (written.className.toList ++
      (if written.important then ['!'] else [])) := by
    have hclass := written.noColonInClass
    cases written.important <;> simp [hclass]
  have hpieces := congrArg (Text.pieces (· == ':')) (congrArg String.toList ht)
  rw [pieces_text h, toList_repaired, Text.pieces_flatMap_append colon_not_mem_behind,
    Text.pieces_of_not_mem hcolon] at hpieces
  obtain ⟨hvariants, hrest⟩ := List.append_inj' hpieces rfl
  have hsign := congrArg cutSign (List.cons.inj hrest).1
  rw [cutSign_append (head?_append_bang h)] at hsign
  obtain ⟨hnegative, hbody⟩ := Prod.mk.inj hsign
  have hbang := congrArg cutBang hbody
  rw [cutBang_append (.inr h.noBang), cutBang_append written.noBang] at hbang
  obtain ⟨himportant, hclass⟩ := Prod.mk.inj hbang
  obtain ⟨variants, negative, important, className⟩ := token
  rw [turned, Token.mk.injEq]
  exact ⟨(List.map_inj_right fun _ _ => String.toList_inj.1).1 hvariants, hnegative, himportant,
    String.toList_inj.1 hclass⟩

theorem read_repaired_eq_ok_iff {token : Token} :
    read written.repaired = .ok token ↔ written.Readable ∧ token = written.turned := by
  rw [read_eq_ok_iff, readable_iff]
  constructor
  · rintro ⟨h, ht⟩
    obtain rfl := eq_turned h ht
    exact ⟨h, rfl⟩
  · rintro ⟨h, rfl⟩
    exact ⟨h, rfl⟩

end Misplaced

theorem fault?_eq_misplaced_iff {negative important : Bool} {body : List Char} {repaired : String} :
    fault? negative important body = some (.misplacedNegative repaired) ↔
      negative ∧ ∃ before after, body = before ++ ':' :: after ∧ ':' ∉ after ∧
        isVariantName (before.takeWhile (· ≠ ':')) ∧
        repaired = String.ofList (before ++ ':' :: '-' :: after ++
          (if important then ['!'] else [])) := by
  simp only [← and_assoc, ← Text.cutLast_eq_some_iff]
  unfold fault?
  cases Text.cutLast ':' body with
  | none =>
    dsimp only
    split
    · simp
    · split <;> simp
  | some cut =>
    obtain ⟨before, after⟩ := cut
    dsimp only
    split <;> rename_i h
    · obtain ⟨hnegative, hname⟩ := Bool.and_eq_true_iff.1 h
      constructor
      · intro he
        exact ⟨hnegative, before, after, ⟨rfl, hname⟩,
          (Fault.misplacedNegative.inj (Option.some.inj he)).symm⟩
      · rintro ⟨-, _, _, ⟨⟨⟩, -⟩, rfl⟩
        rfl
    · constructor
      · nofun
      · rintro ⟨hnegative, _, _, ⟨⟨⟩, hname⟩, -⟩
        exact absurd (Bool.and_eq_true_iff.2 ⟨hnegative, hname⟩) h

namespace Misplaced

variable {written : Misplaced}

def scope (written : Misplaced) : List Char := Text.join ':' (written.behind.map String.toList)

theorem scope_append (rest : List Char) :
    written.scope ++ ':' :: rest =
      (written.behind.map String.toList).flatMap (· ++ [':']) ++ rest :=
  Text.join_append_separator ':' (by simp [behind]) rest

theorem takeWhile_scope : written.scope.takeWhile (· ≠ ':') = written.first.toList := by
  obtain ⟨others, hpieces⟩ := Text.pieces_eq_takeWhile_cons ':' written.scope
  have hbehind : Text.pieces (· == ':') written.scope = written.behind.map String.toList := by
    apply Text.pieces_join rfl
    · intro piece hp c hc
      simpa using fun e : c = ':' => colon_not_mem_behind piece hp (e ▸ hc)
    · simp [behind]
  rw [hbehind] at hpieces
  exact (List.cons.inj hpieces).1.symm

theorem cutVariants_text (rest : List Char) :
    cutVariants ((written.ahead.map String.toList).flatMap (· ++ [':']) ++ '-' :: rest) =
      (written.ahead.map String.toList, '-' :: rest) := by
  apply cutVariants_flatMap_append_of_head?
  · simpa using written.isAhead
  · obtain ⟨others, hpieces⟩ := Text.pieces_eq_takeWhile_cons ':' ('-' :: rest)
    rw [hpieces]
    cases others with
    | nil => simp
    | cons other others =>
      rintro piece ⟨⟩
      simp [isVariantName, isNameStart]

theorem read_text (written : Misplaced) :
    read written.text = .error (.misplacedNegative written.repaired) := by
  have hscope : (written.behind.map String.toList).flatMap (· ++ [':']) ++
      written.className.toList = written.scope ++ ':' :: written.className.toList :=
    (scope_append _).symm
  have hbang : written.important ∨
      (written.scope ++ ':' :: written.className.toList).getLast? ≠ some '!' := by
    apply written.noBang.imp_right
    intro hlast he
    cases hc : written.className.toList with
    | nil => simp [hc] at he
    | cons c rest =>
      rw [hc] at hlast he
      exact hlast (by simpa using he)
  have hfault : fault? true written.important
      (written.scope ++ ':' :: written.className.toList) =
        some (.misplacedNegative written.repaired) := by
    refine fault?_eq_misplaced_iff.2
      ⟨rfl, written.scope, written.className.toList, rfl, written.noColonInClass, ?_, ?_⟩
    · rw [takeWhile_scope]
      exact written.isFirst
    · apply String.toList_inj.1
      rw [toList_repaired, ← scope_append]
      simp
  unfold read
  rw [toList_text, cutVariants_text, hscope]
  simp only [cutSign, cutBang_append hbang, hfault]

theorem exists_written {names : List (List Char)} {before after : List Char} {important : Bool}
    (hnames : ∀ name ∈ names, isVariantName name)
    (hname : isVariantName (before.takeWhile (· ≠ ':'))) (hafter : ':' ∉ after)
    (hbang : important ∨ after.getLast? ≠ some '!') :
    ∃ written : Misplaced, written.scope = before ∧
      written.ahead.map String.toList = names ∧ written.className.toList = after ∧
      written.important = important := by
  obtain ⟨others, hpieces⟩ := Text.pieces_eq_takeWhile_cons ':' before
  generalize before.takeWhile (· ≠ ':') = first at hname hpieces
  have hothers : ∀ other ∈ others, ':' ∉ other := by
    intro other ho hc
    have hpiece : other ∈ Text.pieces (· == ':') before := hpieces ▸ List.mem_cons_of_mem _ ho
    exact absurd (Text.not_mem_of_mem_pieces hpiece ':' hc) (by decide)
  refine ⟨⟨names.map String.ofList, String.ofList first, others.map String.ofList,
    String.ofList after, important, by simpa using hnames, by simpa using hname,
    by simpa using hothers, by simpa using hafter, by simpa using hbang⟩, ?_, ?_, ?_, rfl⟩
  · simp [scope, behind, Function.comp_def, ← hpieces, Text.join_pieces]
  · simp [Function.comp_def]
  · exact String.toList_ofList

end Misplaced

theorem read_eq_misplaced_iff {raw repaired : String} :
    read raw = .error (.misplacedNegative repaired) ↔
      ∃ written : Misplaced, written.text = raw ∧ written.repaired = repaired := by
  constructor
  · intro h
    cases hv : cutVariants raw.toList with
    | mk names afterNames =>
    cases hs : cutSign afterNames with
    | mk negative afterSign =>
    cases hb : cutBang afterSign with
    | mk important body =>
    simp only [read, hv, hs, hb] at h
    cases hf : fault? negative important body with
    | none => simp [hf] at h
    | some fault =>
      obtain rfl : fault = .misplacedNegative repaired := by simpa [hf] using h
      obtain ⟨rfl, before, after, rfl, hafter, hname, rfl⟩ := fault?_eq_misplaced_iff.1 hf
      obtain ⟨hraw, hnames⟩ := cutVariants_eq hv
      have hbang : important ∨ after.getLast? ≠ some '!' := by
        apply (getLast?_of_cutBang hb).imp_right
        intro hlast he
        obtain ⟨front, rfl⟩ := List.getLast?_eq_some_iff.1 he
        exact hlast (by rw [← List.cons_append, ← List.append_assoc, List.getLast?_concat])
      obtain ⟨written, rfl, rfl, rfl, rfl⟩ := Misplaced.exists_written hnames hname hafter hbang
      refine ⟨written, String.toList_inj.1 ?_, String.toList_inj.1 ?_⟩
      · rw [written.toList_text, hraw, cutSign_eq hs, cutBang_eq hb, ← Misplaced.scope_append]
        rfl
      · rw [written.toList_repaired, ← Misplaced.scope_append, String.toList_ofList]
        simp
  · rintro ⟨written, rfl, rfl⟩
    exact written.read_text

/-- Reading names another token just for the texts that have the sign before some variants. That
token can be read if what stands behind the sign can, and its variants are the names behind the
sign. So it is the token as it is written, with the sign in its place, just if in addition no name
stands before the sign. -/
theorem read_misplaced (raw repaired : String) :
    (read raw = .error (.misplacedNegative repaired) ↔
      ∃ written : Misplaced, written.text = raw ∧ written.repaired = repaired) ∧
    ∀ written : Misplaced, written.text = raw → written.repaired = repaired →
      (∀ token, read repaired = .ok token ↔
        written.Readable ∧
          token = ⟨written.behind, true, written.important, written.className⟩) ∧
      (read repaired =
          .ok ⟨written.ahead ++ written.behind, true, written.important, written.className⟩ ↔
        written.ahead = [] ∧ written.Readable) := by
  refine ⟨read_eq_misplaced_iff, ?_⟩
  rintro written - rfl
  constructor
  · intro token
    exact Misplaced.read_repaired_eq_ok_iff
  · rw [Misplaced.read_repaired_eq_ok_iff, Misplaced.turned, Token.mk.injEq]
    constructor
    · rintro ⟨hreadable, hvariants, -⟩
      exact ⟨by simpa using hvariants, hreadable⟩
    · rintro ⟨hahead, hreadable⟩
      exact ⟨hreadable, by rw [hahead, List.nil_append], rfl, rfl, rfl⟩

def Misplaced.beforeAll : Misplaced :=
  ⟨[], "md", ["hover"], "p-4", true, by decide, by decide, by decide, by decide, by decide⟩

theorem read_misplaced_before_all :
    read "-md:hover:p-4!" = .error (.misplacedNegative "md:hover:-p-4!") ∧
      read "md:hover:-p-4!" = .ok ⟨["md", "hover"], true, true, "p-4"⟩ := by
  have hreadable : Misplaced.beforeAll.Readable := ⟨by decide, by decide, by decide⟩
  have htext : Misplaced.beforeAll.text = "-md:hover:p-4!" := by decide
  have hrepaired : Misplaced.beforeAll.repaired = "md:hover:-p-4!" := by decide
  obtain ⟨hread, hnamed⟩ := read_misplaced "-md:hover:p-4!" "md:hover:-p-4!"
  constructor
  · exact hread.2 ⟨.beforeAll, htext, hrepaired⟩
  · exact (hnamed .beforeAll htext hrepaired).2.2 ⟨rfl, hreadable⟩

def Misplaced.between : Misplaced :=
  ⟨["md"], "hover", [], "p-4", false, by decide, by decide, by decide, by decide, by decide⟩

theorem not_read_misplaced :
    ¬∀ (written : Misplaced) (repaired : String),
      read written.text = .error (.misplacedNegative repaired) →
        read repaired =
          .ok ⟨written.ahead ++ written.behind, true, written.important, written.className⟩ := by
  intro h
  have hread : read Misplaced.between.text = .error (.misplacedNegative "hover:-p-4") := by
    decide
  have hnamed : read "hover:-p-4" = .ok ⟨["hover"], true, false, "p-4"⟩ := by decide
  have hmeant := h .between _ hread
  rw [hnamed] at hmeant
  exact absurd (Token.mk.inj (Except.ok.inj hmeant)).1 (by decide)

end Token

end UtilityStyle
