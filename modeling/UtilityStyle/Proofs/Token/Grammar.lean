import Mathlib.Data.List.TakeWhile
import UtilityStyle.Proofs.Text.Pieces
import UtilityStyle.Token

namespace UtilityStyle.Token

/-- What is written can be told apart: names of variants are names, and the class name has no colon,
does not start as a sign does, and does not end as a mark does. -/
structure Grammatical (token : Token) : Prop where
  isName : ∀ name ∈ token.variants, isVariantName name.toList
  noColon : ':' ∉ token.className.toList
  noSign : token.className.toList.head? ≠ some '-'
  noBang : token.className.toList.getLast? ≠ some '!'

theorem colon_not_mem_of_isVariantName {name : List Char} (h : isVariantName name) :
    ':' ∉ name := by
  cases name with
  | nil => cases h
  | cons c rest =>
    simp only [isVariantName, Bool.and_eq_true, List.all_eq_true] at h
    rw [List.mem_cons, not_or]
    constructor
    · rintro rfl
      exact absurd h.1 (by decide)
    · intro hr
      exact absurd (h.2 _ hr) (by decide)

theorem cutVariants_eq {cs rest : List Char} {names : List (List Char)}
    (h : cutVariants cs = (names, rest)) :
    cs = names.flatMap (· ++ [':']) ++ rest ∧ ∀ name ∈ names, isVariantName name := by
  obtain ⟨rfl, rfl⟩ := Prod.mk.inj h
  have htaken := List.takeWhile_prefix isVariantName (l := (Text.pieces (· == ':') cs).dropLast)
  have hlength := htaken.length_le
  constructor
  · have hlt : ((Text.pieces (· == ':') cs).dropLast.takeWhile isVariantName).length <
        (Text.pieces (· == ':') cs).length := by
      have hpos := List.length_pos_iff.2 (Text.pieces_ne_nil (· == ':') cs)
      rw [List.length_dropLast] at hlength
      omega
    have htake := List.prefix_iff_eq_take.1 (htaken.trans (List.dropLast_prefix _))
    rw [htake, List.length_take, Nat.min_eq_left (Nat.le_of_lt hlt),
      ← Text.join_eq_flatMap_append ':' hlt, Text.join_pieces]
  · intro name hn
    exact List.mem_takeWhile_imp hn

theorem cutVariants_flatMap_append_of_head? {names : List (List Char)} {rest : List Char}
    (hn : ∀ name ∈ names, isVariantName name)
    (hr : ∀ piece ∈ (Text.pieces (· == ':') rest).dropLast.head?, isVariantName piece = false) :
    cutVariants (names.flatMap (· ++ [':']) ++ rest) = (names, rest) := by
  have hnames : ((Text.pieces (· == ':') rest).dropLast).takeWhile isVariantName = [] := by
    cases hp : (Text.pieces (· == ':') rest).dropLast with
    | nil => rfl
    | cons piece others =>
      rw [List.takeWhile_cons_of_neg]
      simpa [hp] using hr
  unfold cutVariants
  rw [Text.pieces_flatMap_append fun name h => colon_not_mem_of_isVariantName (hn name h)]
  dsimp only
  rw [List.dropLast_append_of_ne_nil (Text.pieces_ne_nil _ rest), List.takeWhile_append_of_pos hn,
    hnames, List.append_nil, List.drop_left, Text.join_pieces]

theorem cutVariants_flatMap_append {names : List (List Char)} {rest : List Char}
    (hn : ∀ name ∈ names, isVariantName name) (hr : ':' ∉ rest) :
    cutVariants (names.flatMap (· ++ [':']) ++ rest) = (names, rest) := by
  apply cutVariants_flatMap_append_of_head? hn
  rw [Text.pieces_of_not_mem hr]
  simp

theorem cutSign_eq {cs rest : List Char} {negative : Bool} (h : cutSign cs = (negative, rest)) :
    cs = (if negative then ['-'] else []) ++ rest := by
  unfold cutSign at h
  split at h <;> cases h <;> rfl

theorem cutSign_append {negative : Bool} {rest : List Char} (h : rest.head? ≠ some '-') :
    cutSign ((if negative then ['-'] else []) ++ rest) = (negative, rest) := by
  cases negative with
  | true => rfl
  | false =>
    cases rest with
    | nil => rfl
    | cons c rest =>
      have hc : c ≠ '-' := by simpa using h
      simp [cutSign, hc]

theorem cutBang_eq {cs body : List Char} {important : Bool} (h : cutBang cs = (important, body)) :
    cs = body ++ (if important then ['!'] else []) := by
  unfold cutBang at h
  split at h <;> rename_i hl <;> cases h
  · obtain ⟨before, rfl⟩ := List.getLast?_eq_some_iff.1 hl
    simp
  · simp

theorem cutBang_append {important : Bool} {body : List Char}
    (h : important ∨ body.getLast? ≠ some '!') :
    cutBang (body ++ (if important then ['!'] else [])) = (important, body) := by
  cases important with
  | true => simp [cutBang]
  | false =>
    have hlast : body.getLast? ≠ some '!' := by simpa using h
    simp [cutBang, hlast]

theorem getLast?_of_cutBang {cs body : List Char} {important : Bool}
    (h : cutBang cs = (important, body)) : important ∨ body.getLast? ≠ some '!' := by
  unfold cutBang at h
  split at h <;> rename_i hl <;> cases h
  · exact .inl rfl
  · exact .inr hl

theorem fault?_eq_none_iff {negative important : Bool} {body : List Char} :
    fault? negative important body = none ↔
      ':' ∉ body ∧ body.head? ≠ some '-' ∧ body.getLast? ≠ some '!' := by
  rw [← Text.cutLast_eq_none_iff]
  unfold fault?
  cases h : Text.cutLast ':' body with
  | none => by_cases hs : body.head? = some '-' <;> simp [hs]
  | some cut => dsimp only; split <;> simp

theorem toList_text (token : Token) :
    token.text.toList = (token.variants.map String.toList).flatMap (· ++ [':']) ++
      ((if token.negative then ['-'] else []) ++
        (token.className.toList ++ (if token.important then ['!'] else []))) := by
  have hsign : token.sign.toList = if token.negative then ['-'] else [] := by
    unfold sign; split <;> rfl
  have hbang : token.bang.toList = if token.important then ['!'] else [] := by
    unfold bang; split <;> rfl
  simp [text, unscoped, hsign, hbang, List.flatMap_map]

theorem colon_not_mem_unscoped {token : Token} (h : token.Grammatical) :
    ':' ∉ (if token.negative then ['-'] else []) ++
      (token.className.toList ++ (if token.important then ['!'] else [])) := by
  have hc := h.noColon
  cases token.negative <;> cases token.important <;> simp [hc]

theorem colon_not_mem_variants {token : Token} (h : token.Grammatical) :
    ∀ name ∈ token.variants.map String.toList, ':' ∉ name := by
  intro name hn
  obtain ⟨variant, hv, rfl⟩ := List.mem_map.1 hn
  exact colon_not_mem_of_isVariantName (h.isName variant hv)

theorem pieces_text {token : Token} (h : token.Grammatical) :
    Text.pieces (· == ':') token.text.toList = token.variants.map String.toList ++
      [(if token.negative then ['-'] else []) ++
        (token.className.toList ++ (if token.important then ['!'] else []))] := by
  rw [toList_text, Text.pieces_flatMap_append (colon_not_mem_variants h),
    Text.pieces_of_not_mem (colon_not_mem_unscoped h)]

theorem head?_append_bang {token : Token} (h : token.Grammatical) :
    (token.className.toList ++ (if token.important then ['!'] else [])).head? ≠ some '-' := by
  have hs := h.noSign
  cases hcs : token.className.toList with
  | nil => cases token.important <;> simp
  | cons c rest => simpa [hcs] using hs

theorem read_text {token : Token} (h : token.Grammatical) : read token.text = .ok token := by
  have hn : ∀ name ∈ token.variants.map String.toList, isVariantName name := by
    simpa using h.isName
  unfold read
  rw [toList_text, cutVariants_flatMap_append hn (colon_not_mem_unscoped h)]
  simp [cutSign_append (head?_append_bang h), cutBang_append (.inr h.noBang),
    fault?_eq_none_iff.2 ⟨h.noColon, h.noSign, h.noBang⟩, Function.comp_def]

theorem grammatical_of_read {raw : String} {token : Token} (h : read raw = .ok token) :
    token.Grammatical ∧ token.text = raw := by
  cases hv : cutVariants raw.toList with
  | mk names afterNames =>
  cases hs : cutSign afterNames with
  | mk negative afterSign =>
  cases hb : cutBang afterSign with
  | mk important body =>
  simp only [read, hv, hs, hb] at h
  cases hf : fault? negative important body with
  | some fault => simp [hf] at h
  | none =>
    obtain rfl : _ = token := by simpa [hf] using h
    obtain ⟨hraw, hn⟩ := cutVariants_eq hv
    obtain ⟨hcolon, hsign, hbang⟩ := fault?_eq_none_iff.1 hf
    constructor
    · exact ⟨by simpa using hn, by simpa using hcolon, by simpa using hsign, by simpa using hbang⟩
    · apply String.toList_inj.1
      rw [toList_text, hraw, cutSign_eq hs, cutBang_eq hb]
      simp [Function.comp_def]

theorem read_eq_ok_iff {raw : String} {token : Token} :
    read raw = .ok token ↔ token.Grammatical ∧ token.text = raw := by
  constructor
  · exact grammatical_of_read
  · rintro ⟨h, rfl⟩
    exact read_text h

/-- Reading accepts exactly the texts of grammatical tokens, no two of which have one text, and
gives back the token whose text it was. Nothing is left to strip from its class name. -/
theorem read_accepts_grammar (raw : String) :
    ((∃ token, read raw = .ok token) ↔ ∃ token : Token, token.Grammatical ∧ token.text = raw) ∧
      (∀ a b : Token, a.Grammatical → b.Grammatical → a.text = raw → b.text = raw → a = b) ∧
      ∀ token, read raw = .ok token →
        token.Grammatical ∧
          raw = String.join (token.variants.map (· ++ ":")) ++ token.unscoped ∧
          token.unscoped = token.sign ++ token.className ++ token.bang ∧
          read token.className = .ok ⟨[], false, false, token.className⟩ := by
  refine ⟨by simp only [read_eq_ok_iff], ?_, ?_⟩
  · intro a b ha hb hra hrb
    have hread : read raw = .ok a := read_eq_ok_iff.2 ⟨ha, hra⟩
    rw [read_eq_ok_iff.2 ⟨hb, hrb⟩] at hread
    exact (Except.ok.inj hread).symm
  · intro token h
    obtain ⟨hg, rfl⟩ := read_eq_ok_iff.1 h
    refine ⟨hg, rfl, rfl, read_eq_ok_iff.2 ⟨⟨by simp, hg.noColon, hg.noSign, hg.noBang⟩, ?_⟩⟩
    simp [text, unscoped, sign, bang]

theorem read_accepts_grammar_signed :
    read "md:group-hover:-mt-4!" = .ok ⟨["md", "group-hover"], true, true, "mt-4"⟩ ∧
      Grammatical ⟨["md", "group-hover"], true, true, "mt-4"⟩ ∧
      read "mt-4" = .ok ⟨[], false, false, "mt-4"⟩ := by
  have hread : read "md:group-hover:-mt-4!" = .ok ⟨["md", "group-hover"], true, true, "mt-4"⟩ := by
    decide
  obtain ⟨hg, -, -, hagain⟩ := (read_accepts_grammar "md:group-hover:-mt-4!").2.2 _ hread
  exact ⟨hread, hg, hagain⟩

end UtilityStyle.Token
