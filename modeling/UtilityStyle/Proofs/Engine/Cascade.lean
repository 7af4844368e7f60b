import Mathlib.Data.List.Forall2
import Mathlib.Data.List.Induction
import UtilityStyle.Engine.Basic
import UtilityStyle.Proofs.Outcome
import UtilityStyle.Proofs.Style.Merge

namespace UtilityStyle

namespace Style

theorem at?_mergeAll {styles : List Style} (hw : ∀ style ∈ styles, style.value.wellFormed)
    {path : List String} {x : Json} (hx : x.isObject = false) :
    (mergeAll styles).value.at? path = some x ↔
      ∃ earlier style later, styles = earlier ++ style :: later ∧
        style.value.at? path = some x ∧ ∀ after ∈ later, ¬after.value.Settles path := by
  -- either the last style has the value, or it leaves the path to those before it
  induction styles using List.reverseRecOn with
  | nil =>
    have hne : (Json.object []).at? path ≠ some x := by
      cases path with
      | nil => intro e; cases e; cases hx
      | cons key path => simp [Json.member?, Json.fields?, Entries.get?]
    simpa [mergeAll, empty, value] using hne
  | append_singleton init last ih =>
    have hinit := ih fun style hs => hw style (List.mem_append_left _ hs)
    rw [mergeAll_append_singleton]
    refine (at?_mergeFields hx (hw last (by simp))).trans ?_
    constructor
    · rintro (hl | ⟨hs, hi⟩)
      · exact ⟨init, last, [], rfl, hl, by simp⟩
      · obtain ⟨earlier, style, later, rfl, ha, hn⟩ := hinit.1 hi
        refine ⟨earlier, style, later ++ [last], by simp, ha, ?_⟩
        intro after hm
        rcases List.mem_append.1 hm with hm | hm
        · exact hn after hm
        · rw [List.mem_singleton.1 hm]; exact hs
    · rintro ⟨earlier, style, later, he, ha, hn⟩
      rcases List.eq_nil_or_concat later with rfl | ⟨later, final, rfl⟩
      · obtain ⟨rfl, rfl⟩ : init = earlier ∧ last = style := by simpa using he
        exact .inl ha
      · have hsplit : init ++ [last] = (earlier ++ style :: later) ++ [final] := by simpa using he
        obtain ⟨rfl, hf⟩ := List.append_inj' hsplit rfl
        obtain rfl : last = final := by simpa using hf
        refine .inr ⟨hn last (by simp), hinit.2 ⟨earlier, style, later, rfl, ha, ?_⟩⟩
        intro after hm
        exact hn after (by simp [hm])

theorem keys_mergeAll {styles : List Style} (hw : ∀ style ∈ styles, style.value.wellFormed) :
    (mergeAll styles).keys = (styles.flatMap keys).eraseDups := by
  induction styles using List.reverseRecOn with
  | nil => rfl
  | append_singleton init last ih =>
    have hinit := ih fun style hs => hw style (List.mem_append_left _ hs)
    have hlast : last.value.wellFormed := hw last (by simp)
    have hnew : (last.keys.removeAll (init.flatMap keys)).Nodup :=
      (Json.nodup_keys hlast).sublist List.filter_sublist
    have hmem : ∀ key, key ∈ (init.flatMap keys).eraseDups ↔ key ∈ init.flatMap keys :=
      fun key => List.mem_eraseDups
    rw [mergeAll_append_singleton]
    calc
      ((mergeAll init).merge last).keys
        = (mergeAll init).keys ++ last.keys.removeAll (mergeAll init).keys :=
          keys_mergeFields hlast _
      _ = (init.flatMap keys).eraseDups ++ last.keys.removeAll (init.flatMap keys) := by
          rw [hinit]
          congr 1
          apply List.filter_congr
          intro key _
          simp [hmem key]
      _ = ((init ++ [last]).flatMap keys).eraseDups := by
          rw [List.flatMap_append, List.eraseDups_append]
          simp [Entries.eraseDups_eq_self hnew]

end Style

namespace Engine

theorem mapM_resolve_eq_ok_iff {engine : Engine} {raws : List String} {styles : List Style} :
    raws.mapM engine.resolve = .ok styles ↔
      List.Forall₂ (fun raw style => engine.resolve raw = .ok style) raws styles := by
  induction raws generalizing styles with
  | nil => cases styles <;> simp
  | cons raw rest ih => cases styles <;> simp [ih]

theorem mem_of_mapM_resolve {engine : Engine} {raws : List String} {fragments : List Style}
    {fragment : Style} (h : raws.mapM engine.resolve = .ok fragments) :
    fragment ∈ fragments ↔ ∃ raw ∈ raws, engine.resolve raw = .ok fragment := by
  induction raws generalizing fragments with
  | nil =>
    obtain rfl : [] = fragments := Except.ok.inj h
    simp
  | cons raw rest ih =>
    simp only [List.mapM_cons, Outcome.bind_eq_ok_iff, Outcome.pure_eq_ok_iff] at h
    obtain ⟨first, hfirst, others, hothers, rfl⟩ := h
    rw [List.mem_cons, ih hothers, List.exists_mem_cons_iff, hfirst]
    simp [eq_comm]

theorem exists_resolved_iff {engine : Engine} {raws : List String} :
    (∃ styles, List.Forall₂ (fun raw style => engine.resolve raw = .ok style) raws styles) ↔
      ∀ raw ∈ raws, ∃ style, engine.resolve raw = .ok style := by
  induction raws with
  | nil => simp
  | cons raw rest ih => simp [List.forall₂_cons_left_iff, ← ih]

theorem resolveAll_eq_ok_iff {engine : Engine} {raws : List String} {style : Style} :
    engine.resolveAll raws = .ok style ↔
      ∃ styles, List.Forall₂ (fun raw style => engine.resolve raw = .ok style) raws styles ∧
        style = styles.foldl Style.merge .empty := by
  constructor
  · intro h
    obtain ⟨styles, hs, rfl⟩ := Outcome.map_eq_ok_iff.1 h
    exact ⟨styles, mapM_resolve_eq_ok_iff.1 hs, rfl⟩
  · rintro ⟨styles, hs, rfl⟩
    rw [resolveAll, mapM_resolve_eq_ok_iff.2 hs]
    rfl

theorem mem_ordered {engine : Engine} {classes raw : String} :
    raw ∈ engine.ordered classes ↔ raw ∈ tokens classes :=
  (Order.byScreen_perm engine.theme (tokens classes)).mem_iff

def overlapping : List Style := [
  ⟨[("a", .object [("b", .string "1"), ("c", .string "1")]), ("d", .string "1")]⟩,
  ⟨[("e", .string "2"), ("a", .string "2")]⟩,
  ⟨[("d", .string "3"), ("a", .object [("c", .string "3")])]⟩]

end Engine

end UtilityStyle
