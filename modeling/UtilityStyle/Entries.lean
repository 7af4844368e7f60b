namespace UtilityStyle

abbrev Entries (α : Type) := List (String × α)

namespace Entries

variable {α : Type}

def get? (key : String) : Entries α → Option α
  | [] => none
  | (k, v) :: rest => if k = key then some v else get? key rest

/-- Gives `key` a value: in its place if it is there, at the end if it is new. -/
def put (key : String) (value : α) : Entries α → Entries α
  | [] => [(key, value)]
  | (k, v) :: rest => if k = key then (k, value) :: rest else (k, v) :: put key value rest

def keys (entries : Entries α) : List String := entries.map Prod.fst

def has (key : String) (entries : Entries α) : Bool := (get? key entries).isSome

def putAll (entries more : Entries α) : Entries α :=
  more.foldl (fun entries (k, v) => put k v entries) entries

@[simp] theorem get?_put_self (key : String) (value : α) (entries : Entries α) :
    get? key (put key value entries) = some value := by
  induction entries with
  | nil => simp [put, get?]
  | cons entry rest ih => by_cases h : entry.1 = key <;> simp [put, get?, h, ih]

@[simp] theorem get?_put_of_ne {key other : String} (h : other ≠ key) (value : α)
    (entries : Entries α) : get? other (put key value entries) = get? other entries := by
  induction entries with
  | nil => simp [put, get?, h.symm]
  | cons entry rest ih =>
    by_cases hk : entry.1 = key
    · simp [put, get?, hk, h.symm]
    · by_cases ho : entry.1 = other <;> simp [put, get?, hk, ho, h, ih]

theorem get?_eq_none_iff {key : String} {entries : Entries α} :
    get? key entries = none ↔ key ∉ keys entries := by
  induction entries with
  | nil => simp [get?, keys]
  | cons entry rest ih =>
    by_cases h : entry.1 = key
    · simp [get?, keys, h]
    · have h' : key ≠ entry.1 := fun e => h e.symm
      simpa [get?, keys, h, h'] using ih

theorem has_iff_mem_keys {key : String} {entries : Entries α} :
    has key entries ↔ key ∈ keys entries := by
  rw [has, Option.isSome_iff_ne_none, ne_eq, get?_eq_none_iff, Decidable.not_not]

theorem keys_put (key : String) (value : α) (entries : Entries α) :
    keys (put key value entries) =
      if key ∈ keys entries then keys entries else keys entries ++ [key] := by
  induction entries with
  | nil => simp [put, keys]
  | cons entry rest ih =>
    by_cases h : entry.1 = key
    · simp [put, keys, h]
    · have h' : key ≠ entry.1 := fun e => h e.symm
      simp only [keys] at ih ⊢
      by_cases hm : key ∈ rest.map Prod.fst <;> simp [put, h, h', ih, hm]

theorem nodup_keys_put {entries : Entries α} (h : (keys entries).Nodup) (key : String) (value : α) :
    (keys (put key value entries)).Nodup := by
  rw [keys_put]
  split
  · exact h
  · rename_i hnew
    refine List.nodup_append.2 ⟨h, by simp, ?_⟩
    intro name hn other ho
    obtain rfl := List.mem_singleton.1 ho
    exact fun e => hnew (e ▸ hn)

theorem put_of_not_mem {key : String} {entries : Entries α} (h : key ∉ keys entries) (value : α) :
    put key value entries = entries ++ [(key, value)] := by
  induction entries with
  | nil => rfl
  | cons entry rest ih =>
    obtain ⟨hne, hrest⟩ := not_or.1 fun hm => h (List.mem_cons.2 hm)
    simp [put, Ne.symm hne, ih hrest]

theorem mem_of_get?_eq_some {key : String} {value : α} {entries : Entries α}
    (h : get? key entries = some value) : (key, value) ∈ entries := by
  induction entries with
  | nil => cases h
  | cons entry rest ih =>
    unfold get? at h
    split at h
    · rename_i hk
      cases hk
      cases h
      exact List.mem_cons_self
    · exact List.mem_cons_of_mem _ (ih h)

theorem get?_eq_some_of_mem {key : String} {value : α} {entries : Entries α}
    (hnodup : (keys entries).Nodup) (h : (key, value) ∈ entries) :
    get? key entries = some value := by
  induction entries with
  | nil => cases h
  | cons entry rest ih =>
    obtain ⟨hnew, hrest⟩ := List.nodup_cons.1 hnodup
    unfold get?
    rcases List.mem_cons.1 h with rfl | h
    · exact if_pos rfl
    · have hne : entry.1 ≠ key := fun e => hnew (e ▸ List.mem_map_of_mem h)
      rw [if_neg hne, ih hrest h]

theorem put_eq_self {key : String} {value : α} {entries : Entries α}
    (h : get? key entries = some value) : put key value entries = entries := by
  induction entries with
  | nil => cases h
  | cons entry rest ih =>
    unfold get? at h
    unfold put
    split at h
    · rename_i hk
      rw [if_pos hk, ← Option.some.inj h]
    · rename_i hk
      rw [if_neg hk, ih h]

theorem mem_of_mem_put {key : String} {value : α} {entries : Entries α} {entry : String × α}
    (h : entry ∈ put key value entries) : entry = (key, value) ∨ entry ∈ entries := by
  induction entries with
  | nil => exact .inl (List.mem_singleton.1 h)
  | cons first rest ih =>
    unfold put at h
    split at h
    · rename_i hk
      exact (List.mem_cons.1 h).imp (fun e => e.trans (by rw [hk])) (List.mem_cons_of_mem _)
    · rcases List.mem_cons.1 h with rfl | h
      · exact .inr List.mem_cons_self
      · exact (ih h).imp_right (List.mem_cons_of_mem _)

theorem mem_of_mem_putAll {entries more : Entries α} {entry : String × α}
    (h : entry ∈ putAll entries more) : entry ∈ more ∨ entry ∈ entries := by
  induction more generalizing entries with
  | nil => exact .inr h
  | cons first rest ih =>
    rcases ih h with h | h
    · exact .inl (List.mem_cons_of_mem _ h)
    · rcases mem_of_mem_put h with rfl | h
      · exact .inl List.mem_cons_self
      · exact .inr h

theorem get?_putAll {more : Entries α} (h : (keys more).Nodup) (key : String)
    (entries : Entries α) :
    get? key (putAll entries more) = (get? key more).or (get? key entries) := by
  induction more generalizing entries with
  | nil => rfl
  | cons first rest ih =>
    obtain ⟨hfirst, hrest⟩ := List.nodup_cons.1 h
    change get? key (putAll (put first.1 first.2 entries) rest) = _
    rw [ih hrest]
    by_cases hk : key = first.1
    · subst hk
      simp [get?, get?_eq_none_iff.2 hfirst]
    · simp [get?, get?_put_of_ne hk, Ne.symm hk]

theorem get?_putAll_eq_getLast? (key : String) (entries more : Entries α) :
    get? key (putAll entries more) =
      ((more.filter (·.1 = key)).getLast?.map Prod.snd).or (get? key entries) := by
  induction more generalizing entries with
  | nil => rfl
  | cons first rest ih =>
    change get? key (putAll (put first.1 first.2 entries) rest) = _
    rw [ih]
    by_cases hk : first.1 = key
    · subst hk
      rw [get?_put_self, List.filter_cons_of_pos (by simp), List.getLast?_cons]
      cases (rest.filter (·.1 = first.1)).getLast? <;> rfl
    · rw [get?_put_of_ne (Ne.symm hk), List.filter_cons_of_neg (by simpa using hk)]

/-- Steps that each leave the names as they are or add one at the end add their names in order, each
where it is first met. -/
theorem keys_foldl {β : Type} {step : Entries α → β → Entries α} {name : β → String}
    (hstep : ∀ entries item, keys (step entries item) =
      if name item ∈ keys entries then keys entries else keys entries ++ [name item])
    (items : List β) (entries : Entries α) :
    keys (items.foldl step entries) =
      keys entries ++ ((items.map name).filter (· ∉ keys entries)).eraseDups := by
  induction items generalizing entries with
  | nil => simp
  | cons item rest ih =>
    rw [List.foldl_cons, ih, hstep, List.map_cons]
    by_cases hm : name item ∈ keys entries
    · rw [if_pos hm, List.filter_cons_of_neg (by simpa using hm)]
    · have hrest : (rest.map name).filter (· ∉ keys entries ++ [name item]) =
          ((rest.map name).filter (· ∉ keys entries)).filter (!· == name item) := by
        rw [List.filter_filter]
        apply List.filter_congr
        intro other _
        by_cases ho : other = name item <;> simp [ho]
      rw [if_neg hm, List.filter_cons_of_pos (by simpa using hm), List.eraseDups_cons, hrest,
        List.append_assoc]
      rfl

theorem keys_putAll (entries more : Entries α) :
    keys (putAll entries more) =
      keys entries ++ ((keys more).filter (· ∉ keys entries)).eraseDups :=
  keys_foldl (fun entries item => keys_put item.1 item.2 entries) more entries

theorem eraseDups_eq_self {names : List String} (h : names.Nodup) : names.eraseDups = names := by
  induction names with
  | nil => rfl
  | cons name rest ih =>
    obtain ⟨hn, hr⟩ := List.nodup_cons.1 h
    have hf : rest.filter (fun other => !other == name) = rest := by
      apply List.filter_eq_self.2
      intro other ho
      have hne : other ≠ name := fun e => hn (e ▸ ho)
      simpa using hne
    rw [List.eraseDups_cons, hf, ih hr]

theorem nodup_eraseDups : (names : List String) → names.eraseDups.Nodup
  | [] => List.nodup_nil
  | name :: rest => by
    rw [List.eraseDups_cons, List.nodup_cons]
    exact ⟨by simp [List.mem_eraseDups], nodup_eraseDups _⟩
termination_by names => names.length
decreasing_by exact Nat.lt_succ_of_le (List.length_filter_le _ _)

end Entries

end UtilityStyle
