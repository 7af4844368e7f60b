import UtilityStyle.Proofs.Outcome
import UtilityStyle.Utility.Request

/-!
Utilities as lists of readings. A reading is a section, a key to look up in it, and the style that a
value makes. Each utility but the container is the first of its readings that finds a value.
-/

namespace UtilityStyle

structure Reading where
  source : String
  key : String
  style : ThemeValue → Style

namespace Reading

def place (reading : Reading) : String × String := (reading.source, reading.key)

def first? (theme : Theme) : List Reading → Except ThemeError (Option Style)
  | [] => .ok none
  | reading :: rest => do
    match ← theme.resolve reading.source reading.key with
    | some found => return some (reading.style found)
    | none => first? theme rest

def ofSections (names : List String) (key : String) (style : ThemeValue → Style) : List Reading :=
  names.map fun name => ⟨name, key, style⟩

variable {theme : Theme} {readings : List Reading}

theorem first?_cons (reading : Reading) (rest : List Reading) :
    first? theme (reading :: rest) =
      theme.resolve reading.source reading.key >>= fun
        | some found => .ok (some (reading.style found))
        | none => first? theme rest := by
  rfl

theorem first?_append (more : List Reading) :
    first? theme (readings ++ more) =
      first? theme readings >>= fun
        | some style => .ok (some style)
        | none => first? theme more := by
  induction readings with
  | nil => rfl
  | cons reading rest ih =>
    rw [List.cons_append, first?_cons, first?_cons]
    cases theme.resolve reading.source reading.key with
    | error cause => rfl
    | ok found? =>
      cases found? with
      | none => exact ih
      | some found => rfl

theorem first?_ofSections (names : List String) (key : String) (style : ThemeValue → Style) :
    first? theme (ofSections names key style) =
      (theme.resolveFirst key names).map (Option.map style) := by
  induction names with
  | nil => rfl
  | cons name rest ih =>
    rw [ofSections, List.map_cons, first?_cons]
    unfold Theme.resolveFirst
    cases theme.resolve name key with
    | error cause => rfl
    | ok found? =>
      cases found? with
      | none => exact ih
      | some found => rfl

theorem first?_eq_ok_none_iff :
    first? theme readings = .ok none ↔
      ∀ reading ∈ readings, theme.resolve reading.source reading.key = .ok none := by
  induction readings with
  | nil => simp [first?]
  | cons reading rest ih =>
    rw [first?_cons, List.forall_mem_cons, ← ih]
    cases theme.resolve reading.source reading.key with
    | error cause => simp [bind, Except.bind]
    | ok found? => cases found? <;> simp [bind, Except.bind]

theorem first?_eq_ok_some_iff {style : Style} :
    first? theme readings = .ok (some style) ↔
      ∃ earlier reading later found, readings = earlier ++ reading :: later ∧
        (∀ before ∈ earlier, theme.resolve before.source before.key = .ok none) ∧
        theme.resolve reading.source reading.key = .ok (some found) ∧
        reading.style found = style := by
  constructor
  · intro h
    induction readings with
    | nil => cases h
    | cons reading rest ih =>
      rw [first?_cons] at h
      obtain ⟨found?, hfound, h⟩ := Outcome.bind_eq_ok_iff.1 h
      cases found? with
      | some found =>
        exact ⟨[], reading, rest, found, rfl, by simp, hfound, by simpa using h⟩
      | none =>
        obtain ⟨earlier, second, later, found, rfl, hnone, hsome, rfl⟩ := ih h
        exact ⟨reading :: earlier, second, later, found, rfl, by simpa [hfound] using hnone,
          hsome, rfl⟩
  · rintro ⟨earlier, reading, later, found, rfl, hnone, hsome, rfl⟩
    rw [first?_append, first?_eq_ok_none_iff.2 hnone]
    change first? theme (reading :: later) = _
    rw [first?_cons, hsome]
    rfl

end Reading

namespace Theme

def Answers (theme : Theme) (places : List (String × String)) : Prop :=
  ∃ earlier place later found, places = earlier ++ place :: later ∧
    (∀ before ∈ earlier, theme.resolve before.1 before.2 = .ok none) ∧
    theme.resolve place.1 place.2 = .ok (some found)

theorem exists_first?_iff {theme : Theme} {readings : List Reading} :
    (∃ style, Reading.first? theme readings = .ok (some style)) ↔
      theme.Answers (readings.map Reading.place) := by
  constructor
  · rintro ⟨style, h⟩
    obtain ⟨earlier, reading, later, found, rfl, hnone, hsome, -⟩ :=
      Reading.first?_eq_ok_some_iff.1 h
    refine ⟨earlier.map Reading.place, reading.place, later.map Reading.place, found, by simp, ?_,
      hsome⟩
    intro before hb
    obtain ⟨missed, hm, rfl⟩ := List.mem_map.1 hb
    exact hnone missed hm
  · rintro ⟨_, _, _, found, he, hnone, hsome⟩
    obtain ⟨earlier, rest, rfl, rfl, hrest⟩ := List.map_eq_append_iff.1 he
    obtain ⟨reading, later, rfl, rfl, -⟩ := List.map_eq_cons_iff.1 hrest
    refine ⟨reading.style found,
      Reading.first?_eq_ok_some_iff.2 ⟨earlier, reading, later, found, rfl, ?_, hsome, rfl⟩⟩
    intro before hb
    exact hnone before.place (List.mem_map_of_mem hb)

end Theme

namespace Request

def read (r : Request) (readings : List Reading) (searched : List String) : Except Error Style :=
  match Reading.first? r.theme readings with
  | .error cause => .error (.theme cause)
  | .ok (some style) => .ok style
  | .ok none => .error (r.notFoundIn searched)

variable {r : Request} {searched : List String}

theorem read_cons (reading : Reading) (rest : List Reading) :
    r.read (reading :: rest) searched =
      r.value reading.source reading.key >>= fun
        | some found => .ok (reading.style found)
        | none => r.read rest searched := by
  unfold read value fromTheme
  rw [Reading.first?_cons]
  cases r.theme.resolve reading.source reading.key with
  | error cause => rfl
  | ok found? => cases found? <;> rfl

theorem read_ofSections_append (names : List String) (key : String) (style : ThemeValue → Style)
    (rest : List Reading) :
    r.read (Reading.ofSections names key style ++ rest) searched =
      r.firstValue names key >>= fun
        | some found => .ok (style found)
        | none => r.read rest searched := by
  unfold read firstValue fromTheme
  rw [Reading.first?_append, Reading.first?_ofSections]
  cases r.theme.resolveFirst key names with
  | error cause => rfl
  | ok found? => cases found? <;> rfl

theorem read_eq_ok_iff {readings : List Reading} {style : Style} :
    r.read readings searched = .ok style ↔
      Reading.first? r.theme readings = .ok (some style) := by
  unfold read
  cases Reading.first? r.theme readings with
  | error cause => simp
  | ok style? => cases style? <;> simp

end Request

namespace Descriptor

def sourceIn (theme : Theme) (d : Descriptor) : String :=
  if theme.has d.source then d.source else d.fallback.getD d.source

theorem lookup_section? (theme : Theme) (d : Descriptor) (key : String) :
    lookup (d.section? theme) key = theme.resolve (d.sourceIn theme) key := by
  unfold section? sourceIn Theme.resolve Theme.has
  cases h : theme.section? d.source with
  | some found => simp [h]
  | none => cases d.fallback <;> simp [h]

end Descriptor

namespace Row

def readings (row : Row) (theme : Theme) (token : Token) : List Reading :=
  row.descriptors.map fun d =>
    ⟨d.sourceIn theme, token.sign ++ row.suffix token.className,
      fun found => d.style (signed token found)⟩

def places (row : Row) (theme : Theme) (key : String) : List (String × String) :=
  row.descriptors.map fun d => (d.sourceIn theme, key)

theorem map_place_readings (row : Row) (theme : Theme) (token : Token) :
    (row.readings theme token).map Reading.place =
      row.places theme (token.sign ++ row.suffix token.className) := by
  unfold readings places
  rw [List.map_map]
  rfl

theorem first?_readings (row : Row) (theme : Theme) (token : Token) :
    Reading.first? theme (row.readings theme token) =
      (Descriptor.first? theme (token.sign ++ row.suffix token.className) row.descriptors).map
        (Option.map fun pair => pair.1.style (signed token pair.2)) := by
  unfold readings
  induction row.descriptors with
  | nil => rfl
  | cons d rest ih =>
    rw [List.map_cons, Reading.first?_cons]
    unfold Descriptor.first?
    rw [Descriptor.lookup_section?]
    cases theme.resolve (d.sourceIn theme) (token.sign ++ row.suffix token.className) with
    | error cause => rfl
    | ok found? =>
      cases found? with
      | none => exact ih
      | some found => rfl

/-- A row is the first of its readings, unless the class name ends with a dash. -/
theorem style_eq (row : Row) (theme : Theme) (options : Options) (token : Token) :
    row.style theme options token =
      (Request.mk theme options token row.key).read (row.readings theme token) row.sources >>=
        fun found =>
          if token.className.toList.getLast? = some '-' then
            .error (style.missing row theme options token)
          else .ok found := by
  unfold Row.style Request.read fromTheme
  dsimp only
  rw [first?_readings]
  cases Descriptor.first? theme (token.sign ++ row.suffix token.className) row.descriptors with
  | error cause => rfl
  | ok found? => cases found? <;> rfl

end Row

end UtilityStyle
