import PythonAssist.Answer.Hover

set_option autoImplicit false

namespace PythonAssist

namespace Hover

inductive Shows : List String → String → Prop
  | last (docstring : String) : Shows [docstring] docstring
  | next (docstring text : String) (rest : List String) :
      Shows rest text → Shows (docstring :: rest) (docstring ++ "\n----------\n" ++ text)

theorem joined_shows {docstrings : List String} (listed : docstrings ≠ []) :
    Shows docstrings (joined docstrings) := by
  induction docstrings with
  | nil => exact absurd rfl listed
  | cons docstring rest ih =>
    cases rest with
    | nil =>
      rw [joined, String.intercalate_singleton]
      exact .last docstring
    | cons other others =>
      rw [joined, String.intercalate_cons_cons]
      exact .next docstring _ _ (ih (List.cons_ne_nil other others))

theorem Shows.unique {docstrings : List String} {text other : String}
    (shown : Shows docstrings text) (again : Shows docstrings other) : text = other := by
  induction shown generalizing other with
  | last docstring =>
    cases again with
    | last => rfl
    | next _ _ _ nothing => cases nothing
  | next docstring text rest behind ih =>
    cases again with
    | last => cases behind
    | next _ others _ again => rw [ih again]

theorem shows_iff {docstrings : List String} {text : String} :
    Shows docstrings text ↔ docstrings ≠ [] ∧ text = joined docstrings := by
  constructor
  · intro shown
    have listed : docstrings ≠ [] := by
      rintro rfl
      cases shown
    exact ⟨listed, shown.unique (joined_shows listed)⟩
  · rintro ⟨listed, rfl⟩
    exact joined_shows listed

-- A separator line is text as well, so two docstrings are never shown as nothing.
theorem joined_eq_empty_iff {docstrings : List String} :
    joined docstrings = "" ↔ docstrings.length ≤ 1 ∧ ∀ docstring ∈ docstrings, docstring = "" := by
  match docstrings with
  | [] => simp [joined]
  | [docstring] => simp [joined]
  | first :: second :: rest => simp [joined, separator]

theorem ofNames_eq (names : List Name) :
    ofNames names =
      if joined (names.map Name.docstring) = "" then none
      else some { text := joined (names.map Name.docstring) } := by
  simp [ofNames]

theorem ofNames_eq_none_iff {names : List Name} :
    ofNames names = none ↔ names.length ≤ 1 ∧ ∀ name ∈ names, name.docstring = "" := by
  have empty := @joined_eq_empty_iff (names.map Name.docstring)
  rw [List.length_map, List.forall_mem_map] at empty
  rw [← empty, ofNames_eq]
  split <;> simp_all

theorem ofNames_eq_some_iff {names : List Name} {hover : Hover} :
    ofNames names = some hover ↔
      Shows (names.map Name.docstring) hover.text ∧ hover.text ≠ "" := by
  obtain ⟨text⟩ := hover
  rw [ofNames_eq, shows_iff]
  split
  next empty => simp [empty]
  next shown =>
    have listed : names.map Name.docstring ≠ [] := fun none => shown (by rw [none]; rfl)
    rw [Option.some_inj, Hover.mk.injEq]
    constructor
    · rintro rfl
      exact ⟨⟨listed, rfl⟩, shown⟩
    · exact fun shows => shows.1.2.symm

-- Nothing is shown for no name and for a single name without docstring, and for nothing else. All
-- docstrings are shown otherwise, also when each of two or more is empty.
theorem ofNames_shows_docstrings (names : List Name) :
    (ofNames names = none ↔ names.length ≤ 1 ∧ ∀ name ∈ names, name.docstring = "") ∧
    (∀ hover, ofNames names = some hover ↔
      Shows (names.map Name.docstring) hover.text ∧ hover.text ≠ "") ∧
    ((ofNames names = none ↔ ∀ name ∈ names, name.docstring = "") ↔
      names.length ≤ 1 ∨ ∃ name ∈ names, name.docstring ≠ "") := by
  refine ⟨ofNames_eq_none_iff, fun hover => ofNames_eq_some_iff, ?_⟩
  rw [ofNames_eq_none_iff]
  by_cases short : names.length ≤ 1
  next => simp [short]
  next => simp [short]

theorem two_empty_docstrings_are_shown :
    let name : Name :=
      { name := "x", modulePath := none, line := 1, column := 0, docstring := "" }
    (∀ listed ∈ [name, name], listed.docstring = "") ∧
      ofNames [name, name] = some { text := "\n----------\n" } := by
  intro name
  exact ⟨by simp [name], by decide +kernel⟩

end Hover

end PythonAssist
