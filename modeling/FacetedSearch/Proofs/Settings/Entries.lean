import FacetedSearch.Settings.Basic

/-! What is in a table after settings were put into it.

A put changes what is found under one name, the lowercase one. Along a path of names this is the
first of them, so a put there is a put under this name for all that look at other names.
-/

set_option autoImplicit false

namespace FacetedSearch.Settings

@[simp] theorem Entries.get?_put_same (entries : Entries) (name : String) (setting : Setting) :
    (entries.put name setting).get? name = some setting := by
  induction entries with
  | nil => simp [Entries.put, Entries.get?]
  | cons entry rest ih =>
    unfold Entries.get? at ih ⊢
    by_cases here : entry.1 = name <;> simp [Entries.put, here, ih]

theorem Entries.get?_put_other (entries : Entries) {name other : String} (setting : Setting)
    (different : other ≠ name) : (entries.put name setting).get? other = entries.get? other := by
  induction entries with
  | nil => simp [Entries.put, Entries.get?, different.symm]
  | cons entry rest ih =>
    unfold Entries.get? at ih ⊢
    by_cases here : entry.1 = name
    · simp [Entries.put, here, different.symm]
    · by_cases there : entry.1 = other
      · simp [Entries.put, there, different]
      · simp [Entries.put, here, there, ih]

theorem Setting.putInto_of_not_table {setting : Setting} (single : ∀ inner, setting ≠ .table inner)
    (name : String) (entries : Entries) :
    setting.putInto name entries = entries.put (lowerName name) setting := by
  cases setting with
  | table inner => exact absurd rfl (single inner)
  | _ => rfl

theorem Setting.exists_putInto (setting : Setting) (name : String) (entries : Entries) :
    ∃ placed, setting.putInto name entries = entries.put (lowerName name) placed := by
  cases setting with
  | table inner => exact ⟨_, rfl⟩
  | _ => exact ⟨_, rfl⟩

def Entries.merge (target incoming : Entries) : Entries :=
  incoming.foldl (fun target entry => entry.2.putInto entry.1 target) target

theorem mergeEntries_table (incoming target : Entries) :
    mergeEntries incoming (.table target) = .table (target.merge incoming) := by
  induction incoming generalizing target with
  | nil => rfl
  | cons entry rest ih => exact ih (entry.2.putInto entry.1 target)

theorem Setting.putInto_table {name : String} {entries target : Entries} (incoming : Entries)
    (found : entries.get? (lowerName name) = some (.table target)) :
    (Setting.table incoming).putInto name entries =
      entries.put (lowerName name) (.table (target.merge incoming)) := by
  rw [Setting.putInto, found, Option.getD_some, mergeEntries_table]

/-! ## Paths -/

/-- Along names, there is always a place. -/
theorem Setting.exists_putAlong (setting : Setting) (root : String) {steps : List Step}
    (names : ∀ step ∈ steps, ∃ name, step = .name name) (target : Setting) :
    ∃ placed, setting.putAlong (.name root :: steps) target =
      some (.table (target.entries.put (lowerName root) placed)) := by
  induction steps generalizing root target with
  | nil =>
    obtain ⟨placed, same⟩ := setting.exists_putInto root target.entries
    exact ⟨placed, by rw [Setting.putAlong, same]⟩
  | cons step rest ih =>
    obtain ⟨⟨name, rfl⟩, others⟩ := List.forall_mem_cons.mp names
    obtain ⟨placed, same⟩ :=
      ih name others ((target.entries.get? (lowerName root)).getD .nothing)
    exact ⟨_, by rw [Setting.putAlong.eq_3 _ _ _ _ (by simp), same]; rfl⟩

/-- The place that the name of an entry means: the end of a path, or else the name itself. -/
def placeNamed (name : String) : KeyPath := (KeyPath.read? name).getD ⟨name, []⟩

theorem overlayEntry_eq (entries : Entries) (entry : String × Setting) :
    overlayEntry entries entry = overlay entries (placeNamed entry.1) entry.2 := by
  unfold overlayEntry placeNamed
  cases KeyPath.read? entry.1 with
  | some path => rfl
  | none => rfl

theorem overlay_names {path : KeyPath} (names : ∀ step ∈ path.steps, ∃ name, step = .name name)
    (setting : Setting) (entries : Entries) :
    ∃ placed, overlay entries path setting = .ok (entries.put (lowerName path.root) placed) := by
  obtain ⟨placed, same⟩ := setting.exists_putAlong path.root names (.table entries)
  exact ⟨placed, by rw [overlay, KeyPath.put?, same]; rfl⟩

end FacetedSearch.Settings
