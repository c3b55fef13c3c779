/-!
# Entries decided at run time

Parts of a statement may be *dynamic*: their presence is decided when the
statement is built.  A dynamic part is checked like any other, but nothing
that must always hold may rest on it, and it is written only while it is
active.  A static part is always there.
-/

namespace CheckedSql

/-- Whether a part is always there or only when it is active. -/
inductive Presence where
  | static
  | dynamic (active : Bool)
  deriving DecidableEq, Repr

namespace Presence

/-- Whether the part is always there. -/
def isStatic : Presence → Bool
  | static => true
  | dynamic _ => false

/-- Whether the part is written. -/
def isActive : Presence → Bool
  | static => true
  | dynamic active => active

theorem isActive_of_isStatic {presence : Presence} (h : presence.isStatic = true) :
    presence.isActive = true := by
  cases presence with
  | static => rfl
  | dynamic active => cases h

end Presence

/-- A part of a statement with its presence. -/
structure Entry (α : Type) where
  presence : Presence
  value : α
  deriving DecidableEq, Repr

namespace Entry

variable {α β : Type}

/-- A part that is always there. -/
def static (value : α) : Entry α := ⟨.static, value⟩

/-- A part that is there if `active` holds. -/
def dynamic (active : Bool) (value : α) : Entry α := ⟨.dynamic active, value⟩

/-- Whether the part is always there. -/
def isStatic (entry : Entry α) : Bool := entry.presence.isStatic

/-- Whether the part is written. -/
def isActive (entry : Entry α) : Bool := entry.presence.isActive

/-- The entry with its value replaced. -/
def map (f : α → β) (entry : Entry α) : Entry β := ⟨entry.presence, f entry.value⟩

end Entry

/-- The values of the static entries, in their order. -/
def staticValues {α : Type} (entries : List (Entry α)) : List α :=
  (entries.filter Entry.isStatic).map Entry.value

/-- The values of the active entries, in their order. -/
def activeValues {α : Type} (entries : List (Entry α)) : List α :=
  (entries.filter Entry.isActive).map Entry.value

theorem activeValues_cons {α : Type} (entry : Entry α) (entries : List (Entry α)) :
    activeValues (entry :: entries)
      = if entry.isActive then entry.value :: activeValues entries else activeValues entries := by
  cases active : entry.isActive <;> simp [activeValues, active]

/-- Static entries are active. -/
theorem staticValues_subset_activeValues {α : Type} (entries : List (Entry α)) :
    staticValues entries ⊆ activeValues entries := by
  intro value h
  simp only [staticValues, activeValues, List.mem_map, List.mem_filter] at h ⊢
  obtain ⟨entry, ⟨mem, isStatic⟩, rfl⟩ := h
  exact ⟨entry, ⟨mem, Presence.isActive_of_isStatic isStatic⟩, rfl⟩

end CheckedSql
