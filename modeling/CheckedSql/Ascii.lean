/-!
# ASCII case and character classes

Keywords, dialect names and operator symbols are compared without regard to the
case of ASCII letters.  Every other character is left alone, so a letter outside
ASCII never matches an ASCII one.

What is said of ASCII characters is checked on all 128 of them (`forall_ascii`).
-/

namespace CheckedSql

/-- The text with its ASCII letters in upper case. -/
def asciiUpper (text : String) : String := String.ofList (text.toList.map Char.toUpper)

/-- The text with its ASCII letters in lower case. -/
def asciiLower (text : String) : String := String.ofList (text.toList.map Char.toLower)

@[simp] theorem toList_asciiUpper (text : String) :
    (asciiUpper text).toList = text.toList.map Char.toUpper :=
  String.toList_ofList

@[simp] theorem toList_asciiLower (text : String) :
    (asciiLower text).toList = text.toList.map Char.toLower :=
  String.toList_ofList

/-- What holds of each of the 128 ASCII characters. -/
theorem forall_ascii {P : Char → Prop} (each : ∀ n < 128, P (Char.ofNat n)) {c : Char}
    (ascii : c.toNat < 128) : P c := by
  rw [← Char.ofNat_toNat c]
  exact each _ ascii

/-- Only the last of two changes of case counts.  Characters outside ASCII have no case. -/
theorem case_change_twice (c : Char) :
    c.toLower.toUpper = c.toUpper ∧ c.toUpper.toLower = c.toLower := by
  by_cases ascii : c.toNat < 128
  · exact forall_ascii
      (P := fun c => c.toLower.toUpper = c.toUpper ∧ c.toUpper.toLower = c.toLower)
      (by decide) ascii
  · have lower : c.toLower = c := dif_neg fun letter => by
      have bound : c.toNat ≤ 90 := letter.2
      omega
    have upper : c.toUpper = c := dif_neg fun letter => by
      have bound : c.toNat ≤ 122 := letter.2
      omega
    rw [lower, upper, lower]
    exact ⟨rfl, rfl⟩

theorem asciiUpper_asciiLower (text : String) : asciiUpper (asciiLower text) = asciiUpper text := by
  simp [asciiUpper, asciiLower, Function.comp_def, case_change_twice]

theorem asciiLower_asciiUpper (text : String) : asciiLower (asciiUpper text) = asciiLower text := by
  simp [asciiUpper, asciiLower, Function.comp_def, case_change_twice]

/-- Two texts are equal in lower case exactly if they are equal in upper case. -/
theorem asciiLower_eq_iff {first second : String} :
    asciiLower first = asciiLower second ↔ asciiUpper first = asciiUpper second := by
  constructor
  · intro same
    rw [← asciiUpper_asciiLower first, same, asciiUpper_asciiLower]
  · intro same
    rw [← asciiLower_asciiUpper first, same, asciiLower_asciiUpper]

end CheckedSql
