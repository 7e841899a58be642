/-!
# The case of letters

Only Latin letters have a case, and they come in pairs: changing the case of a letter leads to the
other one of its pair or leaves it as it is, and every other character stays as it is.
-/
namespace WidgetMarkup.Text

theorem isAlpha_eq (c : Char) : c.isAlpha = (c.isUpper || c.isLower) :=
  rfl

theorem isUpper_iff {c : Char} : c.isUpper = true ↔ 65 ≤ c.toNat ∧ c.toNat ≤ 90 :=
  decide_eq_true_iff

theorem isLower_iff {c : Char} : c.isLower = true ↔ 97 ≤ c.toNat ∧ c.toNat ≤ 122 := by
  have heq : c.isLower = (decide (97 ≤ c.toNat) && decide (c.toNat ≤ 122)) := rfl
  rw [heq, Bool.and_eq_true, decide_eq_true_eq, decide_eq_true_eq]

/-- A small letter and its capital. -/
structure IsLetterPair (small capital : Char) : Prop where
  isLower_small : small.isLower = true
  isUpper_small : small.isUpper = false
  isLower_capital : capital.isLower = false
  isUpper_capital : capital.isUpper = true
  toLower_small : small.toLower = small
  toUpper_small : small.toUpper = capital
  toLower_capital : capital.toLower = small
  toUpper_capital : capital.toUpper = capital

/-- What changing the case does to a character. -/
inductive Casing (c : Char) : Prop
  | small {d : Char} : IsLetterPair c d → Casing c
  | capital {d : Char} : IsLetterPair d c → Casing c
  | caseless : c.isLower = false → c.isUpper = false → c.toLower = c → c.toUpper = c → Casing c

theorem isLetterPair_ofNat {k : Nat} (h : k < 26) :
    IsLetterPair (Char.ofNat (97 + k)) (Char.ofNat (65 + k)) := by
  have hpairs : ∀ k < 26,
      (Char.ofNat (97 + k)).isLower = true ∧ (Char.ofNat (97 + k)).isUpper = false ∧
      (Char.ofNat (65 + k)).isLower = false ∧ (Char.ofNat (65 + k)).isUpper = true ∧
      (Char.ofNat (97 + k)).toLower = Char.ofNat (97 + k) ∧
      (Char.ofNat (97 + k)).toUpper = Char.ofNat (65 + k) ∧
      (Char.ofNat (65 + k)).toLower = Char.ofNat (97 + k) ∧
      (Char.ofNat (65 + k)).toUpper = Char.ofNat (65 + k) := by
    decide +kernel
  obtain ⟨h₁, h₂, h₃, h₄, h₅, h₆, h₇, h₈⟩ := hpairs k h
  exact ⟨h₁, h₂, h₃, h₄, h₅, h₆, h₇, h₈⟩

theorem casing (c : Char) : Casing c := by
  by_cases hlower : c.isLower = true
  · have hbounds := isLower_iff.1 hlower
    have hpair := isLetterPair_ofNat (k := c.toNat - 97) (by omega)
    rw [Nat.add_sub_cancel' hbounds.1, Char.ofNat_toNat] at hpair
    exact .small hpair
  · by_cases hupper : c.isUpper = true
    · have hbounds := isUpper_iff.1 hupper
      have hpair := isLetterPair_ofNat (k := c.toNat - 65) (by omega)
      rw [Nat.add_sub_cancel' hbounds.1, Char.ofNat_toNat] at hpair
      exact .capital hpair
    · refine .caseless (by simpa using hlower) (by simpa using hupper) ?_ ?_
      · exact dif_neg fun h => hupper (isUpper_iff.2 h)
      · exact dif_neg fun h => hlower (isLower_iff.2 h)

section Laws

variable {c : Char}

theorem not_isLower_of_isUpper (hc : c.isUpper = true) : c.isLower = false := by
  cases casing c with
  | small h => cases hc.symm.trans h.isUpper_small
  | capital h => exact h.isLower_capital
  | caseless hlower _ _ _ => exact hlower

theorem not_isUpper_of_isLower (hc : c.isLower = true) : c.isUpper = false := by
  rw [Bool.eq_false_iff]
  intro hupper
  cases hc.symm.trans (not_isLower_of_isUpper hupper)

@[simp]
theorem isUpper_toLower : c.toLower.isUpper = false := by
  cases casing c with
  | small h => rw [h.toLower_small, h.isUpper_small]
  | capital h => rw [h.toLower_capital, h.isUpper_small]
  | caseless _ hupper htoLower _ => rw [htoLower, hupper]

@[simp]
theorem isUpper_toUpper : c.toUpper.isUpper = c.isAlpha := by
  cases casing c with
  | small h => rw [h.toUpper_small, h.isUpper_capital, isAlpha_eq, h.isLower_small, Bool.or_true]
  | capital h => rw [h.toUpper_capital, isAlpha_eq, h.isUpper_capital, Bool.true_or]
  | caseless hlower hupper _ htoUpper => rw [htoUpper, isAlpha_eq, hlower, hupper, Bool.or_self]

@[simp]
theorem isLower_toUpper : c.toUpper.isLower = false := by
  cases casing c with
  | small h => rw [h.toUpper_small, h.isLower_capital]
  | capital h => rw [h.toUpper_capital, h.isLower_capital]
  | caseless hlower _ _ htoUpper => rw [htoUpper, hlower]

@[simp]
theorem isLower_toLower : c.toLower.isLower = c.isAlpha := by
  cases casing c with
  | small h => rw [h.toLower_small, isAlpha_eq, h.isLower_small, Bool.or_true]
  | capital h => rw [h.toLower_capital, h.isLower_small, isAlpha_eq, h.isUpper_capital, Bool.true_or]
  | caseless hlower hupper htoLower _ => rw [htoLower, isAlpha_eq, hlower, hupper, Bool.or_self]

theorem toLower_of_not_isUpper (hc : c.isUpper = false) : c.toLower = c := by
  cases casing c with
  | small h => exact h.toLower_small
  | capital h => cases hc.symm.trans h.isUpper_capital
  | caseless _ _ htoLower _ => exact htoLower

theorem toUpper_of_isUpper (hc : c.isUpper = true) : c.toUpper = c := by
  cases casing c with
  | small h => cases hc.symm.trans h.isUpper_small
  | capital h => exact h.toUpper_capital
  | caseless _ _ _ htoUpper => exact htoUpper

@[simp]
theorem toLower_toLower : c.toLower.toLower = c.toLower :=
  toLower_of_not_isUpper isUpper_toLower

@[simp]
theorem toLower_toUpper : c.toUpper.toLower = c.toLower := by
  cases casing c with
  | small h => rw [h.toUpper_small, h.toLower_capital, h.toLower_small]
  | capital h => rw [h.toUpper_capital]
  | caseless _ _ _ htoUpper => rw [htoUpper]

@[simp]
theorem toUpper_toLower : c.toLower.toUpper = c.toUpper := by
  cases casing c with
  | small h => rw [h.toLower_small]
  | capital h => rw [h.toLower_capital, h.toUpper_small, h.toUpper_capital]
  | caseless _ _ htoLower _ => rw [htoLower]

@[simp]
theorem toUpper_toUpper : c.toUpper.toUpper = c.toUpper := by
  cases casing c with
  | small h => rw [h.toUpper_small, h.toUpper_capital]
  | capital h => rw [h.toUpper_capital, h.toUpper_capital]
  | caseless _ _ _ htoUpper => rw [htoUpper, htoUpper]

@[simp]
theorem isAlpha_toLower : c.toLower.isAlpha = c.isAlpha := by
  rw [← isUpper_toUpper, toUpper_toLower, isUpper_toUpper]

@[simp]
theorem isAlpha_toUpper : c.toUpper.isAlpha = c.isAlpha := by
  rw [← isUpper_toUpper, toUpper_toUpper, isUpper_toUpper]

end Laws

end WidgetMarkup.Text
