import EventTickets.Proofs.Text.Blank

/-!
# Letter case

Texts that differ only in the case of ASCII letters have one spelling in upper case. That spelling
and the trimmed one go together: a normalised text is its own normal form.
-/

namespace EventTickets.Text

theorem toNat_toUpper (c : Char) :
    c.toUpper.toNat = if 97 ≤ c.toNat ∧ c.toNat ≤ 122 then c.toNat - 32 else c.toNat := by
  have hrange : ('a'.val ≤ c.val ∧ c.val ≤ 'z'.val) ↔ 97 ≤ c.toNat ∧ c.toNat ≤ 122 := Iff.rfl
  unfold Char.toUpper
  split
  · next h =>
    obtain ⟨hlow, hhigh⟩ := hrange.mp h
    have hval : (c.val + ('A'.val - 'a'.val)).toNat = (c.toNat + 4294967264) % 4294967296 :=
      UInt32.toNat_add _ _
    rw [if_pos (hrange.mp h), Char.toNat, hval]
    omega
  · next h => rw [if_neg (mt hrange.mpr h)]

theorem toNat_toLower (c : Char) :
    c.toLower.toNat = if 65 ≤ c.toNat ∧ c.toNat ≤ 90 then c.toNat + 32 else c.toNat := by
  have hrange : ('A'.val ≤ c.val ∧ c.val ≤ 'Z'.val) ↔ 65 ≤ c.toNat ∧ c.toNat ≤ 90 := Iff.rfl
  unfold Char.toLower
  split
  · next h =>
    obtain ⟨hlow, hhigh⟩ := hrange.mp h
    have hval : (c.val + ('a'.val - 'A'.val)).toNat = (c.toNat + 32) % 4294967296 :=
      UInt32.toNat_add _ _
    rw [if_pos (hrange.mp h), Char.toNat, hval]
    omega
  · next h => rw [if_neg (mt hrange.mpr h)]

theorem toUpper_toLower (c : Char) : c.toLower.toUpper = c.toUpper := by
  rw [← Char.toNat_inj, toNat_toUpper, toNat_toUpper, toNat_toLower]
  split_ifs <;> omega

theorem toUpper_toUpper (c : Char) : c.toUpper.toUpper = c.toUpper := by
  rw [← Char.toNat_inj, toNat_toUpper, toNat_toUpper]
  split_ifs <;> omega

theorem isBlank_toUpper (c : Char) : isBlank c.toUpper = isBlank c := by
  have hletter : ∀ {c : Char}, 65 ≤ c.toNat → c.toNat ≤ 122 → isBlank c = false := by
    intro c hlow hhigh
    have hval : c.val.toNat = c.toNat := rfl
    simp only [isBlank, UInt32.le_iff_toNat_le, ← UInt32.toNat_inj, beq_eq_decide, hval]
    simp only [UInt32.reduceToNat, Bool.or_eq_false_iff, Bool.and_eq_false_imp, decide_eq_true_eq,
      decide_eq_false_iff_not, not_le]
    omega
  have hupper := toNat_toUpper c
  split at hupper
  · rw [hletter (c := c) (by omega) (by omega), hletter (by omega) (by omega)]
  · rw [Char.toNat_inj.mp hupper]

variable {a b : String}

theorem toList_upper (s : String) : (upper s).toList = s.toList.map Char.toUpper :=
  String.toList_ofList

theorem toList_trim (s : String) : (trim s).toList = trimChars s.toList := String.toList_ofList

theorem upper_upper (s : String) : upper (upper s) = upper s := by
  rw [← String.toList_inj, toList_upper, toList_upper, List.map_map]
  exact List.map_congr_left fun c _ => toUpper_toUpper c

theorem upper_lower (s : String) : upper (lower s) = upper s := by
  rw [← String.toList_inj, toList_upper, toList_upper, lower, String.toList_ofList, List.map_map]
  exact List.map_congr_left fun c _ => toUpper_toLower c

theorem sameIgnoringCase_iff (ha : upper a = a) (hb : upper b = b) :
    sameIgnoringCase a b = true ↔ a = b := by
  rw [sameIgnoringCase, beq_iff_eq]
  constructor
  · intro h
    rw [← ha, ← upper_lower, h, upper_lower, hb]
  · rintro rfl
    rfl

theorem dropBlanks_map_toUpper (cs : List Char) :
    dropBlanks (cs.map Char.toUpper) = (dropBlanks cs).map Char.toUpper := by
  rw [dropBlanks, List.dropWhile_map]
  exact congrArg (fun p => (cs.dropWhile p).map Char.toUpper) (funext isBlank_toUpper)

theorem trim_upper (s : String) : trim (upper s) = upper (trim s) := by
  rw [← String.toList_inj, toList_trim, toList_upper, toList_upper, toList_trim,
    trimChars, trimChars, dropBlanks_map_toUpper, ← List.map_reverse,
    dropBlanks_map_toUpper, List.map_reverse]

theorem trim_trim (s : String) : trim (trim s) = trim s := by
  rw [← String.toList_inj, toList_trim, ← (isPadded_trim s).trimChars_eq, toList_trim]

theorem upper_normalizeToken (s : String) : upper (normalizeToken s) = normalizeToken s :=
  upper_upper _

theorem trim_normalizeToken (s : String) : trim (normalizeToken s) = normalizeToken s := by
  rw [normalizeToken, trim_upper, trim_trim]

theorem normalizeToken_normalizeToken (s : String) :
    normalizeToken (normalizeToken s) = normalizeToken s := by
  rw [normalizeToken, trim_normalizeToken, upper_normalizeToken]

end EventTickets.Text
