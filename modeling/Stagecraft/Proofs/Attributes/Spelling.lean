/-
How the names of anchor points may be spelled.

A name is looked up by its key, so blanks around it and the case of its
letters do not count. `find?_spelled` says this of every name: capital
letters are not blank, hence it does not matter whether the blanks at the
ends are cut off before the letters are made small or after.
-/
import Stagecraft.Geometry.Anchor
import Stagecraft.Proofs.Text.Blanks

namespace Stagecraft

namespace Text

-- ================================================================== case

/-- Small letters are as little blank as capital ones. -/
theorem isBlank_toLower (c : Char) : isBlank c.toLower = isBlank c := by
  by_cases h : c.val ≥ 'A'.val ∧ c.val ≤ 'Z'.val
  · have hlow : 65 ≤ c.val.toNat := UInt32.le_iff_toNat_le.1 h.1
    have hhigh : c.val.toNat ≤ 90 := UInt32.le_iff_toNat_le.1 h.2
    have hlower : c.toLower.toNat = c.val.toNat + 32 := by
      unfold Char.toLower
      rw [dif_pos h]
      refine (UInt32.toNat_add c.val 32).trans (Nat.mod_eq_of_lt ?_)
      exact Nat.lt_of_le_of_lt (Nat.add_le_add_right hhigh 32) (by decide)
    have hsmall : isBlank c.toLower = false := not_isBlank_of_visible (by omega)
    have hcapital : 33 ≤ c.toNat ∧ c.toNat ≤ 126 := by
      show 33 ≤ c.val.toNat ∧ c.val.toNat ≤ 126
      omega
    exact hsmall.trans (not_isBlank_of_visible hcapital).symm
  · unfold Char.toLower
    rw [dif_neg h]

private theorem strip_map {p : Char → Bool} {f : Char → Char} (h : ∀ c, p (f c) = p c)
    (cs : List Char) : strip p (cs.map f) = (strip p cs).map f := by
  have hp : p ∘ f = p := funext h
  unfold strip
  rw [List.dropWhile_map, hp, ← List.map_reverse, List.dropWhile_map, hp, ← List.map_reverse]

theorem trim_toLower (cs : List Char) : trim (cs.map Char.toLower) = (trim cs).map Char.toLower :=
  strip_map isBlank_toLower cs

end Text

-- ================================================= names of anchor points

namespace AnchorPoint

theorem trim_name (p : AnchorPoint) : Text.trim p.name.toList = p.name.toList := by
  cases p <;> decide +kernel

theorem find?_eq_some_iff {p : AnchorPoint} {name : String} :
    find? name = some p ↔ Text.key name = p.name := by
  constructor
  · intro h
    unfold find? at h
    have hname := List.find?_some h
    exact (eq_of_beq hname).symm
  · intro h
    unfold find?
    rw [h]
    cases p <;> decide +kernel

/-- An anchor point is found under its name with letters of any case and any
blanks around it. -/
theorem find?_spelled (p : AnchorPoint) {before cs behind : List Char}
    (hbefore : ∀ c ∈ before, Text.isBlank c = true) (hbehind : ∀ c ∈ behind, Text.isBlank c = true)
    (hcs : cs.map Char.toLower = p.name.toList) :
    find? (String.ofList (before ++ cs ++ behind)) = some p := by
  refine find?_eq_some_iff.2 ?_
  unfold Text.key
  rw [String.toList_ofList, Text.trim_padded hbefore hbehind, ← Text.trim_toLower, hcs, trim_name,
    String.ofList_toList]

example : find? " MidTOP\t" = some midTop := by decide +kernel

end AnchorPoint

end Stagecraft
