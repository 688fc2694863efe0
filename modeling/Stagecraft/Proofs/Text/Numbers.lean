/-
Numbers as they are written.

A whole number is read back from its digits. A double is not looked into here:
what counts is that it is spelled with characters that can be seen and of which
none begins a comment, so that a reader of settings finds its text as it was
written.
-/
import Stagecraft.Fault.Message
import Stagecraft.Ini

namespace Stagecraft

-- ========================================================== whole numbers

theorem Decimal.ofDigits_digits (n : Nat) : ofDigits (digits n) = n := by
  have hfold : ofDigits (digits n) = Nat.ofDigitChars 10 (Nat.toDigits 10 n) 0 :=
    Nat.ofDigitChars_eq_foldl.symm
  rw [hfold, Nat.ofDigitChars_ten_toDigits]

theorem Decimal.isDigit_of_mem_digits {n : Nat} {c : Char} (h : c ∈ digits n) :
    c.isDigit = true := Nat.isDigit_of_mem_toDigits (by decide) (by decide) h

theorem toList_toString (n : Nat) : (toString n).toList = Decimal.digits n :=
  (congrArg String.toList Nat.toString_eq_ofList_toDigits).trans String.toList_ofList

/-- A whole number below the bound is read back from its digits. -/
theorem readBelow?_toString {bound n : Nat} (h : n < bound) :
    readBelow? bound (toString n) = some n := by
  have hdigits : (Decimal.digits n).any (fun c => !c.isDigit) = false := by
    rw [List.any_eq_false]
    intro c hc
    rw [Decimal.isDigit_of_mem_digits hc]
    decide
  unfold readBelow?
  rw [toList_toString]
  dsimp only
  split
  next r hr =>
    have hsign : ('+').isDigit = true :=
      Decimal.isDigit_of_mem_digits (n := n) (hr ▸ List.mem_cons_self)
    cases hsign
  next =>
    rw [hdigits, Decimal.ofDigits_digits, if_neg, if_pos h]
    simp [Decimal.digits]

theorem lt_of_readBelow? {bound n : Nat} {text : String} (h : readBelow? bound text = some n) :
    n < bound := by
  unfold readBelow? at h
  dsimp only at h
  rw [Option.ite_none_left_eq_some, Option.ite_none_right_eq_some] at h
  obtain ⟨-, hlt, hn⟩ := h
  cases hn
  exact hlt

-- ====================================================== spelled characters

/-- A character of ASCII that can be seen and begins no comment. -/
def Ini.IsSolid (c : Char) : Prop := 33 ≤ c.toNat ∧ c.toNat ≤ 126 ∧ Ini.isComment c = false

namespace Ini.IsSolid

instance (c : Char) : Decidable (IsSolid c) := inferInstanceAs (Decidable (_ ∧ _ ∧ _))

theorem of_isDigit {c : Char} (h : c.isDigit = true) : IsSolid c := by
  have hrange : 48 ≤ c.toNat ∧ c.toNat ≤ 57 := by
    simpa [Char.isDigit, UInt32.le_iff_toNat_le] using h
  refine ⟨by omega, by omega, ?_⟩
  have hother : ∀ d : Char, (d.toNat < 48 ∨ 57 < d.toNat) → c ≠ d := by
    rintro d hd rfl
    omega
  unfold isComment
  simp [hother]

end Ini.IsSolid

namespace Decimal

open Ini (IsSolid)

theorem isSolid_of_mem_digits {n : Nat} {c : Char} (h : c ∈ digits n) : IsSolid c :=
  .of_isDigit (isDigit_of_mem_digits h)

/-- Putting a point among digits, and zeros around them, adds no other characters. -/
theorem Style.isSolid_of_mem_place (s : Style) {ds : List Char} (hds : ∀ c ∈ ds, IsSolid c)
    (e : Int) : ∀ c ∈ s.place ds e, IsSolid c := by
  have hzeros : ∀ n, ∀ c ∈ List.replicate n '0', IsSolid c := fun n c hc =>
    (List.mem_replicate.1 hc).2 ▸ (by decide)
  unfold Style.place
  split
  · intro c hc
    rcases List.mem_cons.1 hc with rfl | hc
    · decide
    rcases List.mem_cons.1 hc with rfl | hc
    · decide
    · exact (List.mem_append.1 hc).elim (hzeros _ c) (hds c)
  dsimp only
  split
  · intro c hc
    rcases List.mem_append.1 hc with hc | hc
    · exact (List.mem_append.1 hc).elim (hds c) (hzeros _ c)
    · split at hc
      · have hpoint : ∀ d ∈ ['.', '0'], IsSolid d := by simp [IsSolid, Ini.isComment]
        exact hpoint c hc
      · cases hc
  · intro c hc
    rcases List.mem_append.1 hc with hc | hc
    · exact hds c (List.mem_of_mem_take hc)
    rcases List.mem_cons.1 hc with rfl | hc
    · decide
    · exact hds c (List.mem_of_mem_drop hc)

/-- A double is spelled in a message with characters that a reader of settings keeps. -/
theorem isSolid_of_mem_amount {x : Float} {c : Char} (h : c ∈ (Fault.amount x).toList) :
    IsSolid c := by
  have hnames : ∀ name ∈ ["NaN", "-inf", "inf"], ∀ d ∈ name.toList, IsSolid d := by
    simp [IsSolid, Ini.isComment]
  have hzero : ∀ d ∈ ['0'], IsSolid d := by simp [IsSolid, Ini.isComment]
  unfold Fault.amount Style.render at h
  split at h
  · exact hnames "NaN" (by simp) c h
  · split at h
    · exact hnames "-inf" (by simp) c h
    · exact hnames "inf" (by simp) c h
  · next negative m q _ =>
    rw [String.toList_ofList] at h
    unfold Style.finite at h
    rcases List.mem_append.1 h with h | h
    · split at h
      · rw [List.mem_singleton] at h
        exact h ▸ (by decide)
      · cases h
    · split at h
      · exact Style.isSolid_of_mem_place _ hzero _ c h
      · exact Style.isSolid_of_mem_place _ (fun c => isSolid_of_mem_digits) _ c h

end Decimal

end Stagecraft
