/-
Doubles and their parts.

A double is a pattern of 64 bits, and it computes on its parts: a sign and
a kind, and for a finite one other than zero a significand and an exponent.
Two facts about the way between them carry everything that is said about
doubles here. Nothing is lost when a double is taken apart
(`ofParts_parts`), so doubles with the same parts are one double. And what
fits is found again when it is put together (`parts_ofParts`), where a
significand and an exponent fit if they are in the form that arithmetic
rounds to (`Fitting`). Beyond the largest double there is infinity.
-/
import Mathlib
import Stagecraft.Binary64

namespace Stagecraft.Double

open Float.Model UnpackedFloat

-- ================================================================ the parts

/-- What a double is made of. -/
def parts (x : Float) : UnpackedFloat := x.toModel.unpack

/-- The double with these parts, if they fit. -/
def ofParts (u : UnpackedFloat) : Float := .ofModel (.pack u)

/-- A significand of 53 bits and an exponent above the least one, or a shorter
significand and the least exponent. -/
structure Fitting (m : Nat) (e : Int) : Prop where
  short : m < 2 ^ 53
  least : -1074 ≤ e
  full : 2 ^ 52 ≤ m ∨ e = -1074

-- ============================================================== the fields

theorem toNat_implicit (m : BitVec 52) : (1#1 ++ m).toNat = 2 ^ 52 + m.toNat := by
  rw [BitVec.toNat_append, ← Nat.shiftLeft_add_eq_or_of_lt m.isLt]
  rfl

theorem ofBitVec_toBitVec (s : Sign) : Sign.ofBitVec s.toBitVec = s := by
  cases s <;> rfl

theorem toBitVec_ofBitVec (b : BitVec 1) : (Sign.ofBitVec b).toBitVec = b := by
  revert b
  decide

theorem unpackSign_packComponents (spec : Format) (s : Sign) (e : BitVec spec.exponentBits)
    (m : BitVec spec.mantissaBitsWithoutImplicit) :
    unpackSign (packComponents spec s e m) = s.toBitVec := by
  apply BitVec.eq_of_getLsbD_eq
  intro i hi
  have hzero : i = 0 := by omega
  subst hzero
  simp [unpackSign, packComponents, BitVec.getLsbD_append, BitVec.getElem_append]

/-- The three fields of a pattern are all of it. -/
theorem packComponents_unpack (b : BitVec Format.binary64.numBits) :
    packComponents .binary64 (Sign.ofBitVec (unpackSign b)) (unpackExponent b)
      (unpackMantissa b) = b := by
  simp only [packComponents, toBitVec_ofBitVec, unpackSign, unpackExponent, unpackMantissa,
    BitVec.extractLsb]
  ext i hi
  grind

-- ================================================== patterns of finite doubles

theorem finite_congr {s : Sign} {m n : Nat} {e f : Int} {hm : 0 < m} {hn : 0 < n} (hmn : m = n)
    (hef : e = f) : UnpackedFloat.finite s m e hm = .finite s n f hn := by
  subst hmn hef
  rfl

theorem unpack_normal (s : Sign) {e : BitVec 11} (m : BitVec 52) (hlast : e ≠ -1#11)
    (hfirst : e ≠ 0#11) :
    UnpackedFloat.unpack .binary64 (packComponents .binary64 s e m)
      = .finite s (2 ^ 52 + m.toNat) (e.toNat - 1075) (by omega) := by
  unfold UnpackedFloat.unpack
  simp only [unpackMantissa_packComponents, unpackExponent_packComponents,
    unpackSign_packComponents, ofBitVec_toBitVec, if_neg hlast, if_neg hfirst]
  exact finite_congr (toNat_implicit m) rfl

theorem unpack_subnormal (s : Sign) {m : BitVec 52} (hm : m ≠ 0#52) (hpos : 0 < m.toNat) :
    UnpackedFloat.unpack .binary64 (packComponents .binary64 s 0#11 m)
      = .finite s m.toNat (-1074) hpos := by
  unfold UnpackedFloat.unpack
  simp only [unpackMantissa_packComponents, unpackExponent_packComponents,
    unpackSign_packComponents, ofBitVec_toBitVec]
  rw [if_neg (by decide), if_pos trivial, dif_neg hm]
  rfl

/-- The pattern of a finite double. -/
theorem pack_finite (s : Sign) {m : Nat} (e : Int) (hm : 0 < m) :
    UnpackedFloat.pack .binary64 (.finite s m e hm)
      = if 2 ^ 11 ≤ (e + 1023 + 52).toNat + 1 then packedInfinity .binary64 s
        else if m.log2 + 1 = 53 then
          packComponents .binary64 s (BitVec.ofNat 11 (e + 1023 + 52).toNat) (BitVec.ofNat 52 m)
        else packComponents .binary64 s 0#11 (BitVec.ofNat 52 m) := rfl

theorem pack_normal (s : Sign) {m : Nat} {e : Int} (hm : 0 < m) (hfull : 2 ^ 52 ≤ m)
    (hshort : m < 2 ^ 53) (hleast : -1074 ≤ e) (hlargest : e ≤ 971) :
    UnpackedFloat.pack .binary64 (.finite s m e hm)
      = packComponents .binary64 s (BitVec.ofNat 11 (e + 1075).toNat) (BitVec.ofNat 52 m) := by
  have hlog : m.log2 = 52 := by
    rw [Nat.log2_eq_iff (by omega)]
    exact ⟨hfull, hshort⟩
  have hbiased : (e + 1023 + 52).toNat = (e + 1075).toNat := by omega
  rw [pack_finite, hbiased, if_neg (by omega), if_pos (by omega)]

theorem pack_subnormal (s : Sign) {m : Nat} (hm : 0 < m) (hshort : m < 2 ^ 52) :
    UnpackedFloat.pack .binary64 (.finite s m (-1074) hm)
      = packComponents .binary64 s 0#11 (BitVec.ofNat 52 m) := by
  have hlog : m.log2 < 52 := (Nat.log2_lt (by omega)).2 hshort
  rw [pack_finite, if_neg (by decide), if_neg (by omega)]

theorem pack_over (s : Sign) {m : Nat} {e : Int} (hm : 0 < m) (hover : 971 < e) :
    UnpackedFloat.pack .binary64 (.finite s m e hm) = packedInfinity .binary64 s := by
  rw [pack_finite, if_pos (by omega)]

-- ====================================================== there and back again

/-- What is no finite double but zero is found again. -/
theorem unpack_special (s : Sign) :
    UnpackedFloat.unpack .binary64 (packedInfinity .binary64 s) = .infinity s
      ∧ UnpackedFloat.unpack .binary64 (packedZero .binary64 s) = .zero s
      ∧ UnpackedFloat.unpack .binary64 (packedNaN .binary64) = .notANumber := by
  cases s <;> exact ⟨rfl, rfl, rfl⟩

/-- A field is no other number than the one that it is made from. -/
theorem ofNat_ne {w n : Nat} {b : BitVec w} (hn : n < 2 ^ w) (hne : n ≠ b.toNat) :
    BitVec.ofNat w n ≠ b := by
  intro heq
  rw [← heq, BitVec.toNat_ofNat, Nat.mod_eq_of_lt hn] at hne
  exact hne rfl

/-- A finite double is found again, or infinity if there is none so large. -/
theorem unpack_pack_finite (s : Sign) {m : Nat} {e : Int} (hm : 0 < m) (h : Fitting m e) :
    UnpackedFloat.unpack .binary64 (UnpackedFloat.pack .binary64 (.finite s m e hm))
      = if 971 < e then .infinity s else .finite s m e hm := by
  obtain ⟨hshort, hleast, hform⟩ := h
  by_cases hover : 971 < e
  · rw [if_pos hover, pack_over s hm hover]
    exact (unpack_special s).1
  · rw [if_neg hover]
    by_cases hfull : 2 ^ 52 ≤ m
    · have hfield : (e + 1075).toNat < 2 ^ 11 := by omega
      rw [pack_normal s hm hfull hshort hleast (by omega), unpack_normal]
      · refine finite_congr ?_ ?_
        · rw [BitVec.toNat_ofNat]
          omega
        · rw [BitVec.toNat_ofNat, Nat.mod_eq_of_lt hfield]
          omega
      · exact ofNat_ne hfield (by simp; omega)
      · exact ofNat_ne hfield (by simp; omega)
    · have he : e = -1074 := hform.resolve_left hfull
      subst he
      have hfraction : m < 2 ^ 52 := by omega
      have hnat : (BitVec.ofNat 52 m).toNat = m := by
        rw [BitVec.toNat_ofNat, Nat.mod_eq_of_lt hfraction]
      rw [pack_subnormal s hm hfraction, unpack_subnormal s]
      · exact finite_congr hnat rfl
      · exact ofNat_ne hfraction (by simp; omega)
      · rw [hnat]
        exact hm

theorem unpack_last (s : Sign) (m : BitVec 52) :
    UnpackedFloat.unpack .binary64 (packComponents .binary64 s (-1#11) m)
      = if m = 0#52 then .infinity s else .notANumber := by
  unfold UnpackedFloat.unpack
  simp only [unpackMantissa_packComponents, unpackExponent_packComponents,
    unpackSign_packComponents, ofBitVec_toBitVec]
  exact if_pos trivial

/-- The significand and the exponent of a pattern fit. -/
theorem fitting_of_unpack {b : BitVec Format.binary64.numBits} {s : Sign} {m : Nat} {e : Int}
    {hm : 0 < m} (h : UnpackedFloat.unpack .binary64 b = .finite s m e hm) :
    Fitting m e ∧ e ≤ 971 := by
  rw [← packComponents_unpack b] at h
  generalize Sign.ofBitVec (unpackSign b) = sign at h
  generalize hexponent : unpackExponent b = exponent at h
  generalize hfraction : unpackMantissa b = fraction at h
  have hshort : fraction.toNat < 2 ^ 52 := fraction.isLt
  by_cases hlast : exponent = -1#11
  · rw [hlast, unpack_last] at h
    split at h <;> cases h
  · by_cases hfirst : exponent = 0#11
    · subst hfirst
      by_cases hzero : fraction = 0#52
      · subst hzero
        exact absurd ((unpack_special sign).2.1.symm.trans h) (by simp)
      · have hpos : 0 < fraction.toNat :=
          Nat.pos_of_ne_zero fun h0 => hzero (BitVec.eq_of_toNat_eq h0)
        rw [unpack_subnormal sign hzero hpos] at h
        injection h with _ hm he
        exact ⟨⟨by omega, by omega, .inr he.symm⟩, by omega⟩
    · have hfield : exponent.toNat < 2 ^ 11 := exponent.isLt
      have hnotfirst : exponent.toNat ≠ 0 := fun h0 => hfirst (BitVec.eq_of_toNat_eq h0)
      have hnotlast : exponent.toNat ≠ 2047 := fun h0 => hlast (BitVec.eq_of_toNat_eq h0)
      rw [unpack_normal sign fraction hlast hfirst] at h
      injection h with _ hm he
      exact ⟨⟨by omega, by omega, .inl (by omega)⟩, by omega⟩

/-- A valid pattern is found again. -/
theorem pack_unpack {b : BitVec Format.binary64.numBits} (hb : Format.binary64.Valid b) :
    UnpackedFloat.pack .binary64 (UnpackedFloat.unpack .binary64 b) = b := by
  obtain ⟨hcanonical⟩ := hb
  have hfields := packComponents_unpack b
  generalize Sign.ofBitVec (unpackSign b) = sign at hfields
  generalize unpackExponent b = exponent at hfields hcanonical
  generalize unpackMantissa b = fraction at hfields hcanonical
  have hshort : fraction.toNat < 2 ^ 52 := fraction.isLt
  by_cases hlast : exponent = -1#11
  · by_cases hzero : fraction = 0#52
    · rw [← hfields, hlast, unpack_last, if_pos hzero, hzero]
      rfl
    · rw [hcanonical hlast hzero, (unpack_special .positive).2.2]
      rfl
  · rw [← hfields]
    by_cases hfirst : exponent = 0#11
    · subst hfirst
      by_cases hzero : fraction = 0#52
      · subst hzero
        exact congrArg (UnpackedFloat.pack .binary64) (unpack_special sign).2.1
      · have hpos : 0 < fraction.toNat :=
          Nat.pos_of_ne_zero fun h0 => hzero (BitVec.eq_of_toNat_eq h0)
        rw [unpack_subnormal sign hzero hpos, pack_subnormal sign hpos hshort]
        rw [BitVec.ofNat_toNat, BitVec.setWidth_eq]
    · have hfield : exponent.toNat < 2 ^ 11 := exponent.isLt
      have hnotfirst : exponent.toNat ≠ 0 := fun h0 => hfirst (BitVec.eq_of_toNat_eq h0)
      have hnotlast : exponent.toNat ≠ 2047 := fun h0 => hlast (BitVec.eq_of_toNat_eq h0)
      rw [unpack_normal sign fraction hlast hfirst, pack_normal sign _ (by omega) (by omega)
        (by omega) (by omega)]
      congr 1
      · apply BitVec.eq_of_toNat_eq
        rw [BitVec.toNat_ofNat]
        omega
      · apply BitVec.eq_of_toNat_eq
        rw [BitVec.toNat_ofNat]
        omega

-- =============================================================== doubles

theorem parts_ofParts (u : UnpackedFloat) :
    parts (ofParts u) = UnpackedFloat.unpack .binary64 (UnpackedFloat.pack .binary64 u) := rfl

theorem parts_ofParts_infinity (s : Sign) : parts (ofParts (.infinity s)) = .infinity s :=
  (unpack_special s).1

theorem parts_ofParts_zero (s : Sign) : parts (ofParts (.zero s)) = .zero s :=
  (unpack_special s).2.1

theorem parts_ofParts_notANumber : parts (ofParts .notANumber) = .notANumber :=
  (unpack_special .positive).2.2

/-- A double that is taken apart and put together is the same. -/
theorem ofParts_parts (x : Float) : ofParts (parts x) = x := by
  obtain ⟨⟨bits, hvalid⟩⟩ := x
  unfold ofParts parts Float.Model.pack Float.Model.unpack
  congr 2
  exact congrArg UInt64.ofBitVec (pack_unpack hvalid)

/-- Doubles of the same parts are the same. -/
theorem parts_injective {x y : Float} (h : parts x = parts y) : x = y := by
  rw [← ofParts_parts x, h, ofParts_parts]

theorem fitting_parts {x : Float} {s : Sign} {m : Nat} {e : Int} {hm : 0 < m}
    (h : parts x = .finite s m e hm) : Fitting m e ∧ e ≤ 971 := fitting_of_unpack h

-- ================================================================= signs

theorem neg_neg_sign (s : Sign) : - -s = s := by
  cases s <;> rfl

/-- The opposite of a double has the opposite sign, and nothing else of it changes. -/
theorem parts_neg (x : Float) : parts (-x) = (parts x).neg := by
  show parts (ofParts (parts x).neg) = _
  cases hparts : parts x with
  | notANumber => exact parts_ofParts_notANumber
  | infinity s => exact parts_ofParts_infinity (-s)
  | zero s => exact parts_ofParts_zero (-s)
  | finite s m e hm =>
      obtain ⟨hfits, hlargest⟩ := fitting_parts hparts
      show parts (ofParts (.finite (-s) m e hm)) = .finite (-s) m e hm
      rw [parts_ofParts, unpack_pack_finite _ hm hfits, if_neg (by omega)]

/-- The opposite of the opposite is the same double, whatever it is. -/
protected theorem neg_neg (x : Float) : - -x = x := by
  refine parts_injective ?_
  rw [parts_neg, parts_neg]
  cases parts x with
  | notANumber => rfl
  | infinity s => exact congrArg UnpackedFloat.infinity (neg_neg_sign s)
  | zero s => exact congrArg UnpackedFloat.zero (neg_neg_sign s)
  | finite s m e hm =>
      show UnpackedFloat.finite (- -s) m e hm = .finite s m e hm
      rw [neg_neg_sign]

-- ======================================================== exact values

theorem unpackExponent_toBits (x : Float) :
    (@unpackExponent .binary64 x.toBits.toBitVec).toNat
      = (x.toBits.toNat >>> 52) % 2048 := by
  simp [unpackExponent]

/-- A finite double has an exact value: only what is not finite has the last exponent. -/
theorem ofFloat_of_isFinite {x : Float} (h : x.isFinite = true) :
    ∃ negative m q, Binary64.ofFloat x = .finite negative m q := by
  have hfield : (x.toBits.toNat >>> 52) % 2048 ≠ 2047 := by
    intro hlast
    have hexponent : @unpackExponent .binary64 x.toBits.toBitVec = -1#11 := by
      apply BitVec.eq_of_toNat_eq
      rw [unpackExponent_toBits, hlast]
      rfl
    have hparts : parts x = UnpackedFloat.unpack .binary64 x.toBits.toBitVec := rfl
    rw [← packComponents_unpack x.toBits.toBitVec, hexponent, unpack_last] at hparts
    change (parts x).isFinite = true at h
    rw [hparts] at h
    split at h <;> cases h
  unfold Binary64.ofFloat
  dsimp only
  rw [if_neg hfield]
  split
  · exact ⟨_, _, _, rfl⟩
  · exact ⟨_, _, _, rfl⟩

end Stagecraft.Double
