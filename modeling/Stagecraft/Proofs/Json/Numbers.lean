/-
The numbers that doubles are written as.

Every finite double is written as a JSON number. Its digits are cut into digits
before the point, digits after it and a power of ten, and what may go wrong is
the first digit: a zero may begin a number only when it is the one digit before
the point. The digits of a whole number above zero begin with no zero, and the
shortest digits of a double above zero are not zero, since zero is further from
it than half of the way to its neighbours.
-/
import Stagecraft.Json.Form
import Stagecraft.Proofs.Doubles.Arithmetic
import Stagecraft.Proofs.Json.Texts
import Stagecraft.Proofs.Text.Numbers

namespace Stagecraft

-- ========================================================= shortest digits

namespace Decimal

theorem digits_ne_nil (n : Nat) : digits n ≠ [] := Nat.toDigits_ne_nil

/-- A whole number above zero is not written with a zero in front. -/
theorem head?_digits {n : Nat} (hn : n ≠ 0) : (digits n).head? ≠ some '0' := by
  induction n using Nat.strongRecOn with
  | ind n ih =>
    unfold digits
    by_cases hlt : n < 10
    · have hdigit : ∀ k < 10, k ≠ 0 → [Nat.digitChar k].head? ≠ some '0' := by decide
      rw [Nat.toDigits_of_lt_base hlt]
      exact hdigit n hlt hn
    · have hle : 10 ≤ n := Nat.le_of_not_lt hlt
      rw [Nat.toDigits_of_base_le (by decide) hle,
        List.head?_append_of_ne_nil _ Nat.toDigits_ne_nil]
      exact ih (n / 10) (by omega) (by omega)

theorem scale_pos {base : Nat} (hbase : 0 < base) (n : Int) : 0 < scale base n :=
  Nat.pow_pos hbase

theorem Grid.not_contains_zero {m : Nat} (hm : 0 < m) (q k : Int) :
    (Grid.of m q k).contains 0 = false := by
  have hscale : 0 < scale 2 (q - 2) * scale 10 (-k) :=
    Nat.mul_pos (scale_pos (by decide) _) (scale_pos (by decide) _)
  have hbelow : (Grid.of m q k).below ≤ 2 * (scale 2 (q - 2) * scale 10 (-k)) := by
    unfold Grid.of
    dsimp only
    split <;> omega
  have hvalue : 4 * (scale 2 (q - 2) * scale 10 (-k)) ≤ (Grid.of m q k).value := by
    show 4 * _ ≤ 4 * m * _
    rw [Nat.mul_assoc]
    exact Nat.mul_le_mul_left 4 (Nat.le_mul_of_pos_left _ hm)
  have hfar : ¬ (Grid.of m q k).value ≤ 0 * (Grid.of m q k).unit + (Grid.of m q k).below := by
    omega
  unfold Grid.contains
  dsimp only
  split <;> exact decide_eq_false fun h => hfar (by omega)

theorem Grid.le_nearer (g : Grid) (tie : Tie) (c : Nat) : c ≤ g.nearer tie c := by
  unfold nearer
  dsimp only
  split
  · exact Nat.le_refl c
  split
  · exact Nat.le_succ c
  cases tie with
  | up => exact Nat.le_succ c
  | even => exact Nat.le_add_right c _

theorem Grid.ne_zero_of_nearest? {m : Nat} (hm : 0 < m) {q k : Int} {tie : Tie} {c : Nat}
    (h : (Grid.of m q k).nearest? tie = some c) : c ≠ 0 := by
  have hzero := Grid.not_contains_zero hm q k
  generalize Grid.of m q k = g at h hzero
  have hne : ∀ c, g.contains c = true → c ≠ 0 := by
    rintro c hc rfl
    exact Bool.false_ne_true (hzero.symm.trans hc)
  unfold Grid.nearest? at h
  dsimp only at h
  split at h
  · next hlow _ =>
    cases h
    have hpos := Nat.pos_of_ne_zero (hne _ hlow)
    exact Nat.ne_of_gt (Nat.lt_of_lt_of_le hpos (Grid.le_nearer g tie _))
  · next hlow _ =>
    cases h
    exact hne _ hlow
  · cases h
    exact Nat.succ_ne_zero _
  · cases h

theorem trim_coefficient_ne_zero {d : Decimal} (h : d.coefficient ≠ 0) :
    d.trim.coefficient ≠ 0 := by
  induction d using trim.induct with
  | case1 d hd ih =>
    rw [trim, if_pos hd]
    exact ih (show d.coefficient / 10 ≠ 0 by omega)
  | case2 d hd =>
    rw [trim, if_neg hd]
    exact h

theorem trim_zero (e : Int) : trim ⟨0, e⟩ = ⟨0, e⟩ := by
  rw [trim, if_neg fun h => Nat.lt_irrefl 0 h.1]

/-- The shortest digits of a double above zero are not those of zero, unless no grid has
any and nothing is left before the point. -/
theorem shortest_ne_zero {m : Nat} (hm : 0 < m) (tie : Tie) (q : Int) :
    (shortest tie m q).coefficient ≠ 0 ∨ shortest tie m q = ⟨0, 0⟩ := by
  unfold shortest
  dsimp only
  generalize hfound : List.findSome? _ _ = found
  cases found with
  | none =>
    rw [Option.getD_none]
    by_cases hzero : m * scale 2 q / scale 2 (-q) = 0
    · rw [hzero, trim_zero]
      exact .inr rfl
    · exact .inl (trim_coefficient_ne_zero hzero)
  | some d =>
    obtain ⟨n, -, hn⟩ := List.exists_of_findSome?_eq_some hfound
    obtain ⟨c, hc, rfl⟩ := Option.map_eq_some_iff.1 hn
    exact .inl (trim_coefficient_ne_zero (Grid.ne_zero_of_nearest? hm hc))

end Decimal

-- ======================================================== spelled numbers

namespace Json

/-- Digits that may stand before a point: a zero alone, or digits that begin with
another one. -/
structure IsWhole (ds : List Char) : Prop where
  digits : ∀ c ∈ ds, c.isDigit = true
  nonempty : ds ≠ []
  leading : ds.head? = some '0' → ds = ['0']

theorem isWhole_digits (n : Nat) : IsWhole (Decimal.digits n) where
  digits _ hc := Decimal.isDigit_of_mem_digits hc
  nonempty := Decimal.digits_ne_nil n
  leading h := by
    by_cases hn : n = 0
    · subst hn
      rfl
    · exact absurd h (Decimal.head?_digits hn)

theorem digitRun_append {ds : List Char} (hdigits : ∀ c ∈ ds, c.isDigit = true) (hne : ds ≠ [])
    {rest : List Char} (hrest : ∀ c ∈ rest.head?, c.isDigit = false) :
    digitRun (ds ++ rest) = some (ds, rest) := by
  have hspan : (ds ++ rest).span Char.isDigit = (ds, rest) := by
    rw [List.span_eq_takeWhile_dropWhile, List.takeWhile_append_of_pos hdigits,
      List.dropWhile_append_of_pos hdigits]
    cases rest with
    | nil => simp
    | cons c rest => simp [hrest c rfl]
  unfold digitRun
  rw [hspan]
  exact if_neg (by simpa using hne)

theorem scanWhole_append {ds : List Char} (h : IsWhole ds) {rest : List Char}
    (hrest : ∀ c ∈ rest.head?, c.isDigit = false) :
    scanWhole (ds ++ rest) = some (ds, rest) := by
  obtain ⟨hdigits, hne, hleading⟩ := h
  cases ds with
  | nil => exact absurd rfl hne
  | cons c ds =>
    by_cases hc : c = '0'
    · subst hc
      obtain rfl := (List.cons.inj (hleading rfl)).2
      exact scanWhole_zero.2 ⟨hrest, rfl, rfl⟩
    · rw [List.cons_append, scanWhole_cons hc]
      exact digitRun_append hdigits hne hrest

/-- What is written behind the digits before the point: a point and digits, or nothing. -/
def fractionText (ds : List Char) : List Char := if ds.isEmpty then [] else '.' :: ds

theorem scanFraction_append {ds : List Char} (hdigits : ∀ c ∈ ds, c.isDigit = true)
    {rest : List Char} (hrest : ∀ c ∈ rest.head?, c.isDigit = false ∧ c ≠ '.') :
    scanFraction (fractionText ds ++ rest) = some (ds, rest) := by
  cases ds with
  | nil => exact scanFraction_of_ne fun c hc => (hrest c hc).2
  | cons c ds =>
    exact digitRun_append hdigits (List.cons_ne_nil c ds) fun c hc => (hrest c hc).1

/-- Digits before the point, digits after it and a power of ten are a number. -/
theorem scanUnsigned_spelled (negative : Bool) {whole fraction tail : List Char} {power : Int}
    (hwhole : IsWhole whole) (hfraction : ∀ c ∈ fraction, c.isDigit = true)
    (htail : ∀ c ∈ tail.head?, c = 'e') (hpower : Numeral.scanExponent tail = some (power, [])) :
    scanUnsigned negative (whole ++ (fractionText fraction ++ tail))
      = some (⟨negative, whole, fraction, power⟩, []) := by
  have hhead : ∀ c ∈ tail.head?, c.isDigit = false ∧ c ≠ '.' := by
    rintro c hc
    obtain rfl := htail c hc
    decide
  refine scanUnsigned_eq_some.2 ⟨fractionText fraction ++ tail, tail, ?_, ?_, hpower, rfl⟩
  · refine scanWhole_append hwhole fun c hc => ?_
    cases fraction with
    | nil => exact (hhead c hc).1
    | cons d fraction =>
      obtain rfl : '.' = c := Option.some.inj hc
      rfl
  · exact scanFraction_append hfraction hhead

theorem fractionText_of_ne {ds : List Char} (h : ds ≠ []) : fractionText ds = '.' :: ds :=
  if_neg (by simpa using h)

theorem isDigit_of_mem_zeros {n : Nat} {c : Char} (h : c ∈ List.replicate n '0') :
    c.isDigit = true := (List.mem_replicate.1 h).2 ▸ rfl

theorem isWhole_zero : IsWhole ['0'] := isWhole_digits 0

theorem IsWhole.append {ds more : List Char} (h : IsWhole ds) (hzero : ds ≠ ['0'])
    (hmore : ∀ c ∈ more, c.isDigit = true) : IsWhole (ds ++ more) where
  digits c hc := (List.mem_append.1 hc).elim (h.digits c) (hmore c)
  nonempty hnil := h.nonempty (List.append_eq_nil_iff.1 hnil).1
  leading hhead := by
    rw [List.head?_append_of_ne_nil _ h.nonempty] at hhead
    exact absurd (h.leading hhead) hzero

theorem IsWhole.take {ds : List Char} (h : IsWhole ds) {n : Nat} (hn : n ≠ 0) :
    IsWhole (ds.take n) where
  digits c hc := h.digits c (List.mem_of_mem_take hc)
  nonempty hnil := by
    rcases List.take_eq_nil_iff.1 hnil with hnil | hnil
    · exact hn hnil
    · exact h.nonempty hnil
  leading hhead := by
    rw [List.head?_take, if_neg hn] at hhead
    rw [h.leading hhead, List.take_of_length_le]
    exact Nat.pos_of_ne_zero hn

/-- Digits with the point put among them are a number; a zero alone keeps its place. -/
theorem scanUnsigned_place (negative : Bool) {ds : List Char} (h : IsWhole ds) {e : Int}
    (hzero : ds = ['0'] → e = 0) :
    ∃ n, scanUnsigned negative (numberStyle.place ds e) = some (n, []) := by
  have hdone : ∀ {whole fraction : List Char}, IsWhole whole → fraction ≠ [] →
      (∀ c ∈ fraction, c.isDigit = true) →
      ∃ n, scanUnsigned negative (whole ++ '.' :: fraction) = some (n, []) := by
    intro whole fraction hwhole hne hfraction
    have hscan := @scanUnsigned_spelled negative whole fraction [] 0 hwhole hfraction
      (fun c hc => nomatch hc) rfl
    rw [List.append_nil, fractionText_of_ne hne] at hscan
    exact ⟨_, hscan⟩
  unfold Decimal.Style.place
  split
  · refine hdone isWhole_zero ?_ fun c hc =>
      (List.mem_append.1 hc).elim isDigit_of_mem_zeros (h.digits c)
    exact fun hnil => h.nonempty (List.append_eq_nil_iff.1 hnil).2
  · dsimp only
    split
    · refine hdone ?_ isWhole_zero.nonempty isWhole_zero.digits
      by_cases hds : ds = ['0']
      · rw [hds, hzero hds]
        exact isWhole_zero
      · exact h.append hds fun c => isDigit_of_mem_zeros
    · next hlong =>
      refine hdone (h.take (Nat.succ_ne_zero _)) ?_ fun c hc => h.digits c (List.mem_of_mem_drop hc)
      exact fun hnil => hlong (List.drop_eq_nil_iff.1 hnil)

theorem digitRun_digits (n : Nat) : digitRun (Decimal.digits n) = some (Decimal.digits n, []) := by
  have hrun : digitRun (Decimal.digits n ++ []) = some (Decimal.digits n, []) :=
    digitRun_append (fun _ hc => Decimal.isDigit_of_mem_digits hc) (Decimal.digits_ne_nil n)
      fun c hc => nomatch hc
  rwa [List.append_nil] at hrun

theorem scanExponent_digits {sign : List Char} (hsign : sign = ['-'] ∨ sign = ['+']) (n : Nat) :
    ∃ power, Numeral.scanExponent ('e' :: (sign ++ Decimal.digits n)) = some (power, []) := by
  have hdigits : (Numeral.scanSign (sign ++ Decimal.digits n)).2 = Decimal.digits n := by
    rcases hsign with rfl | rfl <;> rfl
  rw [scanExponent_cons (.inl rfl), hdigits, digitRun_digits]
  exact ⟨_, rfl⟩

/-- Digits with a power of ten behind them are a number. -/
theorem scanUnsigned_raise (negative : Bool) {ds : List Char} (h : IsWhole ds) (e : Int) :
    ∃ n, scanUnsigned negative (numberStyle.raise ds e) = some (n, []) := by
  have hdone : ∀ {sign : List Char}, sign = ['-'] ∨ sign = ['+'] →
      ∃ n, scanUnsigned negative (ds.take 1 ++ fractionText (ds.drop 1)
        ++ 'e' :: (sign ++ Decimal.digits e.natAbs)) = some (n, []) := by
    intro sign hsign
    obtain ⟨power, hpower⟩ := scanExponent_digits hsign e.natAbs
    rw [List.append_assoc]
    exact ⟨_, scanUnsigned_spelled negative (h.take Nat.one_ne_zero)
      (fun c hc => h.digits c (List.mem_of_mem_drop hc)) (by simp) hpower⟩
  unfold Decimal.Style.raise
  by_cases he : e < 0
  · rw [if_pos he]
    exact hdone (.inl rfl)
  · rw [if_neg he]
    exact hdone (.inr rfl)

theorem scanUnsigned_spell (negative : Bool) {d : Decimal} (h : d.coefficient ≠ 0 ∨ d = ⟨0, 0⟩) :
    ∃ n, scanUnsigned negative (numberStyle.spell d) = some (n, []) := by
  unfold Decimal.Style.spell
  dsimp only
  split
  · refine scanUnsigned_place negative (isWhole_digits d.coefficient) fun hds => ?_
    rcases h with h | rfl
    · exact absurd (congrArg List.head? hds) (Decimal.head?_digits h)
    · decide +kernel
  · exact scanUnsigned_raise negative (isWhole_digits d.coefficient) d.lead

theorem scanNumber_signed (negative : Bool) {cs r : List Char} {n : Number}
    (h : scanUnsigned negative cs = some (n, r)) :
    scanNumber ((if negative then ['-'] else []) ++ cs) = some (n, r) := by
  cases negative with
  | true => exact h
  | false =>
    obtain ⟨_, _, hwhole, -⟩ := scanUnsigned_eq_some.1 h
    obtain ⟨c, cs, rfl, hdigit⟩ := head_of_scanWhole hwhole
    refine (scanNumber_of_ne ?_).trans h
    rintro d hd rfl
    obtain rfl : c = '-' := Option.some.inj hd
    cases hdigit

theorem scanNumber_finite (negative : Bool) (m : Nat) (q : Int) :
    ∃ n, scanNumber (numberStyle.finite negative m q) = some (n, []) := by
  have hunsigned : ∃ n, scanUnsigned negative (if m = 0 then numberStyle.place ['0'] 0
      else numberStyle.spell (Decimal.shortest numberStyle.tie m q)) = some (n, []) := by
    split
    · exact scanUnsigned_place negative isWhole_zero fun _ => rfl
    · next hm =>
      exact scanUnsigned_spell negative
        (Decimal.shortest_ne_zero (Nat.pos_of_ne_zero hm) numberStyle.tie q)
  obtain ⟨n, hn⟩ := hunsigned
  exact ⟨n, scanNumber_signed negative hn⟩

/-- A finite double is written as a number. -/
theorem read?_writeNumber {x : Float} (h : Scalar.isFinite x = true) :
    ∃ n, read? (writeNumber x) = some (number n) := by
  obtain ⟨negative, m, q, hx⟩ := Double.ofFloat_of_isFinite ((Double.isFinite_eq x).symm.trans h)
  obtain ⟨n, hn⟩ := scanNumber_finite negative m q
  have htext : (writeNumber x).toList = numberStyle.finite negative m q := by
    unfold writeNumber Decimal.Style.render
    rw [if_pos h, hx]
    exact String.toList_ofList
  refine ⟨n, read?_eq_some.2 ⟨[], ?_, rfl⟩⟩
  rw [htext]
  exact scanValue_of_scanNumber hn _

/-- What is not finite is written as null. -/
theorem read?_writeNumber_of_not {x : Float} (h : Scalar.isFinite x = false) :
    read? (writeNumber x) = some null := by
  have htext : writeNumber x = "null" := if_neg (h ▸ Bool.false_ne_true)
  rw [htext]
  rfl

end Json

end Stagecraft
