import Stencil.Proofs.Number.Numeral
import Mathlib.Data.List.Basic
import Mathlib.Data.List.Induction
import Mathlib.Tactic.Ring

/-!
# The value of digits

What a run of digits stands for and how many digits a number has. Zeros in front of digits
do not change their value, and zeros behind them multiply it by a power of ten, so the
value of a run can be told from the digits that are left without them.
-/

namespace Stencil

/-! ### Values -/

namespace Decimal

/-- The digits of a text have the value that the library gives them. -/
theorem ofDigits_eq (ds : List Char) : ofDigits ds = Nat.ofDigitChars 10 ds 0 := rfl

/-- The digits of a natural number spell it. -/
theorem ofDigits_digitsOf (n : Nat) : ofDigits (digitsOf n) = n := Nat.ofDigitChars_ten_toDigits

/-- A digit behind others counts ten times less than they do. -/
theorem ofDigits_concat (init : List Char) (d : Char) :
    ofDigits (init ++ [d]) = 10 * ofDigits init + digitValue d := by
  rw [ofDigits, List.foldl_concat]
  rfl

/-- Zeros behind digits multiply their value by a power of ten. -/
theorem ofDigits_append_zeros (ds : List Char) (z : Nat) :
    ofDigits (ds ++ List.replicate z '0') = ofDigits ds * 10 ^ z := by
  rw [ofDigits_eq, Nat.ofDigitChars_append, Nat.ofDigitChars_replicate_zero, ← ofDigits_eq,
    Nat.mul_comm]

/-- Zeros before digits change nothing. -/
theorem ofDigits_zeros_append (z : Nat) (ds : List Char) :
    ofDigits (List.replicate z '0' ++ ds) = ofDigits ds := by
  rw [ofDigits_eq, Nat.ofDigitChars_append, Nat.ofDigitChars_replicate_zero, Nat.mul_zero,
    ← ofDigits_eq]

end Decimal

/-- A text is what is left of it without the zeros at its end, and those zeros. -/
theorem exists_trailing_zeros (ds : List Char) :
    ∃ z, ds = (ds.reverse.dropWhile (· == '0')).reverse ++ List.replicate z '0' := by
  refine ⟨(ds.reverse.takeWhile (· == '0')).length, ?_⟩
  have hzeros : ds.reverse.takeWhile (· == '0') =
      List.replicate (ds.reverse.takeWhile (· == '0')).length '0' := by
    refine List.eq_replicate_iff.mpr ⟨rfl, fun c hc => ?_⟩
    have hall := List.all_takeWhile (p := (· == '0')) (l := ds.reverse)
    simpa using List.all_eq_true.mp hall c hc
  calc ds = ds.reverse.reverse := (List.reverse_reverse ds).symm
    _ = (ds.reverse.takeWhile (· == '0') ++ ds.reverse.dropWhile (· == '0')).reverse := by
        rw [List.takeWhile_append_dropWhile]
    _ = (ds.reverse.dropWhile (· == '0')).reverse ++
          (ds.reverse.takeWhile (· == '0')).reverse := List.reverse_append
    _ = _ := by
        rw [hzeros, List.reverse_replicate, List.length_replicate]

/-- Without the zeros at their end, digits do not end in zero. -/
theorem getLast?_dropWhile_zero_ne (ds : List Char) :
    (ds.dropWhile (· == '0')).reverse.getLast? ≠ some '0' := by
  intro hlast
  have hfirst := List.head?_dropWhile_not (· == '0') ds
  rw [List.getLast?_reverse] at hlast
  simp [hlast] at hfirst

/-- Digits that end in another digit than zero are no multiple of ten. -/
theorem Decimal.not_ten_dvd_ofDigits {ds : List Char} (hne : ds ≠ [])
    (hdigit : ∀ c ∈ ds, c.isDigit = true) (hlast : ds.getLast? ≠ some '0') :
    ¬10 ∣ ofDigits ds := by
  obtain ⟨init, d, rfl⟩ : ∃ init d, ds = init ++ [d] :=
    ⟨_, _, (List.dropLast_append_getLast hne).symm⟩
  rw [List.getLast?_concat, ne_eq, Option.some.injEq] at hlast
  have hzero : d.toNat ≠ '0'.toNat := fun heq => hlast (Char.toNat_inj.mp heq)
  have hrange := Char.isDigit_iff_toNat.mp (hdigit d (by simp))
  have hcodes : '0'.toNat = 48 ∧ '9'.toNat = 57 := ⟨rfl, rfl⟩
  rw [ofDigits_concat, digitValue]
  omega

/-! ### The digits of a number -/

/-- A number has as many digits as powers of ten say. -/
theorem lt_pow_length_digitsOf (n : ℕ) : n < 10 ^ (Decimal.digitsOf n).length :=
  (Nat.length_toDigits_le_iff (by decide) Nat.length_toDigits_pos).mp (Nat.le_refl _)

theorem pow_length_digitsOf_le {n : ℕ} (hn : 0 < n) :
    10 ^ ((Decimal.digitsOf n).length - 1) ≤ n := by
  rcases Nat.eq_zero_or_pos ((Decimal.digitsOf n).length - 1) with hone | hmore
  · rw [hone]
    exact hn
  · by_contra hlt
    have hle := (Nat.length_toDigits_le_iff (by decide) hmore).mpr (Nat.lt_of_not_ge hlt)
    simp only [Decimal.digitsOf] at hmore hle
    omega

/-- The digits of a positive number begin with another digit than zero. -/
theorem head?_digitsOf_ne {n : ℕ} (hn : 0 < n) : (Decimal.digitsOf n).head? ≠ some '0' := by
  induction n using Nat.strongRecOn with
  | ind n ih =>
    rw [Decimal.digitsOf, Nat.toDigits_eq_if (by decide)]
    split
    · next hlt =>
      have hdigit : ∀ m < 10, 0 < m → Nat.digitChar m ≠ '0' := by decide
      rw [List.head?_cons, ne_eq, Option.some.injEq]
      exact hdigit n hlt hn
    · next hge =>
      rw [List.head?_append_of_ne_nil _ Nat.toDigits_ne_nil]
      exact ih (n / 10) (Nat.div_lt_self hn (by decide)) (Nat.div_pos (by omega) (by decide))

/-- Digits without idle zeros in front are those of the number that they spell. -/
theorem digitsOf_ofDigits {ds : List Char} (hne : ds ≠ [])
    (hdigit : ∀ c ∈ ds, c.isDigit = true) (hhead : ds.head? = some '0' → ds = ['0']) :
    Decimal.digitsOf (Decimal.ofDigits ds) = ds := by
  induction ds using List.reverseRecOn with
  | nil => exact absurd rfl hne
  | append_singleton init d ih =>
    have hrange := Char.isDigit_iff_toNat.mp (hdigit d (by simp))
    have hcodes : '0'.toNat = 48 ∧ '9'.toNat = 57 := ⟨rfl, rfl⟩
    have hlt : Decimal.digitValue d < 10 := by
      rw [Decimal.digitValue]
      omega
    have hchar : (Decimal.digitValue d).digitChar = d := by
      have hcode : ∀ k < 10, (Nat.digitChar k).toNat = 48 + k := by decide
      refine Char.toNat_inj.mp ?_
      rw [hcode _ hlt, Decimal.digitValue]
      omega
    rw [Decimal.ofDigits_concat, Decimal.digitsOf]
    cases init with
    | nil =>
      have hzero : Decimal.ofDigits [] = 0 := rfl
      rw [hzero, Nat.mul_zero, Nat.zero_add, Nat.toDigits_of_lt_base hlt, hchar, List.nil_append]
    | cons c cs =>
      -- More digits follow the first one, which is therefore none that is idle.
      have hc : c ≠ '0' := by
        rintro rfl
        simpa using hhead rfl
      have hinit := ih (by simp) (fun x hx => hdigit x (List.mem_append_left _ hx)) (by simp [hc])
      have hpos : Decimal.ofDigits (c :: cs) ≠ 0 := by
        intro hzero
        rw [hzero] at hinit
        exact hc (List.cons.inj hinit).1.symm
      rw [Nat.toDigits_of_base_le (by decide) (by omega), Nat.mul_add_div (by decide),
        Nat.div_eq_of_lt hlt, Nat.add_zero, Nat.mul_add_mod, Nat.mod_eq_of_lt hlt, hchar]
      exact congrArg (· ++ [d]) hinit

/-! ### Runs of digits -/

/-- The one digit zero. -/
def DigitRun.zero : DigitRun := ⟨['0'], by decide, List.all_eq_true.mp rfl⟩

/-- The digits of a natural number. -/
def DigitRun.ofNat (n : Nat) : DigitRun :=
  ⟨Decimal.digitsOf n, Nat.toDigits_ne_nil, fun _ hc =>
    Nat.isDigit_of_mem_toDigits (by decide) (by decide) hc⟩

/-- A whole number is written as digits, with a minus before them if it is negative. -/
theorem exists_sign_digits (e : Int) :
    ∃ (sign : Sign) (ds : DigitRun), (toString e).toList = sign.text ++ ds.digits ∧
      sign.apply (Decimal.ofDigits ds.digits) = e ∧
      sign = if e < 0 then .minus else .absent := by
  cases e with
  | ofNat n =>
    refine ⟨.absent, .ofNat n, ?_, ?_, rfl⟩
    · exact Nat.toList_repr
    · exact congrArg Int.ofNat (Decimal.ofDigits_digitsOf n)
  | negSucc n =>
    refine ⟨.minus, .ofNat (n + 1), ?_, ?_, (if_pos (Int.negSucc_lt_zero n)).symm⟩
    · have htext : toString (Int.negSucc n) = "-" ++ (n + 1).repr := rfl
      rw [htext, String.toList_append, Nat.toList_repr]
      rfl
    · have hvalue : Decimal.ofDigits (DigitRun.ofNat (n + 1)).digits = n + 1 :=
        Decimal.ofDigits_digitsOf (n + 1)
      rw [hvalue]
      rfl

end Stencil
