import ChatRelay.Text.Hex
import Mathlib.Algebra.Group.Nat.Defs

/-!
# Written numbers of sixteens

A number that is written with a fixed number of hexadecimal digits is read back, as far as its
digits go (`Hex.value_digits`).
-/

namespace ChatRelay.Hex

theorem value?_digit {n : Nat} (h : n < 16) : value? (digit n) = some n := by
  have hall : ∀ n < 16, value? (digit n) = some n := by decide
  exact hall n h

theorem isDigit_digit {n : Nat} (h : n < 16) : isDigit (digit n) = true := by
  rw [isDigit, value?_digit h]
  rfl

theorem length_digits (width n : Nat) : (digits width n).length = width := by
  induction width generalizing n with
  | zero => rfl
  | succ width ih => rw [digits, List.length_append, ih, List.length_singleton]

theorem isDigit_of_mem_digits {width n : Nat} {c : Char} (h : c ∈ digits width n) :
    isDigit c = true := by
  induction width generalizing n with
  | zero => exact absurd h List.not_mem_nil
  | succ width ih =>
    rw [digits, List.mem_append, List.mem_singleton] at h
    rcases h with h | rfl
    · exact ih h
    · exact isDigit_digit (Nat.mod_lt n (by omega))

/-- Digits that are written begin with one. -/
theorem exists_digits_succ (width n : Nat) :
    ∃ v < 16, ∃ rest, digits (width + 1) n = digit v :: rest := by
  induction width generalizing n with
  | zero => exact ⟨n % 16, Nat.mod_lt n (by omega), [], rfl⟩
  | succ width ih =>
    obtain ⟨v, hv, rest, hdigits⟩ := ih (n / 16)
    exact ⟨v, hv, rest ++ [digit (n % 16)], by rw [digits, hdigits, List.cons_append]⟩

theorem all_isDigit_digits (width n : Nat) : (digits width n).all isDigit = true :=
  List.all_eq_true.2 fun _ => isDigit_of_mem_digits

theorem value_append (acc : Nat) (cs cs' : List Char) :
    value acc (cs ++ cs') = (value acc cs).bind fun n => value n cs' := by
  induction cs generalizing acc with
  | nil => rfl
  | cons c cs ih =>
    rw [List.cons_append, value, value]
    cases value? c with
    | none => rfl
    | some v => exact ih _

/-- Only digits have a value. -/
theorem isDigit_of_value {acc n : Nat} {cs : List Char} (h : value acc cs = some n) :
    ∀ c ∈ cs, isDigit c = true := by
  induction cs generalizing acc with
  | nil => exact fun c hc => absurd hc List.not_mem_nil
  | cons c cs ih =>
    rw [value] at h
    cases hc : value? c with
    | none => rw [hc] at h; cases h
    | some v =>
      rw [hc] at h
      exact List.forall_mem_cons.2 ⟨by rw [isDigit, hc]; rfl, ih h⟩

/-- **A written number is read back**, as far as its digits go. -/
theorem value_digits (acc width n : Nat) :
    value acc (digits width n) = some (16 ^ width * acc + n % 16 ^ width) := by
  induction width generalizing n with
  | zero => simp [digits, value, Nat.mod_one]
  | succ width ih =>
    rw [digits, value_append, ih, Option.bind_some, value, value?_digit (Nat.mod_lt n (by omega))]
    show value _ [] = _
    rw [value, Option.some.injEq, Nat.pow_succ', Nat.mod_mul, Nat.mul_add, Nat.mul_assoc]
    omega

end ChatRelay.Hex
