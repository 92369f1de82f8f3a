import ChatRelay.Json.Numeral
import ChatRelay.Proofs.Double
import Mathlib.Data.List.TakeWhile

/-!
# Numerals

The grammar of numbers (`Literal`): a whole number, which begins with zero only if it is zero, with
a sign, a fraction and an exponent or without them. A whole number writes an integer (`Writes`). Of
the literals of sixty-four bits these are the ones that are read as integers (`integer?_of_writes`,
`writes_of_integer?`), and they are numbers of double precision as well (`isSome_real?_of_writes`).
-/

namespace ChatRelay.Json

/-! ## Digits -/

section Digits

variable {n : Nat} {c : Char} {cs : List Char}

theorem isDigit_of_mem_toDigits (h : c ∈ Nat.toDigits 10 n) : c.isDigit = true :=
  Nat.isDigit_of_mem_toDigits (by omega) (by omega) h

theorem value_eq_ofDigitChars (acc : Nat) (cs : List Char) :
    Decimal.value acc cs = Nat.ofDigitChars 10 cs acc := rfl

/-- A numeral is read back. -/
theorem value_toDigits (n : Nat) : Decimal.value 0 (Nat.toDigits 10 n) = n :=
  (value_eq_ofDigitChars 0 _).trans Nat.ofDigitChars_ten_toDigits

/-- A numeral begins with zero only if it is zero. -/
theorem exists_toDigits_of_ne_zero (hn : n ≠ 0) :
    ∃ c cs, Nat.toDigits 10 n = c :: cs ∧ c ≠ '0' := by
  induction n using Nat.strongRecOn with
  | ind n ih =>
    by_cases hlt : n < 10
    · have hall : ∀ n < 10, n ≠ 0 → n.digitChar ≠ '0' := by decide
      exact ⟨n.digitChar, [], Nat.toDigits_of_lt_base hlt, hall n hlt hn⟩
    · obtain ⟨c, cs, hdigits, hc⟩ := ih (n / 10) (by omega) (by omega)
      refine ⟨c, cs ++ [(n % 10).digitChar], ?_, hc⟩
      rw [Nat.toDigits_of_base_le (by omega) (by omega), hdigits]
      rfl

end Digits

namespace Numeral

/-! ## The grammar -/

/-- Digits, at least one. -/
def Digits (cs : List Char) : Prop := cs ≠ [] ∧ ∀ c ∈ cs, c.isDigit = true

/-- A whole number: zero, or digits of which the first is not zero. -/
inductive Whole : List Char → Prop
  | zero : Whole ['0']
  | digits {c : Char} {cs : List Char} (hc : c.isDigit = true) (hzero : c ≠ '0')
      (hcs : ∀ d ∈ cs, d.isDigit = true) : Whole (c :: cs)

/-- What may follow a whole number: a point and digits. -/
inductive Fraction : List Char → Prop
  | none : Fraction []
  | digits {cs : List Char} (h : Digits cs) : Fraction ('.' :: cs)

/-- What may come at the end: a power of ten. -/
inductive Exponent : List Char → Prop
  | none : Exponent []
  | digits {mark : Char} {sign cs : List Char} (hmark : mark = 'e' ∨ mark = 'E')
      (hsign : sign = [] ∨ sign = ['+'] ∨ sign = ['-']) (h : Digits cs) :
      Exponent (mark :: (sign ++ cs))

/-- A number without a sign. -/
inductive Unsigned : List Char → Prop
  | intro {whole fraction exponent : List Char} (hwhole : Whole whole)
      (hfraction : Fraction fraction) (hexponent : Exponent exponent) :
      Unsigned (whole ++ (fraction ++ exponent))

/-- A number. -/
inductive Literal : List Char → Prop
  | unsigned {literal : List Char} (h : Unsigned literal) : Literal literal
  | signed {literal : List Char} (h : Unsigned literal) : Literal ('-' :: literal)

/-- The integer that a literal writes. Zero with a sign is no integer. -/
inductive Writes : List Char → Int → Prop
  | natural {cs : List Char} (h : Whole cs) : Writes cs (Decimal.value 0 cs)
  | negative {cs : List Char} (h : Whole cs) (hzero : Decimal.value 0 cs ≠ 0) :
      Writes ('-' :: cs) (-(Decimal.value 0 cs))

variable {n : Nat} {z : Int} {cs literal : List Char}

theorem Whole.isDigit (h : Whole cs) : ∀ c ∈ cs, c.isDigit = true := by
  cases h with
  | zero => exact List.forall_mem_singleton.2 rfl
  | digits hc _ hcs => exact List.forall_mem_cons.2 ⟨hc, hcs⟩

theorem Whole.exists_cons (h : Whole cs) : ∃ c rest, cs = c :: rest ∧ c.isDigit = true := by
  cases h with
  | zero => exact ⟨_, _, rfl, by decide⟩
  | digits hc _ _ => exact ⟨_, _, rfl, hc⟩

theorem Unsigned.exists_cons (h : Unsigned cs) : ∃ c rest, cs = c :: rest ∧ c.isDigit = true := by
  obtain ⟨hwhole, -, -⟩ := h
  obtain ⟨c, rest, rfl, hc⟩ := hwhole.exists_cons
  exact ⟨c, _, rfl, hc⟩

/-- What goes on with digits only is a whole number. -/
theorem Unsigned.whole (h : Unsigned cs) (hdigits : ∀ c ∈ cs, c.isDigit = true) : Whole cs := by
  obtain ⟨hwhole, hfraction, hexponent⟩ := h
  cases hfraction with
  | digits => exact absurd (hdigits '.' (by simp)) (by decide)
  | none =>
    cases hexponent with
    | @digits mark sign cs hmark =>
      have hmark' : ¬mark.isDigit = true := by rcases hmark with rfl | rfl <;> decide
      exact absurd (hdigits mark (by simp)) hmark'
    | none => simpa using hwhole

theorem Writes.isLiteral (h : Writes literal z) : Literal literal := by
  have hunsigned {cs : List Char} (h : Whole cs) : Unsigned cs := by
    simpa using Unsigned.intro h .none .none
  cases h with
  | natural h => exact .unsigned (hunsigned h)
  | negative h _ => exact .signed (hunsigned h)

/-! ## Reading -/

theorem read?_of_whole (h : Whole cs) : Decimal.read? cs = some (Decimal.value 0 cs) := by
  obtain ⟨c, rest, rfl, -⟩ := h.exists_cons
  rw [Decimal.read?, if_pos ⟨List.cons_ne_nil c rest, List.all_eq_true.2 h.isDigit⟩]

theorem whole_of_read? (h : Unsigned cs) (hread : Decimal.read? cs = some n) :
    Whole cs ∧ Decimal.value 0 cs = n := by
  rw [Decimal.read?] at hread
  split at hread
  next hdigits => exact ⟨h.whole (List.all_eq_true.1 hdigits.2), Option.some.inj hread⟩
  next => cases hread

/-- A literal without a sign is read by its digits. -/
theorem integer?_of_head {c : Char} {rest : List Char} (hc : c ≠ '-') :
    integer? (c :: rest) =
      (Decimal.read? (c :: rest)).bind fun n =>
        if n < UInt64.size then some (n : Int) else none := by
  rw [integer?]
  · rfl
  · exact fun _ heq => hc (List.cons.inj heq).1

theorem ne_minus_of_isDigit {c : Char} (hc : c.isDigit = true) : c ≠ '-' := by
  rintro rfl
  exact absurd hc (by decide)

/-- **An integer of sixty-four bits is read as such.** -/
theorem integer?_of_writes (h : Writes literal z) (hleast : Int64.minValue.toInt ≤ z)
    (hgreatest : z < UInt64.size) : integer? literal = some z := by
  cases h with
  | natural h =>
    have hread := read?_of_whole h
    obtain ⟨c, rest, rfl, hc⟩ := h.exists_cons
    rw [integer?_of_head (ne_minus_of_isDigit hc), hread, Option.bind_some,
      if_pos (Int.ofNat_lt.1 hgreatest)]
  | negative h hzero =>
    rw [integer?, read?_of_whole h, Option.bind_eq_bind, Option.bind_some]
    exact if_pos ⟨hzero, hleast⟩

/-- **Nothing else is read as an integer.** -/
theorem writes_of_integer? (hliteral : Literal literal) (h : integer? literal = some z) :
    Writes literal z := by
  cases hliteral with
  | unsigned hliteral =>
    obtain ⟨c, rest, rfl, hc⟩ := hliteral.exists_cons
    rw [integer?_of_head (ne_minus_of_isDigit hc)] at h
    obtain ⟨n, hread, h⟩ := Option.bind_eq_some_iff.1 h
    obtain ⟨hwhole, rfl⟩ := whole_of_read? hliteral hread
    split at h
    next =>
      obtain rfl := Option.some.inj h
      exact .natural hwhole
    next => cases h
  | signed hliteral =>
    rw [integer?] at h
    obtain ⟨n, hread, h⟩ := Option.bind_eq_some_iff.1 h
    obtain ⟨hwhole, rfl⟩ := whole_of_read? hliteral hread
    split at h
    next hvalue =>
      obtain rfl := Option.some.inj h
      exact .negative hwhole hvalue.1
    next => cases h

/-! ## Writing -/

theorem ofInt_natCast (n : Nat) : ofInt n = Nat.toDigits 10 n := Nat.toList_repr

theorem ofInt_negSucc (n : Nat) : ofInt (.negSucc n) = '-' :: Nat.toDigits 10 (n + 1) := by
  have htext : toString (Int.negSucc n) = "-" ++ (n + 1).repr := rfl
  rw [ofInt, htext, String.toList_append, Nat.toList_repr]
  rfl

theorem whole_toDigits (n : Nat) : Whole (Nat.toDigits 10 n) := by
  by_cases hn : n = 0
  · rw [hn]
    exact .zero
  · obtain ⟨c, cs, heq, hc⟩ := exists_toDigits_of_ne_zero hn
    have hdigits : ∀ d ∈ c :: cs, d.isDigit = true := fun d hd => isDigit_of_mem_toDigits (heq ▸ hd)
    rw [heq]
    exact .digits (hdigits c List.mem_cons_self) hc fun d hd =>
      hdigits d (List.mem_cons_of_mem c hd)

/-- A numeral begins with a digit. -/
theorem exists_toDigits (n : Nat) : ∃ c cs, Nat.toDigits 10 n = c :: cs ∧ c.isDigit = true :=
  (whole_toDigits n).exists_cons

theorem read?_toDigits (n : Nat) : Decimal.read? (Nat.toDigits 10 n) = some n := by
  rw [read?_of_whole (whole_toDigits n), value_toDigits]

/-- The literal of an integer writes it. -/
theorem writes_ofInt (z : Int) : Writes (ofInt z) z := by
  cases z with
  | ofNat n =>
    have h := Writes.natural (whole_toDigits n)
    rwa [value_toDigits, ← ofInt_natCast] at h
  | negSucc n =>
    have h := Writes.negative (whole_toDigits (n + 1)) (by rw [value_toDigits]; omega)
    rwa [value_toDigits, ← ofInt_negSucc] at h

/-! ## Double precision -/

theorem le_value (acc : Nat) (cs : List Char) : acc ≤ Decimal.value acc cs := by
  induction cs generalizing acc with
  | nil => exact Nat.le_refl acc
  | cons c cs ih =>
    refine Nat.le_trans ?_ (ih (10 * acc + Decimal.digitValue c))
    omega

/-- A significand takes all digits of a number that fits. -/
theorem extend_of_value_lt {acc : Nat} {cs : List Char} (h : Decimal.value acc cs < UInt64.size) :
    extend acc cs = (Decimal.value acc cs, []) := by
  induction cs generalizing acc with
  | nil => rfl
  | cons c cs ih =>
    have hnext : 10 * acc + Decimal.digitValue c < UInt64.size :=
      Nat.lt_of_le_of_lt (le_value _ cs) h
    rw [extend]
    simp only [if_pos hnext]
    exact ih h

theorem isSome_magnitude?_of_whole (h : Whole cs) (hvalue : Decimal.value 0 cs < UInt64.size) :
    (magnitude? cs).isSome = true := by
  have hspan : spanDigits cs = (cs, []) := by
    rw [spanDigits, List.takeWhile_eq_self_iff.2 h.isDigit, List.dropWhile_eq_nil_iff.2 h.isDigit]
  simp only [magnitude?, hspan, extend_of_value_lt hvalue]
  generalize Decimal.value 0 cs = n at hvalue
  show (scaled? n 0).isSome = true
  rw [scaled?]
  by_cases hzero : n = 0
  · simp [hzero]
  · have hfinite := Double.isFinite_mul_one (Nat.pos_of_ne_zero hzero) hvalue
    simp [hzero, power, Decimal.power, hfinite]

/-- An integer of sixty-four bits fits double precision. -/
theorem isSome_real?_of_writes (h : Writes literal z) (hleast : Int64.minValue.toInt ≤ z)
    (hgreatest : z < UInt64.size) : (real? literal).isSome = true := by
  cases h with
  | natural h =>
    have hreal := isSome_magnitude?_of_whole h (Int.ofNat_lt.1 hgreatest)
    obtain ⟨c, rest, rfl, hc⟩ := h.exists_cons
    rw [real?]
    · exact hreal
    · exact fun _ heq => ne_minus_of_isDigit hc (List.cons.inj heq).1
  | @negative cs h =>
    have hsmall : Decimal.value 0 cs < UInt64.size := by
      have hleast : -(2 ^ 63 : Int) ≤ -(Decimal.value 0 cs : Int) := hleast
      show Decimal.value 0 cs < 2 ^ 64
      omega
    rw [real?, Option.isSome_map]
    exact isSome_magnitude?_of_whole h hsmall

end Numeral

end ChatRelay.Json
