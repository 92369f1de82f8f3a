import ChatRelay.Json
import ChatRelay.Json.Token
import ChatRelay.Proofs.Json.Numeral
import ChatRelay.Proofs.Json.Quoted

/-!
# What is scanned

White space before a token is skipped (`scanFrom_blank`), a literal between quotes is one token
(`scanFrom_quoted`), and so is a number where something follows that cannot belong to it
(`scanFrom_number`).
-/

namespace ChatRelay.Json.Token

variable {c : Char} {cs form literal before rest : List Char}

theorem scanFrom_cons (state : State) (c : Char) (rest : List Char) :
    scanFrom state (c :: rest) = (step state c).1 ++ scanFrom (step state c).2 rest := rfl

/-- White space, or nothing at all. -/
def Blank (cs : List Char) : Prop := ∀ c ∈ cs, isSpace c = true

theorem blank_nil : Blank [] := List.forall_mem_nil _

theorem scanFrom_blank (hcs : Blank cs) (rest : List Char) :
    scanFrom .start (cs ++ rest) = scanFrom .start rest := by
  induction cs with
  | nil => rfl
  | cons c cs ih =>
    obtain ⟨hc, hcs⟩ := List.forall_mem_cons.1 hcs
    have hstep : step .start c = ([], .start) := if_pos hc
    rw [List.cons_append, scanFrom_cons, hstep, List.nil_append, ih hcs]

/-! ## Strings -/

section Strings

open Quoted

variable {piece : Piece} {ps : List Piece}

/-- The digits of a numeric escape are taken one after the other. -/
theorem scanFrom_digits {digits : List Char} (hdigits : ∀ d ∈ digits, Hex.isDigit d = true)
    (hne : digits ≠ []) :
    scanFrom (.string (.digits digits.length) before) (digits ++ rest) =
      scanFrom (.string .plain (digits.reverse ++ before)) rest := by
  induction digits generalizing before with
  | nil => exact absurd rfl hne
  | cons d digits ih =>
    have hd := hdigits d List.mem_cons_self
    rw [List.cons_append, scanFrom_cons]
    simp only [step, stringStep, hd, if_true, List.nil_append]
    cases digits with
    | nil => rfl
    | cons e digits =>
      have howed : ¬(d :: e :: digits).length ≤ 1 := by simp
      rw [if_neg howed, List.reverse_cons, List.append_assoc]
      exact ih (fun d' hd' => hdigits d' (List.mem_cons_of_mem d hd')) (List.cons_ne_nil e digits)

/-- A piece is taken as it stands, whatever follows. -/
theorem scanFrom_form (h : Form form piece) :
    scanFrom (.string .plain before) (form ++ rest) =
      scanFrom (.string .plain (form.reverse ++ before)) rest := by
  cases h with
  | plain hquote hbackslash hcontrol =>
    rw [List.singleton_append, scanFrom_cons]
    simp only [step, stringStep, if_neg hquote, if_neg hcontrol, if_neg hbackslash]
    rfl
  | @short letter c hletter =>
    have hall : ∀ p ∈ letters, p.1 ≠ 'u' ∧ p.1 ∈ ['"', '\\', '/', 'b', 'f', 'n', 'r', 't'] := by
      decide
    obtain ⟨hu, hmem⟩ := hall _ hletter
    have hbackslash : step (.string .plain before) '\\' =
        ([], .string .escape ('\\' :: before)) := rfl
    have hstep : step (.string .escape ('\\' :: before)) letter =
        ([], .string .plain (letter :: '\\' :: before)) := by
      simp only [step, stringStep, if_neg hu, if_pos hmem]
    rw [List.cons_append, List.singleton_append, scanFrom_cons, hbackslash, scanFrom_cons, hstep]
    rfl
  | @code a b d e n hvalue =>
    have hdigits : scanFrom (.string (.digits 4) ('u' :: '\\' :: before)) ([a, b, d, e] ++ rest) =
        _ := scanFrom_digits (Hex.isDigit_of_value hvalue) (by simp)
    rw [List.cons_append, List.cons_append, scanFrom_cons, scanFrom_cons]
    exact hdigits

theorem scanFrom_literal (h : Literal literal ps) :
    scanFrom (.string .plain before) (literal ++ rest) =
      scanFrom (.string .plain (literal.reverse ++ before)) rest := by
  induction h generalizing before with
  | nil => rfl
  | cons hform _ ih =>
    rw [List.append_assoc, scanFrom_form hform, ih, List.reverse_append, List.append_assoc]

/-- **A literal between quotes is one token.** -/
theorem scanFrom_quoted (h : Literal literal ps) (rest : List Char) :
    scanFrom .start (quoted literal ++ rest) = .string literal :: scanFrom .start rest := by
  have hopen : step .start '"' = ([], .string .plain []) := rfl
  have hclose : step (.string .plain literal.reverse) '"' = ([.string literal], .start) := by
    simp [step, stringStep]
  rw [quoted, List.append_assoc, List.cons_append, scanFrom_cons, hopen, List.nil_append,
    scanFrom_literal h, List.append_nil, List.singleton_append, scanFrom_cons, hclose]
  rfl

end Strings

/-! ## Numbers -/

section Numbers

open Numeral

/-- Where a value can end: where the text does, or before white space or a mark that follows
values. -/
def Ends (rest : List Char) : Prop :=
  ∀ c ∈ rest.head?, isSpace c = true ∨ c = ',' ∨ c = ']' ∨ c = '}'

theorem Ends.blank (hrest : Ends rest) (hcs : Blank cs) : Ends (cs ++ rest) := by
  cases cs with
  | nil => exact hrest
  | cons c cs =>
    intro d hd
    obtain rfl := Option.some.inj hd
    exact .inl (hcs c List.mem_cons_self)

namespace NumeralPart

/-- What a numeral ends with after more characters, if it can take them. -/
def after? (part : NumeralPart) (cs : List Char) : Option NumeralPart := cs.foldlM next? part

variable {part : NumeralPart}

theorem after?_append (cs cs' : List Char) :
    part.after? (cs ++ cs') = (part.after? cs).bind (·.after? cs') := List.foldlM_append

theorem after?_digits (hpart : part = whole ∨ part = fraction ∨ part = exponent)
    (hcs : ∀ c ∈ cs, c.isDigit = true) : part.after? cs = some part := by
  induction cs with
  | nil => rfl
  | cons c cs ih =>
    obtain ⟨hc, hcs⟩ := List.forall_mem_cons.1 hcs
    have hnext : part.next? c = some part := by
      rcases hpart with rfl | rfl | rfl <;> simp [next?, hc]
    rw [after?, List.foldlM_cons, hnext]
    exact ih hcs

/-- Digits where a part of the numeral begins with them. -/
theorem after?_of_digits {part' : NumeralPart} (h : Digits cs)
    (hpart' : part' = whole ∨ part' = fraction ∨ part' = exponent)
    (hnext : ∀ c, c.isDigit = true → part.next? c = some part') :
    part.after? cs = some part' := by
  obtain ⟨hne, hcs⟩ := h
  obtain ⟨c, cs, rfl⟩ := List.exists_cons_of_ne_nil hne
  obtain ⟨hc, hcs⟩ := List.forall_mem_cons.1 hcs
  rw [after?, List.foldlM_cons, hnext c hc]
  exact after?_digits hpart' hcs

theorem after?_whole (h : Whole cs) :
    ∃ part, minus.after? cs = some part ∧ (part = zero ∨ part = whole) := by
  cases h with
  | zero => exact ⟨zero, rfl, .inl rfl⟩
  | digits hc hzero hcs =>
    refine ⟨whole, ?_, .inr rfl⟩
    rw [after?, List.foldlM_cons, next?, if_neg hzero, if_pos hc]
    exact after?_digits (.inl rfl) hcs

theorem after?_fraction (h : Fraction cs) (hpart : part = zero ∨ part = whole) :
    ∃ part', part.after? cs = some part' ∧ (part' = zero ∨ part' = whole ∨ part' = fraction) := by
  cases h with
  | none => exact ⟨part, rfl, hpart.imp_right .inl⟩
  | digits h =>
    have hpoint : part.next? '.' = some point := by rcases hpart with rfl | rfl <;> rfl
    refine ⟨fraction, ?_, .inr (.inr rfl)⟩
    rw [after?, List.foldlM_cons, hpoint]
    exact after?_of_digits h (.inr (.inl rfl)) fun c hc => if_pos hc

theorem after?_exponent (h : Exponent cs)
    (hpart : part = zero ∨ part = whole ∨ part = fraction) :
    ∃ part', part.after? cs = some part' ∧ part'.isComplete = true := by
  cases h with
  | none => exact ⟨part, rfl, by rcases hpart with rfl | rfl | rfl <;> rfl⟩
  | @digits mark sign cs hmark hsign h =>
    have hnext : part.next? mark = some exponentMark := by
      rcases hpart with rfl | rfl | rfl <;> rcases hmark with rfl | rfl <;> rfl
    refine ⟨exponent, ?_, rfl⟩
    rw [after?, List.foldlM_cons, hnext]
    show exponentMark.after? (sign ++ cs) = some exponent
    have hafterSign : exponentSign.after? cs = some exponent :=
      after?_of_digits h (.inr (.inr rfl)) fun c hc => if_pos hc
    rcases hsign with rfl | rfl | rfl
    · exact after?_of_digits h (.inr (.inr rfl)) fun c hc => if_pos hc
    · exact hafterSign
    · exact hafterSign

/-- A number without a sign goes on after a minus sign, to where it may end. -/
theorem after?_unsigned (h : Unsigned cs) :
    ∃ part, minus.after? cs = some part ∧ part.isComplete = true := by
  obtain ⟨hwhole, hfraction, hexponent⟩ := h
  obtain ⟨part, hpart, hends⟩ := after?_whole hwhole
  obtain ⟨part', hpart', hends⟩ := after?_fraction hfraction hends
  obtain ⟨last, hlast, hends⟩ := after?_exponent hexponent hends
  exact ⟨last, by rw [after?_append, hpart, Option.bind_some, after?_append, hpart',
    Option.bind_some, hlast], hends⟩

end NumeralPart

variable {part part' : NumeralPart}

theorem scanFrom_after? (h : part.after? cs = some part') :
    scanFrom (.number part before) (cs ++ rest) =
      scanFrom (.number part' (cs.reverse ++ before)) rest := by
  induction cs generalizing part before with
  | nil =>
    obtain rfl := Option.some.inj h
    rfl
  | cons c cs ih =>
    rw [NumeralPart.after?, List.foldlM_cons] at h
    obtain ⟨next, hnext, h⟩ := Option.bind_eq_some_iff.1 h
    have hstep : step (.number part before) c = ([], .number next (c :: before)) := by
      simp only [step, hnext]
    rw [List.cons_append, scanFrom_cons, hstep, List.nil_append, ih h, List.reverse_cons,
      List.append_assoc]
    rfl

/-- A numeral that may end does so where a value can. -/
theorem scanFrom_number_of_ends (hpart : part.isComplete = true) (hrest : Ends rest) :
    scanFrom (.number part before) rest = .number before.reverse :: scanFrom .start rest := by
  cases rest with
  | nil => cases part <;> first | rfl | exact nomatch hpart
  | cons c rest =>
    have hc := hrest c rfl
    simp only [isSpace, Bool.or_eq_true, decide_eq_true_eq] at hc
    have hstep : step (.number part before) c =
        (.number before.reverse :: (first c).1, (first c).2) := by
      rcases hc with (((rfl | rfl) | rfl) | rfl) | rfl | rfl | rfl <;>
        cases part <;> first | rfl | exact nomatch hpart
    rw [scanFrom_cons, hstep]
    rfl

/-- A digit begins a numeral as it goes on with one after a minus sign. -/
theorem first_digit (hc : c.isDigit = true) : first c = step (.number .minus []) c := by
  have hall : ∀ n < 58, 48 ≤ n →
      first (Char.ofNat n) = step (.number .minus []) (Char.ofNat n) := by decide
  obtain ⟨hleast, hgreatest⟩ : 48 ≤ c.toNat ∧ c.toNat ≤ 57 := Char.isDigit_iff_toNat.1 hc
  rw [← Char.ofNat_toNat c]
  exact hall c.toNat (by omega) hleast

/-- **A number is one token** where a value can end. -/
theorem scanFrom_number (h : Numeral.Literal literal) (hrest : Ends rest) :
    scanFrom .start (literal ++ rest) = .number literal :: scanFrom .start rest := by
  cases h with
  | unsigned h =>
    obtain ⟨part, hafter, hcomplete⟩ := NumeralPart.after?_unsigned h
    have hhead : scanFrom .start (literal ++ rest) =
        scanFrom (.number .minus []) (literal ++ rest) := by
      obtain ⟨c, cs, rfl, hc⟩ := h.exists_cons
      rw [List.cons_append, scanFrom_cons, scanFrom_cons, ← first_digit hc]
      rfl
    rw [hhead, scanFrom_after? hafter, scanFrom_number_of_ends hcomplete hrest, List.append_nil,
      List.reverse_reverse]
  | @signed literal h =>
    obtain ⟨part, hafter, hcomplete⟩ := NumeralPart.after?_unsigned h
    have hminus : step .start '-' = ([], .number .minus ['-']) := rfl
    rw [List.cons_append, scanFrom_cons, hminus, List.nil_append, scanFrom_after? hafter,
      scanFrom_number_of_ends hcomplete hrest, List.reverse_append, List.reverse_reverse]
    rfl

end Numbers

end ChatRelay.Json.Token
