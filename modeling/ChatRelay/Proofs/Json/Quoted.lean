import ChatRelay.Json.Quoted
import ChatRelay.Proofs.Text.Hex
import Mathlib.Tactic.SplitIfs

/-!
# Quoted texts

The grammar of what stands between quotes: a literal (`Literal`) is a sequence of pieces, each
written as itself, with a letter after a backslash, or with four digits (`Form`), and it spells a
text (`Spells`) if the halves of pairs among its pieces meet (`Joined`). A literal is read as the
text that it spells and as no other (`unescape_eq_some_iff`). What `escape` writes of a text is one
of its spellings, so it stands for that text (`unescape_escape`), whatever characters are in it.
-/

namespace ChatRelay.Json

namespace Quoted

/-! ## The grammar -/

/-- The letters that stand for a character after a backslash. -/
def letters : List (Char × Char) :=
  [('"', '"'), ('\\', '\\'), ('/', '/'), ('b', '\x08'), ('f', '\x0c'), ('n', '\n'), ('r', '\r'),
    ('t', '\t')]

/-- How a piece of a text can be written. -/
inductive Form : List Char → Piece → Prop
  /-- A character as itself. -/
  | plain {c : Char} (hquote : c ≠ '"') (hbackslash : c ≠ '\\') (hcontrol : ¬c < ' ') :
      Form [c] (.char c)
  /-- A character with a letter after a backslash. -/
  | short {letter c : Char} (hletter : (letter, c) ∈ letters) : Form ['\\', letter] (.char c)
  /-- Sixteen bits with four digits. -/
  | code {a b d e : Char} {n : Nat} (hvalue : Hex.value 0 [a, b, d, e] = some n) :
      Form ['\\', 'u', a, b, d, e] (.unit n)

/-- What may stand between quotes, and its pieces. -/
inductive Literal : List Char → List Piece → Prop
  | nil : Literal [] []
  | cons {form literal : List Char} {piece : Piece} {ps : List Piece} (hform : Form form piece)
      (h : Literal literal ps) : Literal (form ++ literal) (piece :: ps)

/-- The text that pieces make up: a unit that is no half of a pair is a character, and two halves
are one together. -/
inductive Joined : List Piece → List Char → Prop
  | nil : Joined [] []
  | char {ps : List Piece} {cs : List Char} (c : Char) (h : Joined ps cs) :
      Joined (.char c :: ps) (c :: cs)
  | unit {ps : List Piece} {cs : List Char} {n : Nat} (hn : ¬(0xD800 ≤ n ∧ n ≤ 0xDFFF))
      (h : Joined ps cs) : Joined (.unit n :: ps) (Char.ofNat n :: cs)
  | pair {ps : List Piece} {cs : List Char} {high low : Nat} (hhigh : 0xD800 ≤ high ∧ high ≤ 0xDBFF)
      (hlow : 0xDC00 ≤ low ∧ low ≤ 0xDFFF) (h : Joined ps cs) :
      Joined (.unit high :: .unit low :: ps)
        (Char.ofNat (0x10000 + (high - 0xD800) * 0x400 + (low - 0xDC00)) :: cs)

/-- Whether a literal spells a text. -/
def Spells (literal : List Char) (text : String) : Prop :=
  ∃ ps, Literal literal ps ∧ Joined ps text.toList

variable {literal form cs : List Char} {piece : Piece} {ps : List Piece} {text : String}

/-! ## Reading -/

/-- A piece is read off its form, whatever follows. -/
theorem pieces_form (h : Form form piece) (rest : List Char) :
    pieces (form ++ rest) = (pieces rest).map (piece :: ·) := by
  cases h with
  | plain hquote hbackslash hcontrol => simp [pieces, hquote, hbackslash, hcontrol]
  | @short letter c hletter =>
    have hall : ∀ p ∈ letters, p.1 ≠ 'u' ∧ shortUnescape? p.1 = some p.2 := by decide
    obtain ⟨hu, hmeaning⟩ := hall _ hletter
    rw [List.cons_append, List.cons_append, List.nil_append, pieces, hmeaning]
    · cases pieces rest <;> rfl
    · exact fun _ _ _ _ _ heq _ => hu heq
  | code hvalue =>
    simp only [List.cons_append, List.nil_append, pieces, hvalue]
    cases pieces rest <;> rfl

theorem pieces_of_literal (h : Literal literal ps) : pieces literal = some ps := by
  induction h with
  | nil => rfl
  | cons hform _ ih => rw [pieces_form hform, ih, Option.map_some]

theorem isSurrogate_iff {n : Nat} :
    (isHighSurrogate n || isLowSurrogate n) = true ↔ 0xD800 ≤ n ∧ n ≤ 0xDFFF := by
  simp only [isHighSurrogate, isLowSurrogate, Bool.or_eq_true, Bool.and_eq_true, decide_eq_true_eq]
  omega

/-- A unit that is no half of a pair is a character, whatever follows. -/
theorem joinPieces_unit {n : Nat} (hn : ¬(0xD800 ≤ n ∧ n ≤ 0xDFFF)) (ps : List Piece) :
    joinPieces (.unit n :: ps) = (Char.ofNat n :: ·) <$> joinPieces ps := by
  rw [← isSurrogate_iff, Bool.or_eq_true, not_or] at hn
  cases ps with
  | nil => simp [joinPieces, hn]
  | cons next ps => cases next <;> simp [joinPieces, hn]

theorem joinPieces_of_joined (h : Joined ps cs) : joinPieces ps = some cs := by
  induction h with
  | nil => rfl
  | char c _ ih =>
    rw [joinPieces, ih]
    rfl
  | unit hn _ ih =>
    rw [joinPieces_unit hn, ih]
    rfl
  | pair hhigh hlow _ ih =>
    rw [joinPieces, if_pos (by simpa [isHighSurrogate] using hhigh),
      if_pos (by simpa [isLowSurrogate] using hlow), ih]
    rfl

theorem joined_of_joinPieces (h : joinPieces ps = some cs) : Joined ps cs := by
  fun_induction joinPieces ps generalizing cs with
  | case1 =>
    obtain rfl := Option.some.inj h
    exact .nil
  | case2 c rest ih =>
    obtain ⟨cs, hrest, rfl⟩ := Option.map_eq_some_iff.1 h
    exact .char c (ih hrest)
  | case3 high low rest hhigh hlow ih =>
    obtain ⟨cs, hrest, rfl⟩ := Option.map_eq_some_iff.1 h
    exact .pair (by simpa [isHighSurrogate] using hhigh) (by simpa [isLowSurrogate] using hlow)
      (ih hrest)
  | case4 => cases h
  | case5 => cases h
  | case6 n low rest hhigh hlow ih =>
    obtain ⟨cs, hrest, rfl⟩ := Option.map_eq_some_iff.1 h
    refine .unit (fun hn => ?_) (ih hrest)
    rw [← isSurrogate_iff, Bool.or_eq_true] at hn
    exact hn.elim hhigh hlow
  | case7 => cases h
  | case8 n rest _ hn ih =>
    obtain ⟨cs, hrest, rfl⟩ := Option.map_eq_some_iff.1 h
    exact .unit (fun hhalf => hn (isSurrogate_iff.2 hhalf)) (ih hrest)

/-- A literal is read as what its pieces make up. -/
theorem unescape_eq_some_iff (h : Literal literal ps) :
    unescape literal = some cs ↔ Joined ps cs := by
  rw [unescape, pieces_of_literal h, Option.bind_some]
  exact ⟨joined_of_joinPieces, joinPieces_of_joined⟩

/-- **A literal is read as the text that it spells.** -/
theorem Spells.unescape (h : Spells literal text) : unescape literal = some text.toList := by
  obtain ⟨ps, hliteral, hjoined⟩ := h
  exact (unescape_eq_some_iff hliteral).2 hjoined

theorem spells_of_unescape (h : Literal literal ps) (hread : unescape literal = some cs) :
    Spells literal (String.ofList cs) :=
  ⟨ps, h, by rwa [String.toList_ofList, ← unescape_eq_some_iff h]⟩

/-! ## Writing -/

/-- A character is written in a form that adds it to a text. -/
theorem exists_form_escapeChar (c : Char) :
    ∃ piece, Form (escapeChar c) piece ∧
      ∀ {ps cs}, Joined ps cs → Joined (piece :: ps) (c :: cs) := by
  rw [escapeChar]
  cases hshort : shortEscape? c with
  | some letter =>
    rw [shortEscape?] at hshort
    split_ifs at hshort with hc hc hc hc hc hc hc
    all_goals
      subst hc
      obtain rfl := Option.some.inj hshort
      exact ⟨_, .short (by decide), .char _⟩
  | none =>
    have hne (d : Char) (hd : (shortEscape? d).isSome) : c ≠ d := by
      rintro rfl
      rw [hshort] at hd
      exact nomatch hd
    show ∃ piece, Form (if c < ' ' then _ else _) piece ∧ _
    split
    next hcontrol =>
      have hsmall : c.toNat < 32 := hcontrol
      have hvalue := Hex.value_digits 0 4 c.toNat
      rw [Nat.mul_zero, Nat.zero_add, Nat.mod_eq_of_lt (by omega)] at hvalue
      refine ⟨_, .code hvalue, fun {ps cs} h => ?_⟩
      have hunit := Joined.unit (n := c.toNat) (by omega) h
      rwa [Char.ofNat_toNat] at hunit
    next hcontrol => exact ⟨_, .plain (hne '"' rfl) (hne '\\' rfl) hcontrol, .char c⟩

theorem spells_escape (text : String) : Spells (escape text.toList) text := by
  rw [Spells]
  induction text.toList with
  | nil => exact ⟨[], .nil, .nil⟩
  | cons c cs ih =>
    obtain ⟨ps, hliteral, hjoined⟩ := ih
    obtain ⟨piece, hform, hadd⟩ := exists_form_escapeChar c
    exact ⟨piece :: ps, hliteral.cons hform, hadd hjoined⟩

/-- **What is written of a text stands for it.** -/
theorem unescape_escape (cs : List Char) : unescape (escape cs) = some cs := by
  have h := (spells_escape (String.ofList cs)).unescape
  rwa [String.toList_ofList] at h

end Quoted

end ChatRelay.Json
