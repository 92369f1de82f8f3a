/-!
# Scans

Readers that take a part of a text from its front. A scan gives what it has read and leaves the
rest, or fails and leaves all; the second of two alternatives is tried where the first one fails.
-/

namespace ChatRelay

/-- A reader of the front of a text. -/
abbrev Scan := StateT (List Char) Option

namespace Scan

variable {α : Type}

/-- One character with a property. -/
def satisfy (p : Char → Bool) : Scan Char := fun cs =>
  match cs with
  | c :: rest => if p c then some (c, rest) else none
  | [] => none

/-- One given character. -/
def char (c : Char) : Scan Unit := do discard (satisfy (· = c))

/-- The given characters. -/
def word (text : String) : Scan Unit := text.toList.forM char

/-- All characters up to the first without a property. -/
def takeWhile (p : Char → Bool) : Scan (List Char) := fun cs =>
  some (cs.takeWhile p, cs.dropWhile p)

/-- What a scan reads, if it does not fail. -/
def attempt (scan : Scan α) : Scan (Option α) := some <$> scan <|> pure none

/-- What a scan reads, without taking it. -/
def ahead (scan : Scan α) : Scan α := fun cs => (scan cs).map fun (a, _) => (a, cs)

/-- The end of the text. -/
def atEnd : Scan Unit := fun cs => if cs = [] then some ((), cs) else none

/-- A scan as often as it succeeds, but at most `bound` times. -/
def manyUpTo (scan : Scan α) : (bound : Nat) → Scan (List α)
  | 0 => pure []
  | bound + 1 => (do return (← scan) :: (← manyUpTo scan bound)) <|> pure []

/-- A scan as often as it succeeds. Each time has to take something, so there are at most as many
as there are characters. -/
def many (scan : Scan α) : Scan (List α) := fun cs => manyUpTo scan cs.length cs

/-- Scans with a separator between them, at least one. -/
def separated (scan : Scan α) (separator : Scan Unit) : Scan (List α) := do
  return (← scan) :: (← many (separator *> scan))

/-- Exactly `count` times a scan. -/
def times (count : Nat) (scan : Scan α) : Scan (List α) :=
  (List.replicate count scan).mapM id

/-- What a scan makes of a whole text. -/
def whole (scan : Scan α) (text : String) : Option α :=
  ((scan <* atEnd) text.toList).map (·.1)

end Scan

end ChatRelay
