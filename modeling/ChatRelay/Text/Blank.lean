/-!
# White space

The Unicode property `White_Space`.
-/

namespace ChatRelay.Blank

/-- The ranges of code points with the property `White_Space`. -/
def ranges : List (Nat × Nat) :=
  [(0x09, 0x0D), (0x20, 0x20), (0x85, 0x85), (0xA0, 0xA0), (0x1680, 0x1680), (0x2000, 0x200A),
   (0x2028, 0x2029), (0x202F, 0x202F), (0x205F, 0x205F), (0x3000, 0x3000)]

/-- Whether a character is white space. -/
def isBlank (c : Char) : Bool :=
  ranges.any fun (first, last) => first ≤ c.toNat && c.toNat ≤ last

/-- Whether a text holds nothing but white space. -/
def isBlankText (text : String) : Bool :=
  text.toList.all isBlank

end ChatRelay.Blank
