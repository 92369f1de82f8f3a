import ChatRelay.Text.Hex
import ChatRelay.Text.Utf8

/-!
# Forms

The fields of a form as they are written into the query of an address: `name=value` parts with `&`
between them. In a name or a value `+` is a blank, `%` with two hexadecimal digits is an octet, and
any other character is its UTF-8 octets, a `%` without digits included.
-/

namespace ChatRelay.Http

/-- The parts of a text between the characters that are the separator. -/
def parts (separator : Char) : List Char → List (List Char)
  | [] => [[]]
  | c :: rest =>
    if c = separator then [] :: parts separator rest
    else
      match parts separator rest with
      | part :: others => (c :: part) :: others
      | [] => [[c]]

/-- The text before the first character that is the separator, and the text after it. -/
def divide (separator : Char) (text : List Char) : List Char × List Char :=
  (text.takeWhile (· ≠ separator), (text.dropWhile (· ≠ separator)).drop 1)

/-- The fields of a form, in their order. -/
abbrev Form := List (String × String)

namespace Form

/-- The octet that two hexadecimal digits stand for. -/
def octet? (high low : Char) : Option UInt8 :=
  match Hex.value? high, Hex.value? low with
  | some high, some low => some (16 * high + low).toUInt8
  | _, _ => none

/-- The octets that a name or a value stands for. -/
def octets : List Char → List UInt8
  | [] => []
  | '%' :: high :: low :: rest =>
    match octet? high low with
    | some octet => octet :: octets rest
    | none => '%'.toUInt8 :: octets (high :: low :: rest)
  | '+' :: rest => ' '.toUInt8 :: octets rest
  | c :: rest => String.utf8EncodeChar c ++ octets rest

/-- The text that a name or a value stands for. Octets that are not UTF-8 become U+FFFD. -/
def read (part : List Char) : String := Utf8.lenient (octets part)

/-- The field that a part of a form stands for. -/
def field (part : List Char) : String × String :=
  let (name, value) := divide '=' part
  (read name, read value)

/-- The form that is written as a text. Empty parts are no fields. -/
def ofText (text : List Char) : Form :=
  ((parts '&' text).filter (· ≠ [])).map field

/-- The value of the field with a name, if there is exactly one such field. -/
def only? (form : Form) (name : String) : Option String :=
  match form.filter fun field => field.1 = name with
  | [(_, value)] => some value
  | _ => none

end Form

end ChatRelay.Http
