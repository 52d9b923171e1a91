import CsrMap.Text.Numeral

/-!
JSON values without fractions, and their indented text.
-/

namespace CsrMap.Export

open Numeral

inductive Json where
  | null
  | nat (value : Nat)
  | str (value : String)
  /-- Members in the order in which they are written. -/
  | obj (members : List (String × Json))
  deriving Repr

namespace Json

/-- Control characters and the two that would end or bend the text are escaped; all else stands
for itself. -/
def escapedChar (c : Char) : String :=
  match c with
  | '"' => "\\\""
  | '\\' => "\\\\"
  | '\x08' => "\\b"
  | '\x0c' => "\\f"
  | '\n' => "\\n"
  | '\r' => "\\r"
  | '\t' => "\\t"
  | c => if c < ' ' then "\\u" ++ padLeft 4 '0' (hex c.toNat) else c.toString

def string (s : String) : String := "\"" ++ String.join (s.toList.map escapedChar) ++ "\""

/-- Two spaces for each level. -/
def indent (depth : Nat) : String := "".pushn ' ' (2 * depth)

mutual

/-- The text of a value whose members stand at `depth` levels and deeper. -/
def pretty (depth : Nat) : Json → String
  | null => "null"
  | nat value => decimal value
  | str value => string value
  | obj [] => "\x7b\x7d"
  | obj (m :: ms) =>
    "\x7b\n" ++ ",\n".intercalate (prettyMembers depth (m :: ms)) ++ "\n" ++ indent depth ++ "\x7d"

def prettyMembers (depth : Nat) : List (String × Json) → List String
  | [] => []
  | (key, value) :: ms =>
    (indent (depth + 1) ++ string key ++ ": " ++ pretty (depth + 1) value) :: prettyMembers depth ms

end

end Json

end CsrMap.Export
