import CsrMap.Text.UpperTable

/-!
Upper case of a text, by the full mapping of the Unicode standard: a character may become several.
-/

namespace CsrMap.Text

def upperChar (c : Char) : List Char :=
  if c.toNat < 0x80 then [c.toUpper]
  else
    match upperRows.lookup c.toNat with
    | some row => row.map Char.ofNat
    | none =>
      match upperRanges.find? fun (first, last, stride, _) =>
          first ≤ c.toNat && c.toNat ≤ last && (c.toNat - first) % stride == 0 with
      | some (_, _, _, distance) => [Char.ofNat (Int.toNat (c.toNat + distance))]
      | none => [c]

def upper (s : String) : String := String.ofList (s.toList.flatMap upperChar)

end CsrMap.Text
