/-!
White space of the Unicode standard, trimming, and the lines of a text.
-/

namespace CsrMap.Text

/-- The code points with the property White_Space. -/
def isBlank (c : Char) : Bool :=
  ('\x09' ≤ c ∧ c ≤ '\x0d') ∨ c = ' ' ∨ c = '\u0085' ∨ c = '\u00a0' ∨ c = '\u1680'
    ∨ ('\u2000' ≤ c ∧ c ≤ '\u200a') ∨ c = '\u2028' ∨ c = '\u2029' ∨ c = '\u202f'
    ∨ c = '\u205f' ∨ c = '\u3000'

def dropBlanksEnd (cs : List Char) : List Char :=
  (cs.reverse.dropWhile isBlank).reverse

def dropBlanks (cs : List Char) : List Char :=
  dropBlanksEnd (cs.dropWhile isBlank)

def trimEnd (s : String) : String := String.ofList (dropBlanksEnd s.toList)

/--
The lines of a text: cut at each line feed, without the one carriage return that may stand
before it. A text that ends with a line feed has no empty line after it.
-/
def linesOf : List Char → List (List Char)
  | [] => []
  | '\n' :: rest => [] :: linesOf rest
  | '\r' :: '\n' :: rest => [] :: linesOf rest
  | c :: rest =>
    match linesOf rest with
    | [] => [[c]]
    | line :: lines => (c :: line) :: lines

def lines (s : String) : List String := (linesOf s.toList).map String.ofList

/-- The text whose lines are the given ones, each ended by a line feed. -/
def unlines (ls : List String) : String := String.join (ls.map (· ++ "\n"))

@[simp] theorem unlines_nil : unlines [] = "" := rfl

@[simp] theorem unlines_cons (l : String) (ls : List String) :
    unlines (l :: ls) = l ++ "\n" ++ unlines ls := by
  simp [unlines]

end CsrMap.Text
