/-!
# Blank characters

The characters of the Unicode property White_Space, and the two ways in which the library drops them:
everywhere (`compact`, for selectors and parameter types) and at both ends (`trim`, for words and paths).
-/

set_option autoImplicit false

namespace AspectWeaver.Text

/-- A character is blank when it has the Unicode property White_Space. -/
def isBlank (c : Char) : Bool :=
  let n := c.toNat
  (9 ≤ n && n ≤ 13) || n == 0x20 || n == 0x85 || n == 0xA0 || n == 0x1680 ||
    (0x2000 ≤ n && n ≤ 0x200A) || n == 0x2028 || n == 0x2029 || n == 0x202F || n == 0x205F ||
    n == 0x3000

/-- The characters that are not blank, in order. -/
def compactChars (cs : List Char) : List Char := cs.filter fun c => !isBlank c

/-- A text without its blank characters. -/
def compact (s : String) : String := String.ofList (compactChars s.toList)

/-- A text without the blank characters at its two ends. -/
def trim (s : String) : String :=
  String.ofList (((s.toList.dropWhile isBlank).reverse.dropWhile isBlank).reverse)

/-- Dropping the blank characters twice is dropping them once. -/
@[simp] theorem compactChars_compactChars (cs : List Char) :
    compactChars (compactChars cs) = compactChars cs := by
  simp [compactChars]

end AspectWeaver.Text
