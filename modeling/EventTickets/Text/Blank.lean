/-!
# Blanks and letter case

A blank is a code point with the Unicode property White_Space: 25 of them, so a byte order mark or a
zero-width space is not one. Letter case here is that of ASCII alone; other letters are left as they
are. Names of kinds, promo codes and statuses are compared after `normalizeToken`.
-/

namespace EventTickets.Text

def isBlank (c : Char) : Bool :=
  (0x09 ≤ c.val && c.val ≤ 0x0D) || c.val == 0x20 || c.val == 0x85 || c.val == 0xA0 ||
  c.val == 0x1680 || (0x2000 ≤ c.val && c.val ≤ 0x200A) || c.val == 0x2028 || c.val == 0x2029 ||
  c.val == 0x202F || c.val == 0x205F || c.val == 0x3000

def dropBlanks (cs : List Char) : List Char := cs.dropWhile isBlank

def trimChars (cs : List Char) : List Char := (dropBlanks (dropBlanks cs).reverse).reverse

def trim (s : String) : String := String.ofList (trimChars s.toList)

def upper (s : String) : String := String.ofList (s.toList.map Char.toUpper)

def lower (s : String) : String := String.ofList (s.toList.map Char.toLower)

/-- The spelling under which names are compared: no blanks around, ASCII letters in upper case. -/
def normalizeToken (raw : String) : String := upper (trim raw)

def sameIgnoringCase (a b : String) : Bool := lower a == lower b

def squeezeBlanks : List Char → List Char
  | [] => []
  | [c] => if isBlank c then [' '] else [c]
  | c :: d :: cs =>
    if isBlank c then if isBlank d then squeezeBlanks (d :: cs) else ' ' :: squeezeBlanks (d :: cs)
    else c :: squeezeBlanks (d :: cs)

def oneLine (s : String) : String := String.ofList (squeezeBlanks (trimChars s.toList))

def nonBlank? (s : String) : Option String :=
  let t := trim s
  if t.isEmpty then none else some t

end EventTickets.Text
