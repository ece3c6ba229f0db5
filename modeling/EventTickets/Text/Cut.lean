/-!
# Cutting texts

The parts of a text before and after the first occurrence of a mark.
-/

namespace EventTickets.Text

def cutChars? (mark : List Char) : List Char → Option (List Char × List Char)
  | [] => if mark.isEmpty then some ([], []) else none
  | c :: cs =>
    if mark.isPrefixOf (c :: cs) then some ([], (c :: cs).drop mark.length)
    else (cutChars? mark cs).map fun (before, after) => (c :: before, after)

def cut? (mark text : String) : Option (String × String) :=
  (cutChars? mark.toList text.toList).map fun (before, after) =>
    (String.ofList before, String.ofList after)

end EventTickets.Text
