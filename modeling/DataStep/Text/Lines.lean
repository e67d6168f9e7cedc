/-!
# Lines

A line feed ends a line, and a carriage return in front of it belongs to the line end. What
follows the last line end is a line only if it is not empty; a carriage return at its end is part
of it.
-/

set_option autoImplicit false

namespace DataStep.Text

/-- The lines of a text. -/
def lines : List Char → List (List Char)
  | [] => []
  | '\n' :: rest => [] :: lines rest
  -- elsewhere a carriage return is a character like any other
  | '\r' :: '\n' :: rest => [] :: lines rest
  | c :: rest =>
    match lines rest with
    | [] => [[c]]
    | l :: ls => (c :: l) :: ls

end DataStep.Text
