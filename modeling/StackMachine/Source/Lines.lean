/-!
# Lines

A line ends with a line feed, which is not part of it; neither is one carriage return directly
before that line feed.  The last line may lack its line feed, and then keeps what it has.  A text
that ends with a line feed has no further, empty line behind it.

* `Source.lines` — the lines of a text.
-/

namespace StackMachine.Source

/-- The line without one carriage return at its end. -/
def dropReturn (line : List Char) : List Char :=
  if line.getLast? = some '\r' then line.dropLast else line

theorem length_tail_dropWhile_lt {p : α → Bool} {x : α} {xs rest : List α}
    (h : xs.dropWhile p = x :: rest) : rest.length < xs.length := by
  have shorter := (List.dropWhile_sublist (l := xs) p).length_le
  simp only [h, List.length_cons] at shorter
  omega

/-- The lines of a text. -/
def lines (text : List Char) : List (List Char) :=
  if text = [] then []
  else
    let line := text.takeWhile (· ≠ '\n')
    match _ : text.dropWhile (· ≠ '\n') with
    | [] => [line]
    | _ :: rest => dropReturn line :: lines rest
termination_by text.length
decreasing_by exact length_tail_dropWhile_lt ‹_›

end StackMachine.Source
