/-!
# Columns of text

Cells of a listing are filled up with spaces to a width that is counted in characters. A longer cell
stays as it is.
-/

namespace RobotScript.Text

/-- The text at the right end of a cell of the given width. -/
def alignRight (width : Nat) (text : String) : String :=
  String.ofList (List.replicate (width - text.length) ' ') ++ text

/-- The text at the left end of a cell of the given width. -/
def alignLeft (width : Nat) (text : String) : String :=
  text ++ String.ofList (List.replicate (width - text.length) ' ')

end RobotScript.Text
