import DiceCup.Text.Blank

/-!
# The lines of a file

A file lists one entry a line.  Blanks around an entry and lines that hold nothing else do not
count, so indentation, carriage returns and a missing last line end make no difference.
-/

namespace DiceCup.Text

/-- The lines of a text that hold more than blanks, each without the blanks around it. -/
def filledLines
    (contents : String) :
    List String :=
  let lines := (contents.toList.splitOn '\n').map trimBlanks
  (lines.filter fun line => !line.isEmpty).map String.ofList

/-- Lines as one text, each with its line end. -/
def unlines
    (lines : List String) :
    String :=
  String.join (lines.map (· ++ "\n"))

end DiceCup.Text
