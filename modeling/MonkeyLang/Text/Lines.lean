/-!
# Lines of text
-/

namespace MonkeyLang.Text

/-- A text of the given lines, each with a line break behind it. -/
def unlines : List String → String
  | [] => ""
  | line :: lines => line ++ "\n" ++ unlines lines

@[simp] theorem unlines_nil : unlines [] = "" := rfl

@[simp] theorem unlines_cons (line : String) (lines : List String) :
    unlines (line :: lines) = line ++ "\n" ++ unlines lines := rfl

end MonkeyLang.Text
