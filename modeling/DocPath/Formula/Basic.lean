import DocPath.Formula.Eval
import DocPath.Formula.Reader

/-!
# Formulas

A formula keeps its text. One whose text spells no term is a formula all the same, which fails for
every subject: a path is read without looking at the formulas in it.
-/

namespace DocPath

/-- The condition in parentheses at the end of a segment. -/
structure Formula where
  source : String
  term : Except SyntaxError Formula.Term

namespace Formula

def compile (source : String) : Formula :=
  ⟨source, Term.read source.toList⟩

@[simp] theorem source_compile (source : String) : (compile source).source = source := rfl

/-- Whether the text spells a term. -/
def isValid (f : Formula) : Bool :=
  match f.term with
  | .ok _ => true
  | .error _ => false

/-- The value of the formula for a subject. -/
def evaluate (f : Formula) (subject : Json) : Except FormulaError Json :=
  match f.term with
  | .ok t => t.eval subject
  | .error e => .error (.malformed f.source e)

/-- Whether the formula is true of a subject. -/
def test (f : Formula) (subject : Json) : Except FormulaError Bool := do
  return (← f.evaluate subject).truthy

end Formula

end DocPath
