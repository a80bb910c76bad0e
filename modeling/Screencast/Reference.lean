/-!
# Shared values

A shared value is replaced as a whole. Whoever loaded it before keeps what was loaded.
-/

namespace Screencast

/-- A value that is shared and can be replaced. -/
structure Reference (value : Type) where
  current : value

namespace Reference

variable {value : Type}

/-- The value at present. -/
def load (reference : Reference value) : value := reference.current

/-- Publish another value. The result is the value that was replaced. -/
def replace (reference : Reference value) (fresh : value) : value × Reference value :=
  (reference.current, ⟨fresh⟩)

@[simp] theorem load_replace (reference : Reference value) (fresh : value) :
    (reference.replace fresh).2.load = fresh := rfl

end Reference

end Screencast
