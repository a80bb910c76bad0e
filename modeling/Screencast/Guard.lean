/-!
# Guards

A guard holds a resource until it is released. It is released once, be it on purpose or because the
guard is given up.
-/

namespace Screencast

/-- A guard over a resource, which is gone once it has been released. -/
structure Guard (resource : Type) where
  held : Option resource

namespace Guard

variable {resource : Type}

/-- A guard that holds a resource. -/
def hold (entry : resource) : Guard resource := ⟨some entry⟩

/-- Change the resource that is held. -/
def modify (guard : Guard resource) (change : resource → resource) : Guard resource :=
  ⟨guard.held.map change⟩

/-- Release the resource. The result is the resource, if it was still held. -/
def release (guard : Guard resource) : Option resource × Guard resource := (guard.held, ⟨none⟩)

/-- The text of a guard. -/
def text (guard : Guard resource) : String :=
  "Scoped \x7b held: " ++ (if guard.held.isSome then "true" else "false") ++ " \x7d"

@[simp] theorem release_release (guard : Guard resource) :
    guard.release.2.release.1 = none := rfl

end Guard

end Screencast
