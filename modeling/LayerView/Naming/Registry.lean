import LayerView.Text.Basic

/-!
# Issued names

A name may be declared once.  A registry holds the names that were issued and, in order, the names
that were asked for again.
-/

namespace LayerView.Naming

/-- The names issued so far and the requests that were turned down. -/
structure Registry where
  issued : List Text := []
  duplicates : List Text := []
deriving DecidableEq, Repr

/-- A registry that has issued nothing. -/
def Registry.empty : Registry := {}

/-- Ask for a name.  It is granted if it was not issued before; otherwise the request is noted. -/
def Registry.claim (r : Registry) (name : Text) : Bool × Registry :=
  if name ∈ r.issued then (false, { r with duplicates := r.duplicates ++ [name] })
  else (true, { r with issued := name :: r.issued })

end LayerView.Naming
