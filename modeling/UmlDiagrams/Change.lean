import UmlDiagrams.Collection
/-!
# Change notices

The collections touched since the notices were last taken, each once, in the order of their first
change.
-/

namespace UmlDiagrams

/-- Appends the collections that are not noted yet. -/
def notice (pending : List Collection) (touched : List Collection) : List Collection :=
  touched.foldl (fun noted c => if c ∈ noted then noted else noted ++ [c]) pending

end UmlDiagrams
