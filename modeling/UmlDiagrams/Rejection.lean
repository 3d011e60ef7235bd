import UmlDiagrams.Collection
import UmlDiagrams.Id
import UmlDiagrams.Stateful

namespace UmlDiagrams

inductive Rejection where
  | emptyName (collection : Collection)
  | duplicateName (collection : Collection) (name : String)
  /-- The name would print like one in the sibling collection `other`. -/
  | nameClash (collection other : Collection) (name : String)
  | duplicateEdge (collection : Collection)
  | notEnoughNodes (collection : Collection) (needed found : Nat)
  | unknownEndpoint (collection : Collection) (endpoint : Reference)
  | unknownRecord (collection : Collection) (id : Id)
  | indexOutOfRange (collection : Collection) (index length : Nat)
  | invalidColor (value : String)
deriving DecidableEq, Repr

namespace Rejection

def referenceText (showId : Id → String) : Reference → String
  | .name text => text
  | .id id => showId id

def message (showId : Id → String) : Rejection → String
  | emptyName c => c.title ++ " name must not be empty"
  | duplicateName c name => c.title ++ " '" ++ name ++ "' already exists"
  | nameClash c other name =>
    c.title ++ " '" ++ name ++ "' would print the same as an existing entry in " ++ other.title
  | duplicateEdge c => "an identical " ++ c.title ++ " already exists between these endpoints"
  | notEnoughNodes c needed found =>
    "you need at least " ++ toString needed ++ " " ++ c.title ++ " (found " ++ toString found ++ ")"
  | unknownEndpoint c endpoint =>
    "no " ++ c.title ++ " named '" ++ referenceText showId endpoint ++ "'"
  | unknownRecord c id => "no " ++ c.title ++ " with id " ++ showId id
  | indexOutOfRange c index length =>
    "index " ++ toString index ++ " is out of range for " ++ toString length ++ " " ++ c.title
  | invalidColor value =>
    "'" ++ value ++ "' is not a color (expected #RGB, #RRGGBB or a color name)"

end Rejection

abbrev Editing (σ α : Type) := Stateful Rejection σ α

end UmlDiagrams
