
namespace UmlDiagrams

inductive Visibility where
  | isPublic | isPrivate | isProtected | isPackage
deriving DecidableEq, Repr, Inhabited

namespace Visibility

def symbol : Visibility → String
  | isPublic => "+"
  | isPrivate => "-"
  | isProtected => "#"
  | isPackage => "~"

def spellings : List (String × Visibility) :=
  [("+", isPublic), ("public", isPublic), ("-", isPrivate), ("private", isPrivate),
    ("#", isProtected), ("protected", isProtected), ("~", isPackage), ("package", isPackage)]

end Visibility

structure ClassAttribute where
  name : String := ""
  visibility : Visibility := .isPublic
  type : String := ""
  isStatic : Bool := false
deriving DecidableEq, Repr, Inhabited

/-- A method; its parameters are free text. -/
structure ClassMethod where
  name : String := ""
  visibility : Visibility := .isPublic
  returnType : String := ""
  parameters : String := ""
  isStatic : Bool := false
  isAbstract : Bool := false
deriving DecidableEq, Repr, Inhabited

structure EntityAttribute where
  name : String := ""
  type : String := ""
  isPrimaryKey : Bool := false
  isForeignKey : Bool := false
  isNotNull : Bool := false
deriving DecidableEq, Repr, Inhabited

end UmlDiagrams
