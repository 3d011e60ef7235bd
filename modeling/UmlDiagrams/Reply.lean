import UmlDiagrams.Member
import UmlDiagrams.Rejection

namespace UmlDiagrams

inductive Reply where
  | done
  | created (id : Id)
  /-- A removal tells whether there was something to remove. -/
  | removed (found : Bool)
  | classAttribute (attr : ClassAttribute)
  | classMethod (method : ClassMethod)
  | entityAttribute (attr : EntityAttribute)
deriving DecidableEq, Repr

end UmlDiagrams
