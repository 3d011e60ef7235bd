
namespace UmlDiagrams

inductive Collection where
  | actors | messages
  | classes | classAttributes | classMethods | classRelationships
  | useCaseActors | useCases | useCaseLinks
  | entities | entityAttributes | erRelationships
  | activities | activityFlows
  | components | componentDependencies
  | states | stateTransitions
  | style
deriving DecidableEq, Repr

def Collection.title : Collection → String
  | actors => "actors"
  | messages => "messages"
  | classes => "classes"
  | classAttributes => "class attributes"
  | classMethods => "class methods"
  | classRelationships => "class relationships"
  | useCaseActors => "use-case actors"
  | useCases => "use cases"
  | useCaseLinks => "use-case links"
  | entities => "entities"
  | entityAttributes => "entity attributes"
  | erRelationships => "ER relationships"
  | activities => "activities"
  | activityFlows => "activity flows"
  | components => "components"
  | componentDependencies => "component dependencies"
  | states => "states"
  | stateTransitions => "state transitions"
  | style => "style"

end UmlDiagrams
