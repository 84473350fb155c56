import Questionnaire.Graph.Basic

/-!
# Chains

A chain is a graph whose nodes follow one another without any condition.
-/

namespace Questionnaire

/-- The unconditional edges from each node to the next one. -/
def chainEdges : List Node → List Edge
  | first :: second :: rest => .always first.id second.id :: chainEdges (second :: rest)
  | _ => []

/-- The graph whose nodes follow one another. -/
def Graph.chain (nodes : List Node) : Graph where
  nodes
  edges := chainEdges nodes

end Questionnaire
