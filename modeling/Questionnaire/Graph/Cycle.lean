import Questionnaire.Graph.Basic

/-!
# Cycles

The search for a cycle walks the edges depth first from every node in turn. Its stack holds the
path that is being walked, each id with the edges that are still to be followed; an id whose edges
have all been followed is done and is never entered again. An edge back to the path closes a cycle.

One step of the search follows one edge or leaves one id for good, so the number of steps is at
most the number of edges and of distinct ids together. That bound is the fuel of the search.
-/

namespace Questionnaire

namespace CycleSearch

/-- An id on the path, with the targets of its edges that are still to be followed. -/
structure Frame where
  /-- The id. -/
  id : String
  /-- The targets that are still to be followed. -/
  targets : List String
deriving DecidableEq, Repr

/-- How far a search has come. -/
structure Search where
  /-- The path, its end first. -/
  path : List Frame
  /-- The ids whose edges have all been followed. -/
  done : List String
  /-- The ids that walks are still to begin at. -/
  roots : List String
deriving DecidableEq, Repr

/-- What one step comes to. -/
inductive Step where
  /-- The search goes on. -/
  | next (search : Search)
  /-- An edge back to this id of the path closes a cycle. -/
  | closed (id : String)

/-- What a search comes to. -/
inductive Outcome where
  /-- The first cycle found is closed at this id. -/
  | cycle (id : String)
  /-- No walk from a node comes to a cycle. -/
  | acyclic
  /-- The steps allowed were not enough. -/
  | unfinished
deriving DecidableEq, Repr

/-- The frame of an id whose edges are all still to be followed. -/
def enter (graph : Graph) (id : String) : Frame :=
  { id, targets := (graph.outgoing id).map Edge.target }

/-- The search with a path: while there is none, a walk begins at the next root that is not done,
and `none` stands for no root being left. -/
def begin? (graph : Graph) (search : Search) : Option Search :=
  match search.path with
  | _ :: _ => some search
  | [] =>
    match search.roots.dropWhile fun root => search.done.contains root with
    | [] => none
    | root :: roots => some { path := [enter graph root], done := search.done, roots }

/-- Follows the next edge at the end of the path, or leaves the end when it has none left. -/
def step (graph : Graph) (search : Search) : Step :=
  match search.path with
  | [] => .next search
  | { id, targets := [] } :: path => .next { search with path, done := id :: search.done }
  | { id, targets := target :: targets } :: path =>
    let followed := { id, targets } :: path
    if followed.any fun frame => frame.id == target then .closed target
    else if search.done.contains target then .next { search with path := followed }
    else .next { search with path := enter graph target :: followed }

/-- Searches for at most a number of steps. -/
def run (graph : Graph) : Nat → Search → Outcome
  | fuel, search =>
    match begin? graph search with
    | none => .acyclic
    | some search =>
      match fuel with
      | 0 => .unfinished
      | fuel + 1 =>
        match step graph search with
        | .next search => run graph fuel search
        | .closed id => .cycle id

/-- The search before its first step, with the nodes as roots. -/
def initial (graph : Graph) : Search :=
  { path := [], done := [], roots := graph.nodes.map Node.id }

end CycleSearch

namespace Graph

/-- The distinct ids of nodes and of ends of edges. -/
def allIds (graph : Graph) : List String :=
  (graph.nodes.map Node.id ++ graph.edges.map Edge.source ++
    graph.edges.map Edge.target).eraseDups

/-- A number of steps within which every search for a cycle comes to an end. -/
def cycleSearchBound (graph : Graph) : Nat :=
  graph.edges.length + graph.allIds.length

/-- The id at which the first cycle is closed that can be reached from a node, if there is one. -/
def findCycle? (graph : Graph) : Option String :=
  match CycleSearch.run graph graph.cycleSearchBound (CycleSearch.initial graph) with
  | .cycle id => some id
  | .acyclic | .unfinished => none

end Graph

end Questionnaire
