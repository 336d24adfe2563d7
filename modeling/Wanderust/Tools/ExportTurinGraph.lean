import Wanderust.Graphs.Adjacency
import Wanderust.Table

/-!
# The exporter of the road graph

`build_graph` of `tools/export_turin_graph.py`: from the elements of an
Overpass answer to the nodes and the adjacency lists.  A missing key and an
index out of range end the program with an exception.
-/

namespace Wanderust.Tools

/-- An element of the answer; a way may come without its nodes. -/
inductive Element (Coord : Type) where
  | node (id : Int) (lat lon : Coord)
  | way (nodes : Option (List Int))
  | other

structure Osm (Coord : Type) where
  elements : List (Element Coord)

structure RoadGraph (Coord : Type) where
  nodes : List (Coord × Coord)
  adj : List (List Nat)

inductive Exception where
  | keyError
  | indexError

variable {Coord : Type}

/-! # Elements -/

abbrev Coords (Coord : Type) := Table Int (Coord × Coord)

def readElement (state : Coords Coord × List (List Int)) (el : Element Coord) :
    Coords Coord × List (List Int) :=
  match el with
  | .node id lat lon => (state.1.insert id (lat, lon), state.2)
  | .way (some nodes) => (state.1, state.2 ++ [nodes])
  | .way none => state
  | .other => state

def readElements (osm : Osm Coord) : Coords Coord × List (List Int) :=
  osm.elements.foldl readElement (∅, [])

/-! # Used nodes -/

/-- The nodes in use, in the order of their first use, and the set of them. -/
def useNode (coords : Coords Coord) (state : List Int × Finset Int) (nid : Int) :
    List Int × Finset Int :=
  if (coords.lookup nid).isSome ∧ nid ∉ state.2 then
    (state.1 ++ [nid], insert nid state.2)
  else state

def usedNodes (coords : Coords Coord) (ways : List (List Int)) : List Int :=
  (ways.foldl (fun state w => w.foldl (useNode coords) state) ([], ∅)).1

abbrev Index := Table Int Nat

def indexOf (used : List Int) : Index :=
  used.zipIdx.foldl (fun index e => index.insert e.1 e.2) ∅

def lookupCoords (coords : Coords Coord) (nid : Int) : Except Exception (Coord × Coord) :=
  match coords.lookup nid with
  | some c => .ok c
  | none => .error .keyError

/-! # Adjacencies -/

/-- `adj[i].add(j)` -/
def addNeighbour (adj : List (Finset Nat)) (i j : Nat) : Except Exception (List (Finset Nat)) :=
  if i < adj.length then .ok (Graphs.addArc adj i j) else .error .indexError

/-- One node of a way, with the node before it where that one has an index. -/
def walkNode (index : Index) (state : List (Finset Nat) × Option Nat) (nid : Int) :
    Except Exception (List (Finset Nat) × Option Nat) :=
  match index.lookup nid, state.2 with
  | none, _ => .ok (state.1, none)
  | some cur, none => .ok (state.1, some cur)
  | some cur, some prev =>
      if prev ≠ cur then do
        let adj ← addNeighbour state.1 prev cur
        let adj ← addNeighbour adj cur prev
        return (adj, some cur)
      else .ok (state.1, some cur)

def walkWay (index : Index) (adj : List (Finset Nat)) (w : List Int) :
    Except Exception (List (Finset Nat)) := do
  let state ← w.foldlM (walkNode index) (adj, none)
  return state.1

def buildGraph (osm : Osm Coord) : Except Exception (RoadGraph Coord) := do
  let (coords, ways) := readElements osm
  let used := usedNodes coords ways
  let index := indexOf used
  let nodes ← used.mapM (lookupCoords coords)
  let adj ← ways.foldlM (walkWay index) (nodes.map fun _ => ∅)
  return { nodes, adj := adj.map fun s => s.sort }

end Wanderust.Tools
