import Wanderust.Sim.Graph

/-!
# The simulator

The vehicle of `sim/src/lib.rs`: its construction on a random node of the graph,
the choice of the next edge, and the advance by a stretch of logical time.
-/

namespace Wanderust.Sim

open Rng

variable {F : Type} [Arith F]

def speedMinKmh : F := 30
def speedMaxKmh : F := 70
def driveMinSecs : F := 90
def driveMaxSecs : F := 600
def pauseMinSecs : F := 10
def pauseMaxSecs : F := 240

/-- The cap on the edges passed in one call of `advance`. -/
def maxSteps : Nat := 10000

structure Simulator (F : Type) where
  graph : Graph F
  rng : Rng
  fromNode : Nat
  toNode : Nat
  offsetM : F
  speedMps : F
  driveSecsLeft : F
  pauseSecsLeft : F
  lastSpeedKmh : F
  lat : F
  lon : F

/-! # Construction -/

/-- The search for a node with a neighbour: `turns` nodes from `start` on, around the list. -/
def startNode (g : Graph F) (n : Nat) : Nat -> Nat -> Checked Nat
  | 0, start => .ok start
  | turns + 1, start => do
      let neigh ← g.neighbours start
      if !neigh.isEmpty then return start
      else startNode g n turns ((start + 1) % n)

namespace Simulator

/-- The construction from a graph, once the JSON has been parsed. -/
def ofGraph (graph : Graph F) (seed : F) : Checked (Except String (Simulator F)) := do
  if graph.nodes.isEmpty then return .error "empty graph"
  else
    let rng := Rng.new (Arith.castU64 seed)
    let n := graph.nodes.length
    let (first, rng) ← rng.below n
    let fromNode ← startNode graph n n first
    let neigh ← graph.neighbours fromNode
    if neigh.isEmpty then return .error "graph without edges"
    else
      let (k, rng) ← rng.below neigh.length
      let toNode := neigh[k]?.map UInt32.toNat
      match toNode with
      | none => .error .indexOutOfBounds
      | some toNode =>
          let (lat, lon) ← graph.coord fromNode
          let (speedKmh, rng) := rng.range speedMinKmh speedMaxKmh
          let (driveSecsLeft, rng) := rng.range driveMinSecs driveMaxSecs
          return .ok
            { graph, rng, fromNode, toNode
              offsetM := 0
              speedMps := speedKmh / (36 / 10)
              driveSecsLeft
              pauseSecsLeft := 0
              lastSpeedKmh := 0
              lat, lon }

/-- `build`, for a given parser of the graph. -/
def build (fromStr : String -> Except String (Graph F)) (graphJson : String) (seed : F) :
    Checked (Except String (Simulator F)) :=
  match fromStr graphJson with
  | .error e => .ok (.error ("invalid graph JSON: " ++ e))
  | .ok graph => ofGraph graph seed

/-! # The next edge -/

def nthOther (avoid : Nat) : Nat -> List UInt32 -> Nat
  | _, [] => avoid
  | k, x :: rest =>
      if x.toNat = avoid then nthOther avoid k rest
      else if k = 0 then x.toNat
      else nthOther avoid (k - 1) rest

/-- The node after `node`, not back to `avoid` unless it is a dead end. -/
def pickNext (s : Simulator F) (node avoid : Nat) : Checked (Nat × Simulator F) := do
  let neigh ← s.graph.neighbours node
  let alt := (neigh.filter fun x => x.toNat != avoid).length
  if alt = 0 then return (avoid, s)
  else
    let (k, rng) ← s.rng.below alt
    return (nthOther avoid k neigh, { s with rng })

def resampleSpeed (s : Simulator F) : Simulator F :=
  { s with
    speedMps := (s.rng.range speedMinKmh speedMaxKmh).1 / (36 / 10)
    rng := (s.rng.range (speedMinKmh : F) speedMaxKmh).2 }

/-! # Advance -/

/-- The node `toNode` is reached: the vehicle goes on along a new edge. -/
def passNode (s : Simulator F) : Checked (Simulator F) := do
  let arrived := s.toNode
  let cameFrom := s.fromNode
  let (next, s) ← s.pickNext arrived cameFrom
  let s := { s with fromNode := arrived, toNode := next, offsetM := 0 }
  if ← s.graph.isIntersection arrived then return s.resampleSpeed
  else return s

/-- The loop of `advance`, with the number of turns left and the metres left. -/
def drive : Nat -> F -> Simulator F -> Checked (Simulator F)
  | 0, _, s => .ok s
  | turns + 1, budgetM, s => do
      let seg ← s.graph.segLenM s.fromNode s.toNode
      let remain := seg - s.offsetM
      if budgetM < remain then return { s with offsetM := s.offsetM + budgetM }
      else drive turns (budgetM - max remain 0) (← s.passNode)

/-- `clamp(0.0, 1.0)`. -/
def clampUnit (x : F) : F := if x < 0 then 0 else if 1 < x then 1 else x

def updatePosition (s : Simulator F) : Checked (Simulator F) := do
  let (flat, flon) ← s.graph.coord s.fromNode
  let (tlat, tlon) ← s.graph.coord s.toNode
  let seg ← s.graph.segLenM s.fromNode s.toNode
  let frac := if 0 < seg then clampUnit (s.offsetM / seg) else 0
  return { s with
    lat := flat + (tlat - flat) * frac
    lon := flon + (tlon - flon) * frac }

/-- The part of `advance` after the pause: the driving time, then the loop. -/
def advanceDriving (s : Simulator F) (dtSecs : F) : Checked (Simulator F) :=
  let s := { s with driveSecsLeft := s.driveSecsLeft - dtSecs }
  if s.driveSecsLeft ≤ 0 then
    let pause := s.rng.range (pauseMinSecs : F) pauseMaxSecs
    let driving := pause.2.range (driveMinSecs : F) driveMaxSecs
    .ok { s with
      pauseSecsLeft := pause.1
      driveSecsLeft := driving.1
      rng := driving.2
      lastSpeedKmh := 0 }
  else do
    let s := { s with lastSpeedKmh := s.speedMps * (36 / 10) }
    let s ← drive maxSteps (s.speedMps * dtSecs) s
    s.updatePosition

def advance (s : Simulator F) (dtSecs : F) : Checked (Simulator F) :=
  if dtSecs ≤ 0 then .ok s
  else if 0 < s.pauseSecsLeft then
    let s := { s with pauseSecsLeft := s.pauseSecsLeft - dtSecs }
    if 0 < s.pauseSecsLeft then .ok { s with lastSpeedKmh := 0 }
    else ({ s with pauseSecsLeft := 0 } : Simulator F).resampleSpeed.advanceDriving dtSecs
  else s.advanceDriving dtSecs

def advances (s : Simulator F) : List F -> Checked (Simulator F)
  | [] => .ok s
  | dt :: rest => do
      let s' ← s.advance dt
      s'.advances rest

def moving (s : Simulator F) : Bool := decide (s.pauseSecsLeft ≤ 0)

def speedKmh (s : Simulator F) : F := s.lastSpeedKmh

end Simulator

end Wanderust.Sim
