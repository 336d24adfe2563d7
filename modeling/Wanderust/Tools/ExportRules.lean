import Wanderust.Tools.ExportTurinGraph

/-!
# Rules of the exporter

One rule for each pass over the Overpass answer: the coordinates and the ways
of the elements, the nodes in use, their indices, and the edges of the ways.
-/

namespace Wanderust.Tools

open Graphs

variable {Coord : Type}

/-! # Elements -/

/-- The last element for the node gives these coordinates. -/
def HasCoords (elements : List (Element Coord)) (id : Int) (c : Coord × Coord) : Prop :=
  exists before later, elements = before ++ .node id c.1 c.2 :: later ∧
    forall lat lon, .node id lat lon ∉ later

theorem hasCoords_append {elements : List (Element Coord)} {el : Element Coord} {id : Int}
    {c : Coord × Coord} :
    HasCoords (elements ++ [el]) id c <->
      el = .node id c.1 c.2 ∨ ((forall lat lon, el ≠ .node id lat lon) ∧
        HasCoords elements id c) := by
  unfold HasCoords
  constructor
  · intro h
    rcases h with ⟨before, later, hsplit, hlater⟩
    rcases List.eq_nil_or_concat later with hnil | ⟨later', last, rfl⟩
    · rw [hnil] at hsplit
      rcases List.append_inj' hsplit rfl with ⟨_, hel⟩
      exact Or.inl (List.singleton_inj.mp hel)
    · have hsplit' : elements ++ [el] = (before ++ .node id c.1 c.2 :: later') ++ [last] := by
        rw [hsplit, List.append_assoc, List.cons_append, List.concat_eq_append]
      rcases List.append_inj' hsplit' rfl with ⟨helements, hel⟩
      rw [List.singleton_inj] at hel
      rw [List.concat_eq_append] at hlater
      refine Or.inr ⟨?_, before, later', helements, ?_⟩
      · intro lat lon hnode
        exact hlater lat lon
          (List.mem_append_right _ (List.mem_singleton.mpr (hnode.symm.trans hel)))
      · intro lat lon hmem
        exact hlater lat lon (List.mem_append_left _ hmem)
  · intro h
    rcases h with rfl | ⟨hel, before, later, rfl, hlater⟩
    · exact ⟨elements, [], rfl, fun _ _ => List.not_mem_nil⟩
    · refine ⟨before, later ++ [el], by rw [List.append_assoc, List.cons_append], ?_⟩
      intro lat lon hmem
      rcases List.mem_append.mp hmem with hold | hnew
      · exact hlater lat lon hold
      · exact hel lat lon (List.mem_singleton.mp hnew).symm

theorem readElements_append (elements : List (Element Coord)) (el : Element Coord) :
    readElements { elements := elements ++ [el] } =
      readElement (readElements { elements }) el := by
  unfold readElements
  rw [List.foldl_append, List.foldl_cons, List.foldl_nil]

theorem lookup_readElement (state : Coords Coord × List (List Int)) (el : Element Coord)
    (id : Int) (c : Coord × Coord) :
    (readElement state el).1.lookup id = some c <->
      el = .node id c.1 c.2 ∨ ((forall lat lon, el ≠ .node id lat lon) ∧
        state.1.lookup id = some c) := by
  cases el with
  | node id' lat lon =>
      show (state.1.insert id' (lat, lon)).lookup id = some c <-> _
      rw [Table.lookup_insert_eq]
      split
      case isTrue hid =>
        subst hid
        constructor
        · intro h
          cases h
          exact Or.inl rfl
        · intro hread
          rcases hread with h | ⟨h, _⟩
          · cases h
            rfl
          · exact absurd rfl (h lat lon)
      case isFalse hid =>
        constructor
        · intro h
          refine Or.inr ⟨?_, h⟩
          intro lat' lon' heq
          cases heq
          exact hid rfl
        · intro hread
          rcases hread with h | ⟨_, h⟩
          · cases h
            exact absurd rfl hid
          · exact h
  | way nodes =>
      have hstate : (readElement state (.way nodes)).1 = state.1 := by
        cases nodes with
        | none => rfl
        | some w => rfl
      rw [hstate]
      constructor
      · intro h
        exact Or.inr ⟨by simp, h⟩
      · intro hread
        rcases hread with h | ⟨_, h⟩
        · cases h
        · exact h
  | other =>
      constructor
      · intro h
        exact Or.inr ⟨by simp, h⟩
      · intro hread
        rcases hread with h | ⟨_, h⟩
        · cases h
        · exact h

theorem lookup_coords (osm : Osm Coord) (id : Int) (c : Coord × Coord) :
    (readElements osm).1.lookup id = some c <-> HasCoords osm.elements id c := by
  rcases osm with ⟨elements⟩
  induction elements using List.reverseRecOn with
  | nil =>
      constructor
      · intro h
        cases h
      · intro hcoords
        rcases hcoords with ⟨before, later, hsplit, _⟩
        cases before with
        | nil => cases hsplit
        | cons el before => cases hsplit
  | append_singleton elements el ih =>
      rw [readElements_append, hasCoords_append, ← ih]
      exact lookup_readElement _ el id c

theorem mem_ways (osm : Osm Coord) (w : List Int) :
    w ∈ (readElements osm).2 <-> .way (some w) ∈ osm.elements := by
  rcases osm with ⟨elements⟩
  induction elements using List.reverseRecOn with
  | nil =>
      show w ∈ [] <-> _
      rw [List.mem_nil_iff, List.mem_nil_iff]
  | append_singleton elements el ih =>
      rw [readElements_append, List.mem_append, ← ih, List.mem_singleton]
      cases el with
      | node id lat lon =>
          show w ∈ (readElements { elements }).2 <-> _
          rw [or_iff_left (by simp)]
      | way nodes =>
          cases nodes with
          | none =>
              show w ∈ (readElements { elements }).2 <-> _
              rw [or_iff_left (by simp)]
          | some nodes =>
              show w ∈ (readElements { elements }).2 ++ [nodes] <-> _
              rw [List.mem_append, List.mem_singleton, Element.way.injEq, Option.some.injEq]
      | other =>
          show w ∈ (readElements { elements }).2 <-> _
          rw [or_iff_left (by simp)]

/-! # Used nodes -/

variable {coords : Coords Coord}

/-- The set of the loop holds the nodes of its list, and the list has no node twice. -/
structure Tracked (state : List Int × Finset Int) : Prop where
  nodup : state.1.Nodup
  seen : forall nid, nid ∈ state.2 <-> nid ∈ state.1

theorem Tracked.useNode {state : List Int × Finset Int} (h : Tracked state) (nid : Int) :
    Tracked (useNode coords state nid) := by
  unfold Tools.useNode
  split
  case isTrue hnew =>
    constructor
    · rw [List.nodup_append]
      refine ⟨h.nodup, List.nodup_singleton nid, ?_⟩
      intro a ha b hb hab
      rw [hab, List.mem_singleton.mp hb] at ha
      exact hnew.2 ((h.seen nid).mpr ha)
    · intro nid'
      rw [Finset.mem_insert, List.mem_append, List.mem_singleton, h.seen, or_comm]
  case isFalse => exact h

theorem Tracked.mem_useNode {state : List Int × Finset Int} (h : Tracked state) (nid nid' : Int) :
    nid' ∈ (Tools.useNode coords state nid).1 <->
      nid' ∈ state.1 ∨ (nid' = nid ∧ (coords.lookup nid).isSome) := by
  unfold Tools.useNode
  split
  case isTrue hnew =>
    rw [List.mem_append, List.mem_singleton]
    exact or_congr_right ⟨fun heq => ⟨heq, hnew.1⟩, And.left⟩
  case isFalse hold =>
    constructor
    · exact Or.inl
    · intro hadded
      rcases hadded with hmem | ⟨rfl, hcoords⟩
      · exact hmem
      · -- the node has coordinates, so it was skipped because the loop has seen it
        have hseen : nid' ∈ state.2 := by
          by_contra hunseen
          exact hold ⟨hcoords, hunseen⟩
        exact (h.seen nid').mp hseen

theorem Tracked.useNodes {state : List Int × Finset Int} (h : Tracked state) (nids : List Int) :
    Tracked (nids.foldl (Tools.useNode coords) state) ∧
      forall nid, nid ∈ (nids.foldl (Tools.useNode coords) state).1 <->
        nid ∈ state.1 ∨ (nid ∈ nids ∧ (coords.lookup nid).isSome) := by
  induction nids generalizing state with
  | nil =>
      refine ⟨h, fun nid => ?_⟩
      rw [List.foldl_nil, List.mem_nil_iff, false_and, or_false]
  | cons x nids ih =>
      have hx : Tracked (Tools.useNode coords state x) := h.useNode x
      have hrest := ih hx
      refine ⟨hrest.1, fun nid => ?_⟩
      rw [List.foldl_cons, hrest.2, h.mem_useNode, List.mem_cons, or_and_right, or_assoc]
      constructor
      · intro hadded
        rcases hadded with hmem | ⟨rfl, hcoords⟩ | hmem
        · exact Or.inl hmem
        · exact Or.inr (Or.inl ⟨rfl, hcoords⟩)
        · exact Or.inr (Or.inr hmem)
      · intro hadded
        rcases hadded with hmem | ⟨rfl, hcoords⟩ | hmem
        · exact Or.inl hmem
        · exact Or.inr (Or.inl ⟨rfl, hcoords⟩)
        · exact Or.inr (Or.inr hmem)

theorem usedNodes_eq (coords : Coords Coord) (ways : List (List Int)) :
    usedNodes coords ways = (ways.flatten.foldl (useNode coords) ([], ∅)).1 := by
  rw [usedNodes, List.foldl_flatten]

theorem tracked_start : Tracked ([], ∅) where
  nodup := List.nodup_nil
  seen _ := ⟨fun h => absurd h (Finset.notMem_empty _), fun h => absurd h List.not_mem_nil⟩

theorem usedNodes_nodup (coords : Coords Coord) (ways : List (List Int)) :
    (usedNodes coords ways).Nodup := by
  rw [usedNodes_eq]
  exact (tracked_start.useNodes ways.flatten).1.nodup

theorem mem_usedNodes {ways : List (List Int)} {nid : Int} :
    nid ∈ usedNodes coords ways <->
      (exists w, w ∈ ways ∧ nid ∈ w) ∧ exists c, coords.lookup nid = some c := by
  rw [usedNodes_eq, (tracked_start.useNodes ways.flatten).2, List.mem_flatten,
    Option.isSome_iff_exists]
  exact or_iff_right List.not_mem_nil

/-! # Indices -/

theorem indexOf_append (used : List Int) (nid : Int) :
    indexOf (used ++ [nid]) = (indexOf used).insert nid used.length := by
  unfold indexOf
  rw [List.zipIdx_append, List.foldl_append, Nat.zero_add]
  rfl

theorem lookup_indexOf {used : List Int} (h : used.Nodup) {nid : Int} {i : Nat} :
    (indexOf used).lookup nid = some i <-> used[i]? = some nid := by
  induction used using List.reverseRecOn with
  | nil =>
      constructor
      · intro h
        cases h
      · intro h
        cases h
  | append_singleton used x ih =>
      rw [List.nodup_append] at h
      have hx : x ∉ used := fun hmem =>
        h.2.2 x hmem x (List.mem_singleton.mpr rfl) rfl
      rw [indexOf_append, Table.lookup_insert_eq, List.getElem?_append]
      split
      case isTrue hnid =>
        subst hnid
        split
        case isTrue hi =>
          constructor
          · intro hlast
            cases hlast
            exact absurd hi (lt_irrefl _)
          · intro hmem
            exact absurd (List.mem_of_getElem? hmem) hx
        case isFalse hi =>
          rw [List.getElem?_singleton]
          constructor
          · intro hlast
            cases hlast
            rw [Nat.sub_self, if_pos rfl]
          · intro hmem
            split at hmem
            case isTrue hlast =>
              have hi' : i = used.length := by omega
              rw [hi']
            case isFalse => cases hmem
      case isFalse hnid =>
        rw [ih h.1]
        split
        case isTrue hi => rfl
        case isFalse hi =>
          rw [List.getElem?_singleton, List.getElem?_eq_none (Nat.le_of_not_lt hi)]
          constructor
          · intro hnone
            cases hnone
          · intro hmem
            split at hmem
            case isTrue =>
              cases hmem
              exact absurd rfl hnid
            case isFalse => cases hmem

theorem mapM_lookupCoords {used : List Int}
    (h : forall nid, nid ∈ used -> exists c, coords.lookup nid = some c) :
    exists nodes, used.mapM (lookupCoords coords) = .ok nodes ∧
      List.Forall₂ (fun nid c => coords.lookup nid = some c) used nodes := by
  induction used with
  | nil => exact ⟨[], rfl, List.Forall₂.nil⟩
  | cons nid used ih =>
      rcases h nid List.mem_cons_self with ⟨c, hc⟩
      rcases ih (fun nid' hmem => h nid' (List.mem_cons_of_mem _ hmem)) with ⟨nodes, hok, hnodes⟩
      refine ⟨c :: nodes, ?_, List.Forall₂.cons hc hnodes⟩
      rw [List.mapM_cons, lookupCoords, hc, hok]
      rfl

/-! # Edges -/

def edge (index : Index) (e : Int × Int) : Option (Nat × Nat) :=
  match index.lookup e.1, index.lookup e.2 with
  | some prev, some cur => if prev ≠ cur then some (prev, cur) else none
  | _, _ => none

def wayEdges (index : Index) (w : List Int) : List (Nat × Nat) :=
  (consecutive w).filterMap (edge index)

variable {index : Index} {adj : List (Finset Nat)}

theorem edge_eq_some {a b : Int} {i j : Nat} :
    edge index (a, b) = some (i, j) <->
      i ≠ j ∧ index.lookup a = some i ∧ index.lookup b = some j := by
  unfold edge
  cases ha : index.lookup a with
  | none =>
      constructor
      · intro h
        cases h
      · intro h
        rcases h with ⟨_, ha', _⟩
        cases ha'
  | some prev =>
      cases hb : index.lookup b with
      | none =>
          constructor
          · intro h
            cases h
          · intro h
            rcases h with ⟨_, _, hb'⟩
            cases hb'
      | some cur =>
          dsimp only
          split
          case isTrue hne =>
            constructor
            · intro h
              cases h
              exact ⟨hne, rfl, rfl⟩
            · intro h
              rcases h with ⟨_, ha', hb'⟩
              cases ha'
              cases hb'
              rfl
          case isFalse heq =>
            constructor
            · intro h
              cases h
            · intro h
              rcases h with ⟨hne, ha', hb'⟩
              cases ha'
              cases hb'
              exact absurd hne heq

theorem mem_wayEdges {w : List Int} {i j : Nat} :
    (i, j) ∈ wayEdges index w <->
      i ≠ j ∧ exists a b, index.lookup a = some i ∧ index.lookup b = some j ∧
        exists k, w[k]? = some a ∧ w[k + 1]? = some b := by
  unfold wayEdges
  rw [List.mem_filterMap]
  constructor
  · intro h
    rcases h with ⟨⟨a, b⟩, hmem, hedge⟩
    rcases edge_eq_some.mp hedge with ⟨hne, ha, hb⟩
    exact ⟨hne, a, b, ha, hb, mem_consecutive.mp hmem⟩
  · intro h
    rcases h with ⟨hne, a, b, ha, hb, hmem⟩
    exact ⟨(a, b), mem_consecutive.mpr hmem, edge_eq_some.mpr ⟨hne, ha, hb⟩⟩

def Fits (index : Index) (n : Nat) : Prop :=
  forall nid i, index.lookup nid = some i -> i < n

theorem addNeighbour_eq {i j : Nat} (h : i < adj.length) :
    addNeighbour adj i j = .ok (addArc adj i j) := if_pos h

/-- The cursor of the loop is the index of the node before. -/
theorem walkNode_eq (h : Fits index adj.length) (before nid : Int) :
    walkNode index (adj, index.lookup before) nid =
      .ok (addEdges adj (edge index (before, nid)).toList, index.lookup nid) := by
  unfold walkNode edge
  cases hnid : index.lookup nid with
  | none =>
      cases hbefore : index.lookup before with
      | none => rfl
      | some prev => rfl
  | some cur =>
      cases hbefore : index.lookup before with
      | none => rfl
      | some prev =>
          dsimp only
          split
          case isTrue hne =>
            have hcur : cur < (addArc adj prev cur).length := by
              rw [length_addArc]
              exact h nid cur hnid
            rw [addNeighbour_eq (h before prev hbefore)]
            show (addNeighbour (addArc adj prev cur) cur prev >>= _) = _
            rw [addNeighbour_eq hcur]
            rfl
          case isFalse heq => rfl

theorem walkNodes_eq (h : Fits index adj.length) (before : Int) (w : List Int) :
    exists last, w.foldlM (walkNode index) (adj, index.lookup before) =
      .ok (addEdges adj (wayEdges index (before :: w)), last) := by
  induction w generalizing adj before with
  | nil => exact ⟨index.lookup before, rfl⟩
  | cons nid w ih =>
      have hfits : Fits index (addEdges adj (edge index (before, nid)).toList).length := by
        rw [length_addEdges]
        exact h
      rcases ih hfits nid with ⟨last, hrest⟩
      refine ⟨last, ?_⟩
      have hedges : wayEdges index (before :: nid :: w) =
          (edge index (before, nid)).toList ++ wayEdges index (nid :: w) := by
        show ((before, nid) :: consecutive (nid :: w)).filterMap (edge index) = _
        rw [List.filterMap_cons]
        cases edge index (before, nid) with
        | none => rfl
        | some e => rfl
      rw [List.foldlM_cons, walkNode_eq h, hedges, addEdges_append]
      exact hrest

theorem walkWay_eq (h : Fits index adj.length) (w : List Int) :
    walkWay index adj w = .ok (addEdges adj (wayEdges index w)) := by
  cases w with
  | nil => rfl
  | cons nid w =>
      rcases walkNodes_eq h nid w with ⟨last, hwalk⟩
      have hfirst : walkNode index (adj, none) nid = .ok (adj, index.lookup nid) := by
        unfold walkNode
        cases index.lookup nid with
        | none => rfl
        | some cur => rfl
      rw [walkWay, List.foldlM_cons, hfirst]
      show ((w.foldlM (walkNode index) (adj, index.lookup nid)) >>= _) = _
      rw [hwalk]
      rfl

theorem walkWays_eq (h : Fits index adj.length) (ways : List (List Int)) :
    ways.foldlM (walkWay index) adj = .ok (addEdges adj (ways.flatMap (wayEdges index))) := by
  induction ways generalizing adj with
  | nil => rfl
  | cons w ways ih =>
      have hrest : Fits index (addEdges adj (wayEdges index w)).length := by
        rw [length_addEdges]
        exact h
      rw [List.foldlM_cons, walkWay_eq h, List.flatMap_cons, addEdges_append]
      exact ih hrest

/-! # The exported graph -/

/-- The edges of all ways, by the positions of their nodes in `used`. -/
def exportedEdges (used : List Int) (ways : List (List Int)) : List (Nat × Nat) :=
  ways.flatMap (wayEdges (indexOf used))

theorem indexOf_fits {used : List Int} (h : used.Nodup) : Fits (indexOf used) used.length := by
  intro nid i hi
  exact (List.getElem?_eq_some_iff.mp ((lookup_indexOf h).mp hi)).1

theorem mem_exportedEdges {used : List Int} (h : used.Nodup) {ways : List (List Int)} {i j : Nat} :
    (i, j) ∈ exportedEdges used ways <->
      i ≠ j ∧ exists a b, used[i]? = some a ∧ used[j]? = some b ∧
        exists w, w ∈ ways ∧ exists k, w[k]? = some a ∧ w[k + 1]? = some b := by
  unfold exportedEdges
  rw [List.mem_flatMap]
  constructor
  · intro hway
    rcases hway with ⟨w, hw, hmem⟩
    rcases mem_wayEdges.mp hmem with ⟨hne, a, b, ha, hb, hk⟩
    exact ⟨hne, a, b, (lookup_indexOf h).mp ha, (lookup_indexOf h).mp hb, w, hw, hk⟩
  · intro hways
    rcases hways with ⟨hne, a, b, ha, hb, w, hw, hk⟩
    exact ⟨w, hw, mem_wayEdges.mpr
      ⟨hne, a, b, (lookup_indexOf h).mpr ha, (lookup_indexOf h).mpr hb, hk⟩⟩

theorem exportedEdges_inRange {used : List Int} (h : used.Nodup) (ways : List (List Int)) :
    InRange used.length (exportedEdges used ways) := by
  intro e hmem
  rcases e with ⟨i, j⟩
  rcases (mem_exportedEdges h).mp hmem with ⟨_, a, b, ha, hb, _⟩
  exact ⟨(List.getElem?_eq_some_iff.mp ha).1, (List.getElem?_eq_some_iff.mp hb).1⟩

theorem buildGraph_eq (osm : Osm Coord) :
    exists nodes,
      buildGraph osm = .ok
        { nodes
          adj := (ofEdges nodes.length
            (exportedEdges (usedNodes (readElements osm).1 (readElements osm).2)
              (readElements osm).2)).map fun s => s.sort } ∧
      List.Forall₂ (fun nid c => (readElements osm).1.lookup nid = some c)
        (usedNodes (readElements osm).1 (readElements osm).2) nodes := by
  have hused := usedNodes_nodup (readElements osm).1 (readElements osm).2
  rcases mapM_lookupCoords (fun nid hmem => (mem_usedNodes.mp hmem).2) with ⟨nodes, hok, hnodes⟩
  have hlength := hnodes.length_eq
  refine ⟨nodes, ?_, hnodes⟩
  have hrows : nodes.map (fun _ => (∅ : Finset Nat)) = List.replicate nodes.length ∅ :=
    List.map_const'
  have hfits : Fits (indexOf (usedNodes (readElements osm).1 (readElements osm).2))
      (List.replicate nodes.length (∅ : Finset Nat)).length := by
    rw [List.length_replicate, ← hlength]
    exact indexOf_fits hused
  unfold buildGraph
  dsimp only
  rw [hok]
  show ((readElements osm).2.foldlM
    (walkWay (indexOf (usedNodes (readElements osm).1 (readElements osm).2)))
    (nodes.map fun _ => ∅) >>= _) = _
  rw [hrows, walkWays_eq hfits]
  rfl

end Wanderust.Tools
