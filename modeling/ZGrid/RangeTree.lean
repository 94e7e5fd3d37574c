import ZGrid.Log

/-!
# RangeTree — a grid in which shapes are selected one after another

A range tree is a padded grid, its box and its level, with the cover of what has been selected so
far.  A shape is placed only if its envelope stays within the box and it touches the box; a shape
that is refused leaves the tree as it was.
-/

namespace ZGrid

/-- A grid and the cells selected in it. -/
structure RangeTree (α : Type) where
  /-- The box of the whole grid. -/
  bounds : Box α
  /-- The number of halvings down to a cell. -/
  level : Nat
  /-- The selected cells. -/
  root : Cover

/-- What becomes of a shape. -/
inductive Placement where
  /-- Its envelope reaches past the grid. -/
  | pastGrid
  /-- It does not touch the grid. -/
  | offGrid
  /-- Its cells are selected. -/
  | selected
deriving DecidableEq, Repr

/-- A block of a tree with all that follows from its path. -/
structure Block (α : Type) where
  /-- The quarters that lead to the block. -/
  path : List Quadrant
  /-- How much of it is selected. -/
  status : Status
  /-- Some quarter has a block. -/
  hasChildren : Bool
  /-- Its box. -/
  box : Box α
  /-- Its rows and columns. -/
  extent : Extent

/-- The depth of a block, counted from one at the whole grid. -/
def Block.depth {α : Type} (block : Block α) : Nat := block.path.length + 1

/-- What makes a region of a polygon, or tells why there is none. -/
abbrev Geometry := Polygon Float → Except Error (Region Float)

/-- A polygon to be selected. -/
inductive Request where
  /-- The polygon itself. -/
  | polygon (polygon : Polygon Float)
  /-- The polygon with the given vertices, if they make one. -/
  | vertices (vertices : List (Point Float))

/-- The region of the polygon that is asked for. -/
def Request.region (geometry : Geometry) : Request → Except Error (Region Float)
  | .polygon given => geometry given
  | .vertices given => do geometry (← Polygon.ofVertices given)

namespace RangeTree

variable {α : Type}

/-- The grid with no cell selected. -/
def empty (bounds : Box α) (level : Nat) : RangeTree α := ⟨bounds, level, .leaf .disjoint⟩

/-- The status of the whole grid. -/
def status (tree : RangeTree α) : Status := tree.root.status

/-- The number of blocks. -/
def size (tree : RangeTree α) : Nat := tree.root.size

/-- The ranges of the full blocks, in the order of the quarters. -/
def blockRanges (tree : RangeTree α) : List KeyRange :=
  tree.root.ranges tree.level (Extent.whole tree.level)

/-- The ranges of the selected cells, sorted and merged. -/
def ranges (tree : RangeTree α) : List KeyRange :=
  KeyRange.mergeAdjacent (KeyRange.sortAscending tree.blockRanges)

section Place

variable [LT α] [DecidableLT α] [Midpoint α]

/-- A shape placed in the grid. -/
def place (tree : RangeTree α) (region : Region α) : Placement × RangeTree α :=
  if tree.bounds.exceededBy region.envelope then (.pastGrid, tree)
  else if region.skips tree.bounds then (.offGrid, tree)
  else (.selected, { tree with root := tree.root.reselect region tree.level tree.bounds })

end Place

section Blocks

variable [Midpoint α]

/-- The blocks, each before its quarters. -/
def blocks (tree : RangeTree α) : List (Block α) :=
  go tree.root [] tree.bounds (Extent.whole tree.level)
where
  /-- The blocks below a path. -/
  go : Cover → List Quadrant → Box α → Extent → List (Block α)
    | .vacant, _, _, _ => []
    | cover@(.block status northWest northEast southWest southEast), path, box, extent =>
      ⟨path, status, cover.hasChildren, box, extent⟩ ::
        (go northWest (path ++ [.northWest]) (box.quadrant .northWest)
            (extent.quadrant .northWest) ++
          (go northEast (path ++ [.northEast]) (box.quadrant .northEast)
              (extent.quadrant .northEast) ++
            (go southWest (path ++ [.southWest]) (box.quadrant .southWest)
                (extent.quadrant .southWest) ++
              go southEast (path ++ [.southEast]) (box.quadrant .southEast)
                (extent.quadrant .southEast))))

end Blocks

/-! ## Requests

A request names a polygon, and a geometry makes a region of it.  A request that makes no region, or
one whose region is refused, leaves the tree as it was. -/

/-- The answer to a request, and the tree after it. -/
def respond (geometry : Geometry) (tree : RangeTree Float) (request : Request) :
    Logged (Except Error Bool × RangeTree Float) := do
  match request.region geometry with
  | .error error => return (.error error, tree)
  | .ok region =>
    match tree.place region with
    | (.pastGrid, after) =>
      Logged.tell (.pastGrid region.envelope)
      return (.ok false, after)
    | (.offGrid, after) =>
      Logged.tell .offGrid
      return (.ok false, after)
    | (.selected, after) =>
      let visits := Cover.visits region tree.level tree.bounds (Extent.whole tree.level)
      Logged.tellAll (visits.map fun (extent, status) => .visited extent status)
      Logged.tell (.selected after.status after.size)
      return (.ok true, after)

/-- The tree after a list of requests. -/
def run (geometry : Geometry) (tree : RangeTree Float) (requests : List Request) :
    RangeTree Float :=
  requests.foldl (fun tree request => (tree.respond geometry request).value.2) tree

/-- A request as an attempt that answers with the tree after it. -/
def attempt (tree : RangeTree Float) (request : Request) : Attempt (Bool × RangeTree Float) :=
  ExceptT.mk do
    let (answer, after) ← tree.respond Region.ofPolygon request
    return answer.map fun inserted => (inserted, after)

/-- A polygon placed in the grid: whether its cells are selected, and the tree after it. -/
def insert (tree : RangeTree Float) (polygon : Polygon Float) :
    Attempt (Bool × RangeTree Float) :=
  tree.attempt (.polygon polygon)

/-- The polygon with the given vertices placed in the grid. -/
def insertVertices (tree : RangeTree Float) (vertices : List (Point Float)) :
    Attempt (Bool × RangeTree Float) :=
  tree.attempt (.vertices vertices)

end RangeTree

end ZGrid
