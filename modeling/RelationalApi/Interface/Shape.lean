import RelationalApi.Catalog.Schema
import RelationalApi.Interface.Inputs

/-!
# Select shapes

The type of selected rows depends on the table and on how many relations may still be followed.
Such a pair is a shape.  Without a limit every table has one shape, and a cycle of relations leads
back to it; with a limit every step along a relation leads to a shape with one relation less to
follow, until none is left.

The shapes that can be reached from a table are visited in depth first order.  A shape is marked
before its relations are followed and finished after them, so a cycle meets a mark; types are
defined in the order in which their shapes are finished.
-/

namespace RelationalApi

/-- A table together with the number of relations that may still be followed, if limited. -/
structure Shape where
  table : String
  remaining : Option Nat
  deriving Repr, DecidableEq, Inhabited

namespace Shape

/-- The name of the type of a shape.  Shapes that have used up relations carry their level. -/
def typeName (limit : Option Nat) (shape : Shape) : String :=
  match shape.remaining, limit with
  | some remaining, some limit =>
    if remaining < limit then
      typePrefix shape.table ++ "Level" ++ toString remaining ++ "SelectItem"
    else typePrefix shape.table ++ "SelectItem"
  | _, _ => typePrefix shape.table ++ "SelectItem"

/-- The relations that may be followed. -/
def relations (schema : Schema) (shape : Shape) : List Relation :=
  if shape.remaining = some 0 then [] else schema.relationsOf shape.table

/-- The relation of a name, if it may be followed. -/
def relation? (schema : Schema) (shape : Shape) (name : String) : Option Relation :=
  (shape.relations schema).find? fun relation => relation.name == name

/-- The shape that a relation leads to. -/
def follow (shape : Shape) (relation : Relation) : Shape :=
  ⟨relation.target, shape.remaining.map (· - 1)⟩

/-- The shapes that the relations lead to. -/
def children (schema : Schema) (shape : Shape) : List Shape :=
  (shape.relations schema).map shape.follow

end Shape

/-- The marked shapes, and the finished ones in the order in which they were finished. -/
structure ShapeWalk where
  marked : List Shape
  finished : List Shape
  deriving Repr, Inhabited

namespace ShapeWalk

/-- Visits a shape and all that can be reached from it over unmarked shapes.  The fuel bounds the
number of relations followed one after another. -/
def visit (schema : Schema) : Nat → ShapeWalk → Shape → ShapeWalk
  | 0, walk, _ => walk
  | fuel + 1, walk, shape =>
    if walk.marked.contains shape then walk
    else
      let inner := (shape.children schema).foldl (visit schema fuel)
        ⟨shape :: walk.marked, walk.finished⟩
      ⟨inner.marked, inner.finished ++ [shape]⟩

end ShapeWalk

namespace Schema

/-- The number of shapes that there can be. -/
def shapeBound (schema : Schema) (limit : Option Nat) : Nat :=
  schema.tables.length * match limit with
    | some limit => limit + 1
    | none => 1

/-- The shapes of whole selects, one for each table. -/
def topShapes (schema : Schema) (limit : Option Nat) : List Shape :=
  schema.tables.map fun table => ⟨table.name, limit⟩

/-- All shapes that can be reached from whole selects, in the order in which they are finished. -/
def shapes (schema : Schema) (limit : Option Nat) : List Shape :=
  ((schema.topShapes limit).foldl
    (ShapeWalk.visit schema (schema.shapeBound limit + 1)) ⟨[], []⟩).finished

/-- Extends a list of shapes by the new ones among the children of the pending shapes, level by
level.  The fuel bounds the number of shapes. -/
def breadthFirst (schema : Schema) (found : List Shape) : Nat → List Shape → List Shape
  | 0, _ => found
  | _ + 1, [] => found
  | fuel + 1, shape :: pending =>
    let fresh := ((shape.children schema).filter fun child => !found.contains child).eraseDups
    breadthFirst schema (found ++ fresh) fuel (pending ++ fresh)

/-- All shapes that can be reached from whole selects, nearest first. -/
def shapesByDistance (schema : Schema) (limit : Option Nat) : List Shape :=
  let top := schema.topShapes limit
  schema.breadthFirst top (schema.shapeBound limit + 1) top

end Schema

/-- The field of a relation in the type of a shape. -/
def relationField (limit : Option Nat) (shape : Shape) (relation : Relation) : OutputField :=
  let object := TypeRef.named ((shape.follow relation).typeName limit)
  let filter : InputField := ⟨"where", .named (filtersName relation.target), none⟩
  let orderBy : InputField := ⟨"orderBy", .named (orderByName relation.target), none⟩
  match relation.cardinality with
  | .one => { name := relation.name, type := object, arguments := [filter, orderBy] }
  | .many =>
    { name := relation.name
      type := .nonNull (.list (.nonNull object))
      arguments := [filter, orderBy, ⟨"offset", .named "Int", none⟩, ⟨"limit", .named "Int", none⟩] }

/-- The type of a shape: the columns of its table and then its relations. -/
def shapeDefinition (schema : Schema) (limit : Option Nat) (columns : List ColumnCodec)
    (shape : Shape) : TypeDefinition :=
  { name := shape.typeName limit
    content := .object <|
      columnFields columns ++ (shape.relations schema).map (relationField limit shape) }

end RelationalApi
