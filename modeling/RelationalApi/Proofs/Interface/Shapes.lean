import Mathlib.Data.List.Nodup
import Mathlib.Data.List.Perm.Subperm
import RelationalApi.Interface.Shape
import RelationalApi.Proofs.Catalog.Validity

/-!
# Shapes of a schema

What a walk over shapes does is said here without any bound on the number of relations that it
follows.  Every shape that is marked on the way is finished exactly once, and the children of a
finished shape are marked.  Over finitely many shapes a walk comes to its end: every shape that it
enters is marked before, so as many relations as there are shapes are all that it can follow one
after another.

The shapes of a valid schema are found by such a walk, since there are only finitely many tables and
numbers of relations to follow.  No shape is found twice, the shapes of whole selects are among
them, and every relation of a shape leads to one of them.
-/

namespace RelationalApi

/-! ## Walks -/

namespace ShapeWalk

/-- What it means to visit shapes one after another.  A shape is marked, its children are visited,
and it is finished after them.  Derivations are finite, so a walk that has one comes to its end. -/
inductive Visits (schema : Schema) : ShapeWalk -> List Shape -> ShapeWalk -> Prop
  | done {walk : ShapeWalk} : Visits schema walk [] walk
  | marked
      {walk last : ShapeWalk}
      {shape : Shape}
      {shapes : List Shape}
      (isMarked : shape ∈ walk.marked)
      (others : Visits schema walk shapes last) :
      Visits schema walk (shape :: shapes) last
  | fresh
      {walk inner last : ShapeWalk}
      {shape : Shape}
      {shapes : List Shape}
      (notMarked : shape ∉ walk.marked)
      (children : Visits schema ⟨shape :: walk.marked, walk.finished⟩ (shape.children schema) inner)
      (others : Visits schema ⟨inner.marked, inner.finished ++ [shape]⟩ shapes last) :
      Visits schema walk (shape :: shapes) last

variable {schema : Schema} {walk last : ShapeWalk} {shapes : List Shape}

/-- The shapes that are marked on the way are the ones that are finished. -/
theorem Visits.exists_finished (visits : Visits schema walk shapes last) :
    ∃ fresh, last.finished = walk.finished ++ fresh ∧
      last.marked.Perm (fresh ++ walk.marked) := by
  induction visits with
  | done => exact ⟨[], (List.append_nil _).symm, .refl _⟩
  | marked _ _ inductionHypothesis => exact inductionHypothesis
  | @fresh walk inner last shape shapes _ _ _ childrenHypothesis othersHypothesis =>
      obtain ⟨below, finishedBelow, markedBelow⟩ := childrenHypothesis
      obtain ⟨later, finishedLater, markedLater⟩ := othersHypothesis
      refine ⟨below ++ shape :: later, ?_, ?_⟩
      · rw [finishedLater, finishedBelow]
        simp
      · rw [List.perm_iff_count] at markedBelow markedLater ⊢
        intro other
        have countBelow := markedBelow other
        have countLater := markedLater other
        simp only [List.count_append, List.count_cons] at countBelow countLater ⊢
        omega

theorem Visits.length_le (visits : Visits schema walk shapes last) :
    walk.marked.length ≤ last.marked.length := by
  obtain ⟨fresh, _, marked⟩ := visits.exists_finished
  rw [marked.length_eq, List.length_append]
  omega

theorem Visits.mem_marked
    (visits : Visits schema walk shapes last)
    {shape : Shape}
    (member : shape ∈ walk.marked) :
    shape ∈ last.marked := by
  obtain ⟨fresh, _, marked⟩ := visits.exists_finished
  exact marked.mem_iff.2 (List.mem_append_right _ member)

/-- No shape is marked twice. -/
theorem Visits.nodup
    (visits : Visits schema walk shapes last)
    (distinct : walk.marked.Nodup) :
    last.marked.Nodup := by
  induction visits with
  | done => exact distinct
  | marked _ _ inductionHypothesis => exact inductionHypothesis distinct
  | fresh notMarked _ _ childrenHypothesis othersHypothesis =>
      exact othersHypothesis (childrenHypothesis (List.nodup_cons.2 ⟨notMarked, distinct⟩))

/-- What holds of the visited shapes, and of the children of every shape that it holds of, holds of
all marked shapes. -/
theorem Visits.forall_marked
    {motive : Shape -> Prop}
    (visits : Visits schema walk shapes last)
    (step : ∀ shape, motive shape -> ∀ child ∈ shape.children schema, motive child)
    (start : ∀ shape ∈ walk.marked, motive shape)
    (visited : ∀ shape ∈ shapes, motive shape) :
    ∀ shape ∈ last.marked, motive shape := by
  induction visits with
  | done => exact start
  | marked _ _ inductionHypothesis =>
      exact inductionHypothesis start (List.forall_mem_cons.1 visited).2
  | fresh _ _ _ childrenHypothesis othersHypothesis =>
      obtain ⟨first, later⟩ := List.forall_mem_cons.1 visited
      refine othersHypothesis ?_ later
      exact childrenHypothesis (List.forall_mem_cons.2 ⟨first, start⟩) (step _ first)

/-- At the end all visited shapes are marked, and the children of a marked shape are marked unless
the shape was entered before. -/
theorem Visits.closed (visits : Visits schema walk shapes last) :
    (∀ shape ∈ shapes, shape ∈ last.marked) ∧
      ∀ shape ∈ last.marked, shape ∈ walk.marked ∨
        ∀ child ∈ shape.children schema, child ∈ last.marked := by
  induction visits with
  | done => exact ⟨by simp, fun shape member => .inl member⟩
  | marked isMarked others inductionHypothesis =>
      exact ⟨List.forall_mem_cons.2 ⟨others.mem_marked isMarked, inductionHypothesis.1⟩,
        inductionHypothesis.2⟩
  | @fresh walk inner last shape shapes _ children others childrenHypothesis othersHypothesis =>
      have shapeMarked : shape ∈ last.marked :=
        others.mem_marked (children.mem_marked List.mem_cons_self)
      refine ⟨List.forall_mem_cons.2 ⟨shapeMarked, othersHypothesis.1⟩, ?_⟩
      intro other member
      rcases othersHypothesis.2 other member with early | closed
      · rcases childrenHypothesis.2 other early with entered | closed
        · rcases List.mem_cons.1 entered with rfl | before
          · exact .inr fun child isChild => others.mem_marked (childrenHypothesis.1 child isChild)
          · exact .inl before
        · exact .inr fun child isChild => others.mem_marked (closed child isChild)
      · exact .inr closed

/-- A walk within finitely many shapes comes to its end when its fuel exceeds the number of shapes
that are not marked yet. -/
theorem visits_foldl_visit
    {bounds : List Shape}
    (closed : ∀ shape ∈ bounds, ∀ child ∈ shape.children schema, child ∈ bounds)
    (fuel : Nat)
    (within : ∀ shape ∈ shapes, shape ∈ bounds)
    (markedWithin : ∀ shape ∈ walk.marked, shape ∈ bounds)
    (distinct : walk.marked.Nodup)
    (enough : bounds.length < walk.marked.length + fuel) :
    Visits schema walk shapes (shapes.foldl (visit schema fuel) walk) := by
  induction fuel generalizing walk shapes with
  | zero =>
      have few : walk.marked.length ≤ bounds.length :=
        (distinct.subperm markedWithin).length_le
      omega
  | succ fuel fuelHypothesis =>
      induction shapes generalizing walk with
      | nil => exact .done
      | cons shape shapes shapesHypothesis =>
          obtain ⟨shapeWithin, othersWithin⟩ := List.forall_mem_cons.1 within
          rw [List.foldl_cons, visit]
          by_cases isMarked : shape ∈ walk.marked
          · rw [if_pos (List.contains_iff_mem.2 isMarked)]
            exact .marked isMarked (shapesHypothesis othersWithin markedWithin distinct enough)
          · rw [if_neg (mt List.contains_iff_mem.1 isMarked)]
            have enteredWithin : ∀ other ∈ shape :: walk.marked, other ∈ bounds :=
              List.forall_mem_cons.2 ⟨shapeWithin, markedWithin⟩
            have enteredDistinct : (shape :: walk.marked).Nodup :=
              List.nodup_cons.2 ⟨isMarked, distinct⟩
            -- Marking the shape pays for the relation that is followed to its children.
            have children := @fuelHypothesis ⟨shape :: walk.marked, walk.finished⟩
              (shape.children schema) (closed shape shapeWithin) enteredWithin enteredDistinct
              (by simp only [List.length_cons]; omega)
            refine .fresh isMarked children (shapesHypothesis othersWithin ?_ ?_ ?_)
            · exact children.forall_marked closed enteredWithin (closed shape shapeWithin)
            · exact children.nodup enteredDistinct
            · have grown := children.length_le
              simp only [List.length_cons] at grown
              simp only
              omega

/-- A walk from nothing finishes each marked shape once. -/
theorem Visits.finished_perm
    (visits : Visits schema ⟨[], []⟩ shapes last) :
    last.finished.Perm last.marked := by
  obtain ⟨fresh, finished, marked⟩ := visits.exists_finished
  rw [List.nil_append] at finished
  rw [List.append_nil] at marked
  exact finished ▸ marked.symm

end ShapeWalk

/-! ## Shapes of a valid schema -/

/-- A limit, if there is one, admits a number of relations followed one after another. -/
def Within (limit : Option Nat) (count : Nat) : Prop :=
  ∀ most, limit = some most -> count ≤ most

instance (limit : Option Nat) (count : Nat) : Decidable (Within limit count) :=
  match limit with
  | none => .isTrue fun _ impossible => nomatch impossible
  | some most => decidable_of_iff (count ≤ most) (by simp [Within])

theorem within_none (count : Nat) : Within none count :=
  fun _ impossible => nomatch impossible

@[simp] theorem within_some (most count : Nat) : Within (some most) count ↔ count ≤ most := by
  simp [Within]

/-- The numbers of relations that may still be followed under a limit. -/
def remainders : Option Nat -> List (Option Nat)
  | none => [none]
  | some limit => (List.range (limit + 1)).map some

theorem limit_mem_remainders (limit : Option Nat) : limit ∈ remainders limit := by
  cases limit <;> simp [remainders]

theorem pred_mem_remainders
    {limit remaining : Option Nat}
    (member : remaining ∈ remainders limit) :
    remaining.map (· - 1) ∈ remainders limit := by
  cases limit with
  | none =>
      rw [remainders, List.mem_singleton] at member
      rw [member]
      simp [remainders]
  | some limit =>
      simp only [remainders, List.mem_map, List.mem_range] at member ⊢
      obtain ⟨left, small, rfl⟩ := member
      exact ⟨left - 1, by omega, rfl⟩

namespace Shape

/-- A relation of a shape is one of its table, and leads to a shape of its target. -/
theorem exists_relation
    {schema : Schema}
    {shape child : Shape}
    (member : child ∈ shape.children schema) :
    ∃ relation ∈ schema.relationsOf shape.table, child = shape.follow relation := by
  rw [children, relations] at member
  obtain ⟨relation, related, rfl⟩ := List.mem_map.1 member
  split at related
  · simp at related
  · exact ⟨relation, related, rfl⟩

end Shape

namespace Schema

variable {schema : Schema} {limit : Option Nat} {shape child : Shape} {table : Table}

/-- The shapes that there can be: each table with each number of relations that may still be
followed. -/
def possibleShapes (schema : Schema) (limit : Option Nat) : List Shape :=
  schema.tables.flatMap fun table => (remainders limit).map (Shape.mk table.name)

theorem length_possibleShapes (schema : Schema) (limit : Option Nat) :
    (schema.possibleShapes limit).length = schema.shapeBound limit := by
  rw [possibleShapes]
  cases limit <;>
    simp [shapeBound, remainders, List.length_flatMap, List.map_const']

theorem mem_possibleShapes :
    shape ∈ schema.possibleShapes limit ↔
      (∃ table ∈ schema.tables, table.name = shape.table) ∧
        shape.remaining ∈ remainders limit := by
  rw [possibleShapes, List.mem_flatMap]
  constructor
  · rintro ⟨table, member, isShape⟩
    obtain ⟨remaining, isRemainder, rfl⟩ := List.mem_map.1 isShape
    exact ⟨⟨table, member, rfl⟩, isRemainder⟩
  · rintro ⟨⟨table, member, sameName⟩, isRemainder⟩
    exact ⟨table, member, List.mem_map.2 ⟨shape.remaining, isRemainder, by rw [sameName]⟩⟩

/-- Relations of a valid schema do not lead out of the possible shapes. -/
theorem child_mem_possibleShapes
    (valid : schema.validate = .ok ())
    (member : shape ∈ schema.possibleShapes limit)
    (isChild : child ∈ shape.children schema) :
    child ∈ schema.possibleShapes limit := by
  obtain ⟨⟨table, tableMember, sameName⟩, isRemainder⟩ := mem_possibleShapes.1 member
  obtain ⟨relation, related, rfl⟩ := Shape.exists_relation isChild
  rw [← sameName] at related
  obtain ⟨_, target, targetMember, sameTarget⟩ := relation_of_valid valid tableMember related
  exact mem_possibleShapes.2 ⟨⟨target, targetMember, sameTarget⟩, pred_mem_remainders isRemainder⟩

theorem mem_topShapes :
    shape ∈ schema.topShapes limit ↔
      ∃ table ∈ schema.tables, (⟨table.name, limit⟩ : Shape) = shape := by
  rw [topShapes, List.mem_map]

theorem topShape_mem_possibleShapes (member : shape ∈ schema.topShapes limit) :
    shape ∈ schema.possibleShapes limit := by
  obtain ⟨table, tableMember, rfl⟩ := mem_topShapes.1 member
  exact mem_possibleShapes.2 ⟨⟨table, tableMember, rfl⟩, limit_mem_remainders limit⟩

/-- The walk from the shapes of whole selects comes to its end, and finishes the shapes of the
schema. -/
theorem visits_shapes (valid : schema.validate = .ok ()) (limit : Option Nat) :
    ∃ marked, ShapeWalk.Visits schema ⟨[], []⟩ (schema.topShapes limit)
      ⟨marked, schema.shapes limit⟩ := by
  refine ⟨_, ShapeWalk.visits_foldl_visit ?_ (schema.shapeBound limit + 1)
    (fun shape => topShape_mem_possibleShapes) (by simp) .nil ?_⟩
  · exact fun shape member child isChild => child_mem_possibleShapes valid member isChild
  · rw [length_possibleShapes, List.length_nil]
    omega

/-- No shape is found twice. -/
theorem nodup_shapes (valid : schema.validate = .ok ()) (limit : Option Nat) :
    (schema.shapes limit).Nodup := by
  obtain ⟨marked, visits⟩ := visits_shapes valid limit
  exact visits.finished_perm.nodup_iff.2 (visits.nodup .nil)

theorem topShape_mem_shapes
    (valid : schema.validate = .ok ())
    (limit : Option Nat)
    (member : table ∈ schema.tables) :
    ⟨table.name, limit⟩ ∈ schema.shapes limit := by
  obtain ⟨marked, visits⟩ := visits_shapes valid limit
  refine visits.finished_perm.mem_iff.2 (visits.closed.1 _ ?_)
  exact mem_topShapes.2 ⟨table, member, rfl⟩

/-- The relations of a shape lead to shapes. -/
theorem child_mem_shapes
    (valid : schema.validate = .ok ())
    (member : shape ∈ schema.shapes limit)
    (isChild : child ∈ shape.children schema) :
    child ∈ schema.shapes limit := by
  obtain ⟨marked, visits⟩ := visits_shapes valid limit
  have marksShape := visits.finished_perm.mem_iff.1 member
  have marksChild := (visits.closed.2 shape marksShape).resolve_left (List.not_mem_nil)
  exact visits.finished_perm.mem_iff.2 (marksChild child isChild)

theorem mem_possibleShapes_of_mem_shapes
    (valid : schema.validate = .ok ())
    (member : shape ∈ schema.shapes limit) :
    shape ∈ schema.possibleShapes limit := by
  obtain ⟨marked, visits⟩ := visits_shapes valid limit
  refine visits.forall_marked ?_ (by simp) (fun shape => topShape_mem_possibleShapes) shape
    (visits.finished_perm.mem_iff.1 member)
  exact fun shape member child isChild => child_mem_possibleShapes valid member isChild

/-- Without a limit every table has exactly one shape. -/
theorem countP_shapes_none
    (valid : schema.validate = .ok ())
    (member : table ∈ schema.tables) :
    (schema.shapes none).countP (·.table == table.name) = 1 := by
  have isShape : ∀ shape ∈ schema.shapes none,
      (shape.table == table.name) = true ↔ (shape == ⟨table.name, none⟩) = true := by
    intro shape shapeMember
    have possible := (mem_possibleShapes.1 (mem_possibleShapes_of_mem_shapes valid shapeMember)).2
    rw [remainders, List.mem_singleton] at possible
    obtain ⟨name, remaining⟩ := shape
    simp only at possible
    simp [possible]
  rw [List.countP_congr isShape]
  exact List.count_eq_one_of_mem (nodup_shapes valid none) (topShape_mem_shapes valid none member)

end Schema
end RelationalApi
