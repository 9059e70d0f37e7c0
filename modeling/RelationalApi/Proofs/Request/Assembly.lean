import RelationalApi.Interface.Generation
import RelationalApi.Proofs.Catalog.Assembly
import RelationalApi.Proofs.Request.DepthLimit

/-!
# Interfaces and requests under schemas that are alike

Types are registered along a walk through the relations of a schema, and the registration depends on
the order of the walk.  The walk only asks for the relations of one source at a time, so schemas
that are alike have one interface, up to the schema that it keeps.

Requests ask the schema that an interface keeps only for the relation of a name at a source.  So
every call compiles to the same request, or fails with the same fault, in whatever order the schema
was assembled.
-/

namespace RelationalApi

open Outcome

/-! ## Interfaces -/

/-- An interface that keeps another schema. -/
def Interface.withSchema (interface : Interface) (schema : Schema) : Interface :=
  { interface with schema := schema }

namespace Schema

variable {schema other : Schema} (alike : schema.Alike other)
include alike

theorem Alike.relations_eq (shape : Shape) : shape.relations schema = shape.relations other := by
  rw [Shape.relations, Shape.relations, alike.relationsOf_eq]

theorem Alike.relation?_eq (shape : Shape) (name : String) :
    shape.relation? schema name = shape.relation? other name := by
  rw [Shape.relation?, Shape.relation?, alike.relations_eq]

/-- A visit goes the same ways and finishes shapes in the same order. -/
theorem Alike.visit_eq (fuel : Nat) :
    ShapeWalk.visit schema fuel = ShapeWalk.visit other fuel := by
  induction fuel with
  | zero => rfl
  | succ fuel inductionHypothesis =>
      funext walk shape
      rw [ShapeWalk.visit, ShapeWalk.visit, Shape.children, Shape.children, alike.relations_eq,
        inductionHypothesis]

theorem Alike.shapes_eq (limit : Option Nat) : schema.shapes limit = other.shapes limit := by
  have sameBound : schema.shapeBound limit = other.shapeBound limit := by
    unfold shapeBound
    rw [alike.tables_eq]
  rw [shapes, shapes, topShapes, topShapes, alike.tables_eq, sameBound, alike.visit_eq]

theorem Alike.shapeDefinition_eq
    (limit : Option Nat)
    (columns : List ColumnCodec)
    (shape : Shape) :
    shapeDefinition schema limit columns shape = shapeDefinition other limit columns shape := by
  rw [shapeDefinition, shapeDefinition, alike.relations_eq]

/-- Schemas that are alike have the same interface, up to the schema it keeps, or the same fault. -/
theorem Alike.generate_alike (config : EngineConfig) :
    EndAlike (fun interface otherInterface => otherInterface = interface.withSchema other)
      (Interface.generate schema config) (Interface.generate other config) := by
  rw [Interface.generate, Interface.generate]
  simp only [alike.validate_eq, alike.tables_eq, alike.shapes_eq, alike.shapeDefinition_eq]
  -- From here on both take the same steps, and only the schema that is kept differs.
  refine EndAlike.after _ fun _ => EndAlike.after _ fun _ => EndAlike.after _ fun _ => ?_
  refine EndAlike.after _ fun _ => EndAlike.after _ fun _ => EndAlike.after _ fun _ => ?_
  exact EndAlike.after _ fun _ => .ok rfl

end Schema

/-! ## Requests -/

namespace Interface

variable {interface : Interface} {other : Schema}

@[simp] theorem typesAt_withSchema (table path : String) :
    (interface.withSchema other).typesAt table path = interface.typesAt table path := rfl

@[simp] theorem shapeTypeName_withSchema (shape : Shape) :
    (interface.withSchema other).shapeTypeName shape = interface.shapeTypeName shape := rfl

theorem relationAt_withSchema
    (alike : interface.schema.Alike other)
    (shape : Option Shape)
    (path name : String) :
    (interface.withSchema other).relationAt shape path name =
      interface.relationAt shape path name := by
  rw [relationAt, relationAt]
  simp only [withSchema, alike.relation?_eq]

-- The recursion follows the selection.
mutual

/-- A field is pruned alike. -/
theorem pruneField_withSchema (alike : interface.schema.Alike other) :
    (field : SelectedField) -> ∀ types shape path plan,
      (interface.withSchema other).pruneField types shape path plan field =
        interface.pruneField types shape path plan field
  | ⟨name, label, arguments, selection⟩, types, shape, path, plan => by
      simp only [pruneField, relationAt_withSchema alike, typesAt_withSchema,
        shapeTypeName_withSchema, pruneFields_withSchema alike selection]

theorem pruneFields_withSchema (alike : interface.schema.Alike other) :
    (fields : List SelectedField) -> ∀ types shape path plan,
      (interface.withSchema other).pruneFields types shape path plan fields =
        interface.pruneFields types shape path plan fields
  | [], types, shape, path, plan => by rw [pruneFields, pruneFields]
  | field :: fields, types, shape, path, plan => by
      simp only [pruneFields, pruneField_withSchema alike field,
        pruneFields_withSchema alike fields]

end

section Compilation

variable (alike : interface.schema.Alike other)
include alike

theorem prune_withSchema (shape : Shape) (path : String) (selection : Selection) :
    (interface.withSchema other).prune shape path selection =
      interface.prune shape path selection := by
  simp only [prune, typesAt_withSchema, shapeTypeName_withSchema, pruneFields_withSchema alike]

theorem mutationPlan_withSchema (operation : Operation) (selection : Selection) :
    (interface.withSchema other).mutationPlan operation selection =
      interface.mutationPlan operation selection := by
  simp only [mutationPlan, pruneItem, typesAt_withSchema, pruneFields_withSchema alike]
  rfl

theorem compileSelect_withSchema
    (types : TableTypes)
    (operation : Operation)
    (arguments : SelectArguments)
    (selection : Selection) :
    (interface.withSchema other).compileSelect types operation arguments selection =
      interface.compileSelect types operation arguments selection := by
  have sameQuery : ∀ (plan : SelectionPlan) arguments,
      plan.toQuery (interface.withSchema other) types arguments "" =
        plan.toQuery interface types arguments "" :=
    fun _ arguments => toQuery_eq_of_bare typesAt_withSchema rfl types arguments ""
  simp only [compileSelect, prune_withSchema alike, sameQuery]
  rfl

theorem compileArguments_withSchema
    (types : TableTypes)
    (operation : Operation)
    (arguments : OperationArguments)
    (selection : Selection) :
    (interface.withSchema other).compileArguments types operation arguments selection =
      interface.compileArguments types operation arguments selection := by
  cases arguments with
  | select arguments => exact compileSelect_withSchema alike types operation arguments selection
  | insert rows =>
      rw [compileArguments, compileArguments, mutationPlan_withSchema alike]
      rfl
  | update entries document =>
      rw [compileArguments, compileArguments, mutationPlan_withSchema alike]
  | delete document =>
      rw [compileArguments, compileArguments, mutationPlan_withSchema alike]

/-- Every call compiles alike. -/
theorem compile_withSchema (name : String) (arguments : JsonEntries) (selection : Selection) :
    (interface.withSchema other).compile name arguments selection =
      interface.compile name arguments selection := by
  simp only [compile, compileArguments_withSchema alike, typesAt_withSchema]
  rfl

end Compilation

/-- The order in which a schema is assembled has no bearing on its validity, nor on the interface
that is derived from it: not on its text, its operations, or what any call compiles to. -/
theorem assembly_order_is_immaterial
    {left right : List SchemaPart}
    (same : SameParts left right)
    (config : EngineConfig) :
    (Schema.assemble left).validate = (Schema.assemble right).validate ∧
      EndAlike (fun first second : Interface =>
          first.toText = second.toText ∧ first.operations = second.operations ∧
            ∀ name arguments selection,
              first.compile name arguments selection = second.compile name arguments selection)
        (generate (Schema.assemble left) config) (generate (Schema.assemble right) config) := by
  have alike := Schema.alike_assemble same
  refine ⟨alike.validate_eq, (alike.generate_alike config).mono ?_⟩
  rintro first _ generated rfl
  rw [← (represents_of_generate generated).schema_eq] at alike
  exact ⟨rfl, rfl, fun name arguments selection =>
    (compile_withSchema alike name arguments selection).symm⟩

/-- Users and their posts, with a relation in each direction. -/
def postsOfUsers : List SchemaPart :=
  [ .table
      { name := "users"
        columns := [{ name := "id", kind := .integer 32 false, primaryKey := true }] },
    .table
      { name := "posts"
        columns :=
          [ { name := "id", kind := .integer 32 false, primaryKey := true },
            { name := "user_id", kind := .integer 32 false } ] },
    .relation
      { name := "posts", source := "users", target := "posts", cardinality := .many
        fromColumn := some "id", toColumn := some "user_id" },
    .relation
      { name := "author", source := "posts", target := "users", cardinality := .one
        fromColumn := some "user_id", toColumn := some "id" } ]

/-- Backwards, relations come before their tables, but no two of them have one source. -/
theorem sameParts_reverse : SameParts postsOfUsers postsOfUsers.reverse := by
  refine ⟨(List.reverse_perm postsOfUsers).symm, by decide, fun source => ?_⟩
  by_cases ofUsers : source = "users"
  · subst ofUsers
    rfl
  · by_cases ofPosts : source = "posts"
    · subst ofPosts
      rfl
    · simp [relationsAmong, postsOfUsers, List.filterMap_cons, SchemaPart.relation?,
        Ne.symm ofUsers, Ne.symm ofPosts]

theorem assembly_order_is_immaterial_reverse :
    ∃ first second, generate (Schema.assemble postsOfUsers) {} = .ok first ∧
      generate (Schema.assemble postsOfUsers.reverse) {} = .ok second ∧
      first.toText = second.toText ∧ first.operations = second.operations ∧
      ∀ name arguments selection,
        first.compile name arguments selection = second.compile name arguments selection := by
  have succeeds : (generate (Schema.assemble postsOfUsers) {}).toOption.isSome = true := by
    decide +kernel
  obtain ⟨first, generated⟩ := Option.isSome_iff_exists.1 succeeds
  rw [toOption_eq_some] at generated
  have alike := (assembly_order_is_immaterial sameParts_reverse {}).2
  rw [generated] at alike
  generalize otherGenerated : generate (Schema.assemble postsOfUsers.reverse) {} = other at alike
  cases alike with
  | ok holds => exact ⟨first, _, generated, rfl, holds⟩

end Interface
end RelationalApi
