import Mathlib.Data.List.Sort
import RelationalApi.Proofs.Catalog.Validity

/-!
# Assembly of schemas

A schema is assembled from tables and relations, one after another.  Tables find their places by
their names, so it does not matter when they are put in.  Relations stay in the order in which they
are added, but every use of them starts from one source, so only the relations of one source have an
order that matters.
-/

namespace RelationalApi

open Outcome

/-- What a schema is assembled from. -/
inductive SchemaPart where
  | table (table : Table)
  | relation (relation : Relation)

namespace SchemaPart

def table? : SchemaPart -> Option Table
  | table added => some added
  | relation _ => none

def relation? : SchemaPart -> Option Relation
  | table _ => none
  | relation added => some added

end SchemaPart

/-- The tables among parts, in order. -/
def tablesAmong (parts : List SchemaPart) : List Table :=
  parts.filterMap SchemaPart.table?

/-- The relations of a source among parts, in order. -/
def relationsAmong (source : String) (parts : List SchemaPart) : List Relation :=
  (parts.filterMap SchemaPart.relation?).filter fun relation => relation.source == source

/-- Two orders of one collection of parts, whose tables have names of their own, and which keep the
relations of each source in order. -/
structure SameParts (left right : List SchemaPart) : Prop where
  permuted : left.Perm right
  names_nodup : ((tablesAmong left).map (·.name)).Nodup
  relations_eq : ∀ source, relationsAmong source left = relationsAmong source right

namespace Schema

/-- Adds a part to a schema. -/
def withPart (schema : Schema) : SchemaPart -> Schema
  | .table table => schema.withTable table
  | .relation relation => schema.withRelation relation

/-- The schema of parts that are added in order. -/
def assemble (parts : List SchemaPart) : Schema :=
  parts.foldl withPart empty

/-- Two schemas have the same tables, and the same relations at every source. -/
structure Alike (schema other : Schema) : Prop where
  tables_eq : schema.tables = other.tables
  relationsOf_eq : ∀ source, schema.relationsOf source = other.relationsOf source

/-! ## Tables -/

/-- A table under a new name joins the others. -/
theorem mem_insertTable_iff
    {table other : Table}
    {tables : List Table}
    (isNew : ∀ first ∈ tables, first.name ≠ table.name) :
    other ∈ insertTable table tables ↔ other = table ∨ other ∈ tables := by
  induction tables with
  | nil => rw [insertTable, List.mem_singleton, or_iff_left List.not_mem_nil]
  | cons first tables inductionHypothesis =>
      rw [List.forall_mem_cons] at isNew
      rw [insertTable, if_neg (Ne.symm isNew.1)]
      split
      · exact List.mem_cons
      · rw [List.mem_cons, List.mem_cons, inductionHypothesis isNew.2, or_left_comm]

/-- Tables with names of their own are all kept, whatever their order. -/
theorem mem_foldl_insertTable
    {added tables : List Table}
    {other : Table}
    (distinct : (added.map (·.name)).Nodup)
    (areNew : ∀ table ∈ added, ∀ first ∈ tables, first.name ≠ table.name) :
    other ∈ added.foldl (fun tables table => insertTable table tables) tables ↔
      other ∈ added ∨ other ∈ tables := by
  induction added generalizing tables with
  | nil => rw [List.foldl_nil, or_iff_right List.not_mem_nil]
  | cons table added inductionHypothesis =>
      rw [List.map_cons, List.nodup_cons] at distinct
      rw [List.forall_mem_cons] at areNew
      have laterNew : ∀ later ∈ added, ∀ first ∈ insertTable table tables,
          first.name ≠ later.name := by
        intro later isLater first member sameName
        rcases mem_insertTable member with rfl | before
        · exact distinct.1 (List.mem_map.2 ⟨later, isLater, sameName.symm⟩)
        · exact areNew.2 later isLater first before sameName
      rw [List.foldl_cons, inductionHypothesis distinct.2 laterNew, mem_insertTable_iff areNew.1,
        List.mem_cons, or_left_comm, or_assoc]

theorem tables_foldl_withPart (parts : List SchemaPart) (schema : Schema) :
    (parts.foldl withPart schema).tables =
      (tablesAmong parts).foldl (fun tables table => insertTable table tables) schema.tables := by
  induction parts generalizing schema with
  | nil => rfl
  | cons part parts inductionHypothesis =>
      rw [List.foldl_cons, inductionHypothesis]
      cases part with
      | table table => rfl
      | relation relation => rfl

theorem mem_tables_assemble
    {parts : List SchemaPart}
    {table : Table}
    (distinct : ((tablesAmong parts).map (·.name)).Nodup) :
    table ∈ (assemble parts).tables ↔ table ∈ tablesAmong parts := by
  have noneBefore : ∀ added ∈ tablesAmong parts, ∀ first ∈ empty.tables,
      first.name ≠ added.name :=
    fun _ _ _ member => absurd member List.not_mem_nil
  rw [assemble, tables_foldl_withPart, mem_foldl_insertTable distinct noneBefore]
  exact or_iff_left List.not_mem_nil

/-- A schema has no tables but those that were put into it. -/
theorem mem_tablesAmong_of_mem_assemble
    {parts : List SchemaPart}
    {table : Table}
    (member : table ∈ (assemble parts).tables) :
    table ∈ tablesAmong parts := by
  rw [assemble, tables_foldl_withPart] at member
  refine List.foldlRecOn (tablesAmong parts) _
    (motive := fun tables => ∀ table ∈ tables, table ∈ tablesAmong parts) ?_ ?_ table member
  · exact List.forall_mem_nil _
  · intro tables areAmong added isAdded table isMember
    rcases mem_insertTable isMember with rfl | before
    · exact isAdded
    · exact areAmong table before

/-- Tables in ascending order are determined by what is among them. -/
theorem eq_of_tablesOrdered
    {tables others : List Table}
    (ordered : TablesOrdered tables)
    (othersOrdered : TablesOrdered others)
    (sameMembers : ∀ table, table ∈ tables ↔ table ∈ others) :
    tables = others := by
  have irreflexive : Std.Irrefl fun left right : Table => left.name < right.name :=
    ⟨fun table => String.lt_irrefl table.name⟩
  have antisymmetric : Std.Antisymm fun left right : Table => left.name < right.name :=
    ⟨fun _ _ before after => absurd (String.lt_trans before after) (String.lt_irrefl _)⟩
  exact ordered.eq_of_mem_iff othersOrdered sameMembers

/-! ## Relations -/

theorem relations_foldl_withPart (parts : List SchemaPart) (schema : Schema) :
    (parts.foldl withPart schema).relations =
      schema.relations ++ parts.filterMap SchemaPart.relation? := by
  induction parts generalizing schema with
  | nil => exact (List.append_nil _).symm
  | cons part parts inductionHypothesis =>
      rw [List.foldl_cons, inductionHypothesis]
      cases part with
      | table table => rfl
      | relation relation => exact List.append_assoc _ _ _

theorem relationsOf_assemble (parts : List SchemaPart) (source : String) :
    (assemble parts).relationsOf source = relationsAmong source parts := by
  rw [relationsOf, assemble, relations_foldl_withPart]
  rfl

/-- The order of parts does not matter beyond that of the relations of one source. -/
theorem alike_assemble
    {left right : List SchemaPart}
    (same : SameParts left right) :
    (assemble left).Alike (assemble right) := by
  have permuted : (tablesAmong left).Perm (tablesAmong right) :=
    same.permuted.filterMap SchemaPart.table?
  have otherDistinct := (permuted.map (·.name)).nodup same.names_nodup
  constructor
  · refine eq_of_tablesOrdered (assemble left).ordered (assemble right).ordered ?_
    intro table
    rw [mem_tables_assemble same.names_nodup, mem_tables_assemble otherDistinct, permuted.mem_iff]
  · intro source
    rw [relationsOf_assemble, relationsOf_assemble, same.relations_eq]

/-! ## Sources of relations -/

theorem insertName_ordered
    (name : String)
    {names : List String}
    (ordered : names.Pairwise (· < ·)) :
    (insertName name names).Pairwise (· < ·) := by
  induction names with
  | nil => exact List.pairwise_singleton _ _
  | cons first names inductionHypothesis =>
      have apart := List.pairwise_cons.1 ordered
      rw [insertName]
      split
      · rename_i smaller
        refine List.pairwise_cons.2 ⟨List.forall_mem_cons.2 ⟨smaller, ?_⟩, ordered⟩
        exact fun other member => String.lt_trans smaller (apart.1 other member)
      · split
        · exact ordered
        · rename_i notSmaller different
          refine List.pairwise_cons.2 ⟨?_, inductionHypothesis apart.2⟩
          intro other member
          rcases mem_insertName.1 member with rfl | later
          · exact Std.lt_of_le_of_ne (String.not_lt.1 notSmaller) (Ne.symm different)
          · exact apart.1 other later

theorem relationSources_ordered (schema : Schema) :
    schema.relationSources.Pairwise (· < ·) := by
  rw [relationSources]
  induction schema.relations with
  | nil => exact .nil
  | cons relation relations inductionHypothesis =>
      exact insertName_ordered relation.source inductionHypothesis

theorem Alike.relationSources_eq
    {schema other : Schema}
    (alike : schema.Alike other) :
    schema.relationSources = other.relationSources := by
  refine (relationSources_ordered schema).eq_of_mem_iff (relationSources_ordered other) ?_
  intro source
  rw [mem_relationSources_iff, mem_relationSources_iff, alike.relationsOf_eq]

/-! ## Validity -/

section Validity

variable {schema other : Schema} (alike : schema.Alike other)
include alike

theorem Alike.table?_eq (name : String) : schema.table? name = other.table? name := by
  rw [table?, table?, alike.tables_eq]

theorem Alike.validateRelation_eq
    (source : Table)
    (seen : List String)
    (relation : Relation) :
    schema.validateRelation source seen relation =
      other.validateRelation source seen relation := by
  rw [validateRelation, validateRelation, alike.table?_eq]

theorem Alike.validateRelations_eq
    (source : Table)
    (seen : List String)
    (relations : List Relation) :
    schema.validateRelations source seen relations =
      other.validateRelations source seen relations := by
  induction relations generalizing seen with
  | nil => rfl
  | cons relation relations inductionHypothesis =>
      rw [validateRelations, validateRelations, alike.validateRelation_eq, inductionHypothesis]

theorem Alike.validateSource_eq : schema.validateSource = other.validateSource := by
  funext source
  rw [validateSource, validateSource, alike.table?_eq, alike.relationsOf_eq]
  cases other.table? source with
  | none => rfl
  | some table => exact alike.validateRelations_eq table [] _

/-- Schemas that are alike are both valid, or have the same first fault. -/
theorem Alike.validate_eq : schema.validate = other.validate := by
  rw [validate, validate, alike.tables_eq, alike.relationSources_eq, alike.validateSource_eq]

end Validity

end Schema
end RelationalApi
