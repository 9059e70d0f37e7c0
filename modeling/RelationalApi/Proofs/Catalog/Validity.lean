import Mathlib.Data.List.Nodup
import RelationalApi.Catalog.Schema
import RelationalApi.Proofs.Outcome

/-!
# Tables and relations of a schema

Looking a table up by name finds a table of that name, and as no two tables share a name it finds
every table of the schema.

In a valid schema every relation leads from a table to a table, under a name that no column of its
source has.  So the tables that relations lead to, one after another, never leave the schema.
-/

namespace RelationalApi

open Outcome

/-! ## Tables -/

namespace Schema

variable {schema : Schema} {table : Table} {name : String}

theorem mem_of_table? (found : schema.table? name = some table) : table ∈ schema.tables :=
  List.mem_of_find?_eq_some found

theorem name_of_table? (found : schema.table? name = some table) : table.name = name := by
  have same := List.find?_some found
  exact beq_iff_eq.1 same

/-- No two tables of a schema share a name. -/
theorem eq_of_name_eq
    {other : Table}
    (member : table ∈ schema.tables)
    (otherMember : other ∈ schema.tables)
    (sameName : table.name = other.name) :
    table = other := by
  obtain ⟨tables, relations, ordered⟩ := schema
  simp only at member otherMember
  rw [TablesOrdered] at ordered
  induction tables with
  | nil => simp at member
  | cons first tables inductionHypothesis =>
      rw [List.pairwise_cons] at ordered
      have apart : ∀ later ∈ tables, first.name ≠ later.name := by
        intro later laterMember same
        exact String.lt_irrefl _ (same ▸ ordered.1 later laterMember)
      rcases List.mem_cons.1 member with rfl | memberLater
      · rcases List.mem_cons.1 otherMember with rfl | otherLater
        · rfl
        · exact absurd sameName (apart other otherLater)
      · rcases List.mem_cons.1 otherMember with rfl | otherLater
        · exact absurd sameName.symm (apart table memberLater)
        · exact inductionHypothesis ordered.2 memberLater otherLater

theorem names_nodup (schema : Schema) : (schema.tables.map (·.name)).Nodup := by
  refine List.Nodup.map_on ?_ (schema.ordered.imp fun smaller same => ?_)
  · exact fun table member other otherMember => eq_of_name_eq member otherMember
  · exact String.lt_irrefl _ (same ▸ smaller)

/-- Every table of a schema is found under its name. -/
theorem table?_name (member : table ∈ schema.tables) : schema.table? table.name = some table := by
  cases found : schema.table? table.name with
  | none =>
      rw [table?, List.find?_eq_none] at found
      exact absurd (found table member) (by simp)
  | some other =>
      rw [eq_of_name_eq (mem_of_table? found) member (name_of_table? found)]

end Schema

namespace Table

theorem hasColumn_iff (table : Table) (name : String) :
    table.hasColumn name = true ↔ name ∈ table.columnNames := by
  rw [hasColumn, columnNames, List.any_eq_true, List.mem_map]
  simp only [beq_iff_eq]

theorem mem_of_column?
    {table : Table}
    {name : String}
    {column : Column}
    (found : table.column? name = some column) :
    column ∈ table.columns :=
  List.mem_of_find?_eq_some found

theorem name_of_column?
    {table : Table}
    {name : String}
    {column : Column}
    (found : table.column? name = some column) :
    column.name = name := by
  have same := List.find?_some found
  exact beq_iff_eq.1 same

/-- Where no two columns share a name, a name finds all columns of the name. -/
theorem eq_of_column?
    {table : Table}
    {name : String}
    {column other : Column}
    (distinct : table.columnNames.Nodup)
    (isColumn : table.column? name = some column)
    (member : other ∈ table.columns)
    (isNamed : other.name = name) :
    other = column :=
  List.inj_on_of_nodup_map distinct member (mem_of_column? isColumn)
    (isNamed.trans (name_of_column? isColumn).symm)

/-- The names of the columns of the primary key, in the order of the columns. -/
def keyColumns (table : Table) : List String :=
  (table.columns.filter (·.primaryKey)).map (·.name)

end Table

/-! ## Valid schemas -/

namespace Schema

variable {schema : Schema} {table : Table} {relation : Relation}

/-- A relation that passes its check leads to a table and hides no column. -/
theorem validateRelation_eq_ok
    {seen : List String}
    (checked : schema.validateRelation table seen relation = .ok ()) :
    table.hasColumn relation.name = false ∧
      ∃ target, schema.table? relation.target = some target := by
  rw [validateRelation] at checked
  cases seenBefore : seen.contains relation.name with
  | true =>
      rw [if_pos seenBefore] at checked
      cases checked
  | false =>
      rw [seenBefore, if_neg Bool.false_ne_true] at checked
      cases hidden : table.hasColumn relation.name with
      | true =>
          rw [if_pos hidden] at checked
          cases checked
      | false =>
          rw [hidden, if_neg Bool.false_ne_true] at checked
          cases found : schema.table? relation.target with
          | none =>
              simp only [found] at checked
              cases checked
          | some target => exact ⟨rfl, target, rfl⟩

theorem validateRelations_eq_ok
    {seen : List String}
    {relations : List Relation}
    (checked : schema.validateRelations table seen relations = .ok ()) :
    ∀ relation ∈ relations, table.hasColumn relation.name = false ∧
      ∃ target, schema.table? relation.target = some target := by
  induction relations generalizing seen with
  | nil => simp
  | cons first relations inductionHypothesis =>
      rw [validateRelations, check_bind_eq_ok] at checked
      exact List.forall_mem_cons.2
        ⟨validateRelation_eq_ok checked.1, inductionHypothesis checked.2⟩

/-- Relations that pass their checks one after another have names of their own. -/
theorem relationNames_nodup
    {seen : List String}
    {relations : List Relation}
    (checked : schema.validateRelations table seen relations = .ok ()) :
    (relations.map (·.name)).Nodup ∧ ∀ relation ∈ relations, relation.name ∉ seen := by
  induction relations generalizing seen with
  | nil => simp
  | cons first relations inductionHypothesis =>
      rw [validateRelations, check_bind_eq_ok] at checked
      obtain ⟨distinct, notSeen⟩ := inductionHypothesis checked.2
      rw [List.map_cons, List.nodup_cons, List.forall_mem_cons]
      refine ⟨⟨fun isTaken => ?_, distinct⟩, ?_, fun relation member isSeen =>
        notSeen relation member (List.mem_cons_of_mem _ isSeen)⟩
      · obtain ⟨relation, member, isNamed⟩ := List.mem_map.1 isTaken
        exact notSeen relation member (isNamed ▸ List.mem_cons_self)
      · intro isSeen
        rw [validateRelation, if_pos (List.contains_iff_mem.2 isSeen)] at checked
        cases checked.1

theorem mem_insertName {name other : String} {names : List String} :
    other ∈ insertName name names ↔ other = name ∨ other ∈ names := by
  induction names with
  | nil => simp [insertName]
  | cons first names inductionHypothesis =>
      rw [insertName]
      split
      · simp
      · split
        · rename_i same
          simp [same]
        · simp only [List.mem_cons, inductionHypothesis]
          tauto

/-- Relations start at exactly the names that have relations. -/
theorem mem_relationSources_iff {source : String} :
    source ∈ schema.relationSources ↔ schema.relationsOf source ≠ [] := by
  rw [relationSources, relationsOf]
  induction schema.relations with
  | nil => simp
  | cons relation relations inductionHypothesis =>
      rw [List.foldr_cons, mem_insertName, inductionHypothesis, List.filter_cons]
      by_cases starts : relation.source = source
      · simp [starts]
      · simp [starts, Ne.symm starts]

theorem mem_of_relation?
    {source name : String}
    (found : schema.relation? source name = some relation) :
    relation ∈ schema.relationsOf source ∧ relation.name = name := by
  have isNamed := List.find?_some found
  exact ⟨List.mem_of_find?_eq_some found, beq_iff_eq.1 isNamed⟩

/-- The relations of every table of a valid schema pass their checks. -/
theorem validateRelations_of_valid
    (valid : schema.validate = .ok ())
    (member : table ∈ schema.tables) :
    schema.validateRelations table [] (schema.relationsOf table.name) = .ok () := by
  have sourcesValid : schema.relationSources.forM schema.validateSource = .ok () := by
    rw [validate] at valid
    split at valid
    · cases valid
    · exact valid
  by_cases noRelations : schema.relationsOf table.name = []
  · rw [noRelations]
    rfl
  · have sourceValid := forM_eq_ok.1 sourcesValid table.name (mem_relationSources_iff.2 noRelations)
    rw [validateSource, table?_name member] at sourceValid
    exact sourceValid

/-- The relations of a table of a valid schema hide no column and lead to tables. -/
theorem relation_of_valid
    (valid : schema.validate = .ok ())
    (member : table ∈ schema.tables)
    (related : relation ∈ schema.relationsOf table.name) :
    relation.name ∉ table.columnNames ∧
      ∃ target ∈ schema.tables, target.name = relation.target := by
  obtain ⟨notHidden, target, found⟩ :=
    validateRelations_eq_ok (validateRelations_of_valid valid member) relation related
  refine ⟨?_, target, mem_of_table? found, name_of_table? found⟩
  rw [← Table.hasColumn_iff, notHidden]
  exact Bool.false_ne_true

/-- The relations of a table of a valid schema have names of their own. -/
theorem relationNames_nodup_of_valid
    (valid : schema.validate = .ok ())
    (member : table ∈ schema.tables) :
    ((schema.relationsOf table.name).map (·.name)).Nodup :=
  (relationNames_nodup (validateRelations_of_valid valid member)).1

end Schema
end RelationalApi
