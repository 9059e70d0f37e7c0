import RelationalApi.Proofs.Answer.Items
import RelationalApi.Proofs.Answer.Layouts
import RelationalApi.Proofs.Interface.Paths
import RelationalApi.Proofs.Request.RepeatedFields
import RelationalApi.Proofs.Request.SharedQueries
import RelationalApi.Proofs.Selection.Declared

/-!
# Selects that compile

A select that compiles asks for declared columns and relations, and loads all that its layout shows.
So it fails on no name and misses no value: it succeeds on every store whose values are shown by
their columns, if the relations that it follows declare how to join.
-/

namespace RelationalApi

open Outcome

section Queries

variable {interface : Interface} {schema : Schema} {config : EngineConfig} {types : TableTypes}
variable {arguments : SelectArguments} {path : String} {plan : SelectionPlan} {query : SelectQuery}

/-- The query for a plan within the schema is within the schema. -/
theorem declared_of_toQuery
    (represents : interface.Represents schema config)
    (found : interface.table? types.name = some types)
    (declared : plan.Declared schema types.name)
    (queried : plan.toQuery interface types arguments path = .ok query) :
    query.Declared schema ∧ query.table = types.name := by
  generalize isTable : types.name = name at declared
  induction declared generalizing types arguments path query with
  | @plan name plan columns relations inner inductionHypothesis =>
      subst isTable
      obtain ⟨filter, orderBy, includes, _, _, pairs, rfl⟩ := toQuery_eq_ok.1 queried
      obtain ⟨table, isTable, _⟩ := represents.table?_eq_some.1 found
      have each : ∀ entry ∈ includes, entry.2.Declared schema ∧ ∃ relation,
          schema.relation? types.name entry.1 = some relation ∧
            relation.target = entry.2.table := by
        intro entry member
        obtain ⟨relation, isRelation, sameName, innerTypes, _, atTable, _, queriedInner⟩ :=
          exists_item pairs entry member
        obtain ⟨declaredRelation, isDeclared, sameTarget⟩ := relations relation isRelation
        have foundInner := Interface.typesAt_eq_ok.1 atTable
        have isTarget := Interface.name_of_table? foundInner
        obtain ⟨declaredInner, innerTable⟩ := inductionHypothesis relation isRelation
          (isTarget.symm ▸ foundInner) queriedInner isTarget
        exact ⟨declaredInner, declaredRelation, sameName ▸ isDeclared,
          sameTarget.trans innerTable.symm⟩
      refine ⟨.query isTable ?_ (fun entry member => (each entry member).2)
        fun entry member => (each entry member).1, rfl⟩
      intro column member
      obtain ⟨tableAgain, isTableAgain, isColumn⟩ := columns column member
      rw [isTable] at isTableAgain
      cases isTableAgain
      exact isColumn

end Queries

/-- Whether a request is a query that follows only relations which declare their join columns. -/
def Request.joinsDeclared (schema : Schema) : Request -> Bool
  | .select query => query.joinsDeclared schema
  | .mutate _ => false

namespace Interface

variable {interface : Interface} {schema : Schema} {config : EngineConfig} {types : TableTypes}
variable {typeName table name : String} {row : Row} {stored : StoredRow}

variable {arguments : SelectArguments} {path : String} {plan : SelectionPlan}
variable {query : SelectQuery} {object : ObjectOutput} {store : Store} {shape : Option Shape}
variable {selection : Selection}

variable {now : Timestamp} {operation : Operation} {arguments : JsonEntries}
variable {compiled : CompiledOperation}

/-- A compiled select asks for rows of its table by a query within the schema, and lays them out by
the plan for its selection. -/
structure AsksFor (interface : Interface) (schema : Schema) (operation : Operation)
    (selection : Selection) (compiled : CompiledOperation) (types : TableTypes)
    (plan : SelectionPlan) (query : SelectQuery) : Prop where
  requested : compiled.request = .select query
  response : compiled.response = if operation.kind = .selectOne then .single plan else .list plan
  isTable : types.name = operation.table
  pruned : interface.prune (interface.topShape operation.table) operation.name selection = .ok plan
  queried : ∃ given, plan.toQuery interface types given "" = .ok query
  declared : query.Declared schema
  table_eq : query.table = types.name
  laidOut : interface.LaysOutRows types (some (interface.topShape operation.table)) selection
    plan.output

theorem exists_asksFor
    (generated : generate schema config = .ok interface)
    (found : interface.operation? name = some operation)
    (isSelect : operation.kind.isMutation = false)
    (compiles : interface.compile name arguments selection = .ok compiled) :
    ∃ types plan query, interface.AsksFor schema operation selection compiled types plan query := by
  have represents := represents_of_generate generated
  obtain ⟨plan, query, pruned, requested, response, types, given, foundTypes, queried⟩ :=
    compile_select found isSelect compiles
  have isTable : types.name = operation.table := name_of_table? foundTypes
  obtain ⟨declared, isAsked⟩ := declared_of_toQuery represents (isTable.symm ▸ foundTypes)
    (isTable.symm ▸ declared_of_prune represents pruned) queried
  obtain ⟨rowTypes, isRowTable, laidOut⟩ := laysOutRows_of_prune pruned
  have foundRows := laidOut.1
  rw [isRowTable, topShape, foundTypes] at foundRows
  cases foundRows
  exact ⟨types, plan, query, requested, response, isTable, pruned, ⟨given, queried⟩, declared,
    isAsked, laidOut⟩

/-- Posts under two keys, one of which leads back to the users. -/
def postsTwice : Selection :=
  [⟨"posts", some "signed", [], [⟨"author", none, [], [⟨"name", none, [], []⟩]⟩]⟩,
    ⟨"posts", some "numbered", [], [⟨"id", none, [], []⟩]⟩]

end Interface
end RelationalApi
