import RelationalApi.Catalog.Reader
import RelationalApi.Proofs.Catalog.Assembly

/-!
# Schemas of documents

A document declares tables under identifiers, each by a name of its own or by its identifier.  The
schema of a document has all declared relations, at the tables that their owners stand for, in the
order of the identifiers and then of declaration.  It has all declared tables exactly if no two of
them come to one name: a table that is put into a schema replaces the one that had its name.
-/

namespace RelationalApi

open Outcome Schema

namespace SchemaDocument

variable {document : SchemaDocument} {schema result : Schema} {source : String}
variable {entries : List (String × Declaration)} {parts : List (List SchemaPart)}

/-! ## Order of entries -/

/-- The identifiers of a document ascend. -/
def IsSorted (document : SchemaDocument) : Prop :=
  document.entries.Pairwise fun first second => first.1 < second.1

theorem mem_insertEntry
    {identifier : String}
    {declaration : Declaration}
    {entry : String × Declaration}
    (member : entry ∈ insertEntry identifier declaration entries) :
    entry = (identifier, declaration) ∨ entry ∈ entries := by
  induction entries with
  | nil => simpa [insertEntry] using member
  | cons first entries inductionHypothesis =>
      rw [insertEntry] at member
      split at member
      · exact List.mem_cons.1 member
      · split at member
        · exact (List.mem_cons.1 member).imp_right (List.mem_cons_of_mem _)
        · rcases List.mem_cons.1 member with rfl | later
          · exact .inr List.mem_cons_self
          · exact (inductionHypothesis later).imp_right (List.mem_cons_of_mem _)

theorem insertEntry_sorted
    (identifier : String)
    (declaration : Declaration)
    (sorted : entries.Pairwise fun first second => first.1 < second.1) :
    (insertEntry identifier declaration entries).Pairwise fun first second =>
      first.1 < second.1 := by
  induction entries with
  | nil => exact List.pairwise_singleton _ _
  | cons first entries inductionHypothesis =>
      have apart := List.pairwise_cons.1 sorted
      rw [insertEntry]
      split
      · rename_i smaller
        refine List.pairwise_cons.2 ⟨List.forall_mem_cons.2 ⟨smaller, ?_⟩, sorted⟩
        exact fun entry member => String.lt_trans smaller (apart.1 entry member)
      · split
        · rename_i same
          exact List.pairwise_cons.2 ⟨fun entry member => same ▸ apart.1 entry member, apart.2⟩
        · rename_i notSmaller different
          refine List.pairwise_cons.2 ⟨?_, inductionHypothesis apart.2⟩
          intro entry member
          rcases mem_insertEntry member with rfl | later
          · exact Std.lt_of_le_of_ne (String.not_lt.1 notSmaller) (Ne.symm different)
          · exact apart.1 entry later

/-- Every document that is read is sorted, and has each identifier once. -/
theorem isSorted_of_ofJson?
    {json : Json}
    (read : ofJson? json = some document) :
    document.IsSorted := by
  cases json with
  | object entries =>
      obtain ⟨sortedEntries, made, rfl⟩ := Option.map_eq_some_iff.1 read
      obtain ⟨declarations, _, same⟩ := Option.bind_eq_some_iff.1 made
      cases same
      refine List.foldlRecOn declarations _ List.Pairwise.nil ?_
      exact fun sorted isSorted entry _ => insertEntry_sorted entry.1 entry.2 isSorted
  | _ => cases read

/-- A table is referred to by its identifier, whatever names the others have. -/
theorem resolve_of_mem
    {identifier : String}
    {declaration : TableDeclaration}
    (sorted : document.IsSorted)
    (member : (identifier, .table declaration) ∈ document.entries) :
    document.resolve identifier = declaration.name.getD identifier := by
  obtain ⟨front, back, isSplit⟩ := List.append_of_mem member
  -- The entries in front have smaller identifiers, so the look-up does not stop at them.
  have found : document.entries.lookup identifier = some (.table declaration) := by
    refine List.lookup_eq_some_iff.2 ⟨front, back, isSplit, fun entry isFront => ?_⟩
    rw [IsSorted, isSplit, List.pairwise_append] at sorted
    have smaller := sorted.2.2 entry isFront _ List.mem_cons_self
    rw [bne_iff_ne]
    exact fun same => String.lt_irrefl _ (same ▸ smaller)
  rw [resolve, declaredName?, found, Option.getD_some]

/-! ## Parts that entries declare -/

/-- The name by which an entry declares a table, if it declares one. -/
def tableName? : String × Declaration -> Option String
  | (identifier, .table declaration) => some (declaration.name.getD identifier)
  | (_, .relations _ _) => none

/-- The names of the declared tables, one for each. -/
def tableNames (document : SchemaDocument) : List String :=
  document.entries.filterMap tableName?

/-- The relations that an entry declares for a source table, in order. -/
def relationsFrom (document : SchemaDocument) (source : String) :
    String × Declaration -> List Relation
  | (_, .table _) => []
  | (_, .relations owner relations) =>
      if document.resolve owner = source then relations.map (document.relationOf source) else []

/-- What an entry adds to a schema, if its columns are sound. -/
def partsOf (document : SchemaDocument) :
    String × Declaration -> Except SchemaError (List SchemaPart)
  | (identifier, .table declaration) => do
      let columns ← declaration.columns.mapM ColumnDeclaration.toColumn
      return [.table ⟨document.resolve identifier, columns⟩]
  | (_, .relations owner relations) =>
      .ok (relations.map fun declaration =>
        .relation (document.relationOf (document.resolve owner) declaration))

theorem partsOf_table_eq_ok
    {identifier : String}
    {declaration : TableDeclaration}
    {added : List SchemaPart} :
    document.partsOf (identifier, .table declaration) = .ok added ↔
      ∃ columns, List.Forall₂ (fun declared column => declared.toColumn = .ok column)
          declaration.columns columns ∧
        added = [.table ⟨document.resolve identifier, columns⟩] := by
  simp only [partsOf, bind_eq_ok, pure_eq_ok, mapM_eq_ok, eq_comm (a := added)]

theorem addEntry_eq_ok
    {entry : String × Declaration}
    (succeeded : document.addEntry schema entry.1 entry.2 = .ok result) :
    ∃ added, document.partsOf entry = .ok added ∧ result = added.foldl withPart schema := by
  obtain ⟨identifier, declaration | ⟨owner, relations⟩⟩ := entry
  · obtain ⟨columns, made, same⟩ := bind_eq_ok.1 succeeded
    cases same
    exact ⟨_, partsOf_table_eq_ok.2 ⟨columns, mapM_eq_ok.1 made, rfl⟩, rfl⟩
  · cases succeeded
    exact ⟨_, rfl, by rw [List.foldl_map]; rfl⟩

/-- Entries are added by adding the parts of each of them. -/
theorem addEntries_eq_ok
    (succeeded : document.addEntries schema entries = .ok result) :
    ∃ parts, List.Forall₂ (fun entry added => document.partsOf entry = .ok added) entries parts ∧
      result = parts.flatten.foldl withPart schema := by
  induction entries generalizing schema with
  | nil =>
      cases succeeded
      exact ⟨[], .nil, rfl⟩
  | cons entry entries inductionHypothesis =>
      obtain ⟨next, addedFirst, addedOthers⟩ := bind_eq_ok.1 succeeded
      obtain ⟨first, isFirst, rfl⟩ := addEntry_eq_ok addedFirst
      obtain ⟨others, areOthers, rfl⟩ := inductionHypothesis addedOthers
      exact ⟨first :: others, .cons isFirst areOthers, by rw [List.flatten_cons, List.foldl_append]⟩

/-- Relations that start at one table are all those of this source, or none. -/
theorem relationsAmong_relations (relations : List RelationDeclaration) (owner : String) :
    relationsAmong source
        (relations.map fun declaration => .relation (document.relationOf owner declaration)) =
      if owner = source then relations.map (document.relationOf source) else [] := by
  have areRelations : (relations.map fun declaration => SchemaPart.relation
      (document.relationOf owner declaration)).filterMap SchemaPart.relation? =
        relations.map (document.relationOf owner) := by
    rw [List.filterMap_map]
    exact congrFun List.filterMap_eq_map relations
  rw [relationsAmong, areRelations, List.filter_map]
  split
  · rename_i isSource
    rw [isSource, List.filter_eq_self.2 fun declaration _ => by simp [relationOf]]
  · rename_i notSource
    rw [List.filter_eq_nil_iff.2 fun declaration _ => by simpa [relationOf] using notSource,
      List.map_nil]

section Parts

variable (pairs : List.Forall₂ (fun entry added => document.partsOf entry = .ok added)
  entries parts)
include pairs

/-- The tables among the parts have the names of the declared tables. -/
theorem names_tablesAmong
    (resolves : ∀ identifier declaration, (identifier, .table declaration) ∈ entries ->
      document.resolve identifier = declaration.name.getD identifier) :
    (tablesAmong parts.flatten).map (·.name) = entries.filterMap tableName? := by
  induction pairs with
  | nil => rfl
  | @cons entry added entries parts isFirst _ inductionHypothesis =>
      have others := inductionHypothesis fun identifier declaration member =>
        resolves identifier declaration (List.mem_cons_of_mem _ member)
      rw [List.flatten_cons, tablesAmong, List.filterMap_append, List.map_append, ← tablesAmong,
        ← tablesAmong, others, List.filterMap_cons]
      obtain ⟨identifier, declaration | ⟨owner, relations⟩⟩ := entry
      · obtain ⟨columns, _, rfl⟩ := partsOf_table_eq_ok.1 isFirst
        rw [tableName?, ← resolves identifier declaration List.mem_cons_self]
        rfl
      · cases isFirst
        simp [tablesAmong, SchemaPart.table?, tableName?, List.filterMap_map]

/-- The relations of a source among the parts are the declared ones, in order. -/
theorem relationsAmong_eq :
    relationsAmong source parts.flatten = entries.flatMap (document.relationsFrom source) := by
  induction pairs with
  | nil => rfl
  | @cons entry added entries parts isFirst _ inductionHypothesis =>
      rw [List.flatten_cons, relationsAmong, List.filterMap_append, List.filter_append,
        ← relationsAmong, ← relationsAmong, inductionHypothesis, List.flatMap_cons]
      congr 1
      obtain ⟨identifier, declaration | ⟨owner, relations⟩⟩ := entry
      · obtain ⟨columns, _, rfl⟩ := partsOf_table_eq_ok.1 isFirst
        rfl
      · cases isFirst
        exact relationsAmong_relations relations (document.resolve owner)

end Parts

/-- The schema of a document is assembled from the parts that its entries declare. -/
theorem exists_parts (built : document.toSchema = .ok schema) :
    ∃ parts, List.Forall₂ (fun entry added => document.partsOf entry = .ok added)
        document.entries parts ∧
      schema = assemble parts.flatten :=
  addEntries_eq_ok built

/-! ## Tables that are kept -/

/-- A schema has the tables that a document declares: as many, each by its name and with its own
columns in order. -/
structure KeepsTables (document : SchemaDocument) (schema : Schema) : Prop where
  length_eq : schema.tables.length = document.tableNames.length
  table?_eq : ∀ identifier declaration, (identifier, .table declaration) ∈ document.entries ->
    ∃ columns, List.Forall₂ (fun declared column => declared.toColumn = .ok column)
        declaration.columns columns ∧
      schema.table? (declaration.name.getD identifier) =
        some ⟨declaration.name.getD identifier, columns⟩

/-- A schema that has as many tables as are declared has no two of one name among them. -/
theorem KeepsTables.tableNames_nodup
    (names : (tablesAmong parts.flatten).map (·.name) = document.tableNames)
    (keeps : document.KeepsTables (assemble parts.flatten)) :
    document.tableNames.Nodup := by
  have declared : (assemble parts.flatten).tables.map (·.name) ⊆ document.tableNames := by
    rw [← names]
    exact List.map_subset _ fun table => mem_tablesAmong_of_mem_assemble
  -- Distinct names among the declared ones that are as many as these are all of them.
  have shorter := List.subperm_of_subset (names_nodup (assemble parts.flatten)) declared
  have permuted := shorter.perm_of_length_le (by rw [List.length_map, keeps.length_eq])
  exact permuted.nodup_iff.1 (names_nodup _)

/-- Tables of different names are all kept. -/
theorem keepsTables_of_nodup
    (sorted : document.IsSorted)
    (pairs : List.Forall₂ (fun entry added => document.partsOf entry = .ok added)
      document.entries parts)
    (names : (tablesAmong parts.flatten).map (·.name) = document.tableNames)
    (distinct : document.tableNames.Nodup) :
    document.KeepsTables (assemble parts.flatten) := by
  rw [← names] at distinct
  constructor
  · have sameNames : ∀ name, name ∈ (assemble parts.flatten).tables.map (·.name) ↔
        name ∈ (tablesAmong parts.flatten).map (·.name) := by
      intro name
      simp only [List.mem_map, mem_tables_assemble distinct]
    have permuted := (List.perm_ext_iff_of_nodup (names_nodup _) distinct).2 sameNames
    rw [← names, ← permuted.length_eq, List.length_map]
  · intro identifier declaration member
    obtain ⟨added, isAdded, made⟩ := exists_result pairs _ member
    obtain ⟨columns, areColumns, rfl⟩ := partsOf_table_eq_ok.1 made
    refine ⟨columns, areColumns, ?_⟩
    rw [← resolve_of_mem sorted member]
    have isAmong : ⟨document.resolve identifier, columns⟩ ∈ tablesAmong parts.flatten :=
      List.mem_filterMap.2
        ⟨_, List.mem_flatten_of_mem isAdded (List.mem_singleton_self _), rfl⟩
    exact table?_name ((mem_tables_assemble distinct).2 isAmong)

/-- The schema of a document has all declared relations, in order, at the tables that their owners
stand for.  It has all declared tables exactly if they come to different names. -/
theorem keepsTables_iff_nodup
    (sorted : document.IsSorted)
    (built : document.toSchema = .ok schema) :
    (∀ source, schema.relationsOf source =
        document.entries.flatMap (document.relationsFrom source)) ∧
      (document.KeepsTables schema ↔ document.tableNames.Nodup) := by
  obtain ⟨parts, pairs, rfl⟩ := exists_parts built
  have names : (tablesAmong parts.flatten).map (·.name) = document.tableNames :=
    names_tablesAmong pairs fun identifier declaration => resolve_of_mem sorted
  refine ⟨fun source => by rw [relationsOf_assemble, relationsAmong_eq pairs], ?_⟩
  exact ⟨KeepsTables.tableNames_nodup names, keepsTables_of_nodup sorted pairs names⟩

/-- Tables that are named after the identifiers of each other, with a relation between them. -/
def swappedNames : Json :=
  .object
    [ ("left", .object
        [ ("kind", .string "table"), ("name", .string "right"),
          ("columns", .array [.object [("name", .string "id"), ("type", .string "int")]]) ]),
      ("right", .object
        [ ("kind", .string "table"), ("name", .string "left"),
          ("columns", .array [.object [("name", .string "label"), ("type", .string "text")]]) ]),
      ("between", .object
        [ ("kind", .string "relations"), ("table", .string "left"),
          ("relations", .array [.object
            [ ("name", .string "other"), ("target", .string "right"),
              ("cardinality", .string "one") ]]) ]) ]

theorem keepsTables_swappedNames :
    ∃ document schema, ofJson? swappedNames = some document ∧ document.toSchema = .ok schema ∧
      document.KeepsTables schema ∧
      schema.relationsOf "right" =
        [{ name := "other", source := "right", target := "left", cardinality := .one }] := by
  obtain ⟨document, isRead, names, schema, built, relations⟩ :
      ∃ document, ofJson? swappedNames = some document ∧
        document.tableNames = ["right", "left"] ∧ ∃ schema, document.toSchema = .ok schema ∧
          document.entries.flatMap (document.relationsFrom "right") =
            [{ name := "other", source := "right", target := "left", cardinality := .one }] :=
    ⟨_, rfl, rfl, _, rfl, rfl⟩
  obtain ⟨relationsOf_eq, keeps_iff⟩ := keepsTables_iff_nodup (isSorted_of_ofJson? isRead) built
  have distinct : document.tableNames.Nodup := by
    rw [names]
    decide
  exact ⟨document, schema, isRead, built, keeps_iff.2 distinct,
    (relationsOf_eq "right").trans relations⟩

/-- A table under its identifier, and another one by the same name under another identifier. -/
def twiceDeclared : SchemaDocument :=
  ⟨[ ("archive", .table { name := some "items", columns := [{ name := "label", type := "text" }] }),
    ("items", .table { columns := [{ name := "id", type := "int" }] }) ]⟩

theorem not_keepsTables_twiceDeclared :
    ∃ schema, twiceDeclared.toSchema = .ok schema ∧ schema.validate = .ok () ∧
      ¬twiceDeclared.KeepsTables schema := by
  refine ⟨_, rfl, rfl, fun keeps => ?_⟩
  have lengths : 1 = 2 := keeps.length_eq
  cases lengths

end SchemaDocument
end RelationalApi
