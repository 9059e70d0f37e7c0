import Mathlib.Logic.Relation
import RelationalApi.Arguments.OrderBy
import RelationalApi.Proofs.Arguments.Places
import RelationalApi.Request.Arguments

/-!
# Nulls in arguments

A null under a key that may stand in its place counts as if the key was absent: among the arguments
of an operation or of a relation, among the columns of an order, and in any object inside a `where`
argument.  There is one exception, the key for negations, which need a condition.
-/

namespace RelationalApi

open Outcome

/-- Entries get a null under a declared key that they do not have. -/
inductive JsonEntries.AddsNull (declared : String -> Prop) : JsonEntries -> JsonEntries -> Prop
  | add
      {before after : JsonEntries}
      {key : String}
      (isDeclared : declared key)
      (absent : key ∉ JsonEntries.keys (before ++ after)) :
      AddsNull declared (before ++ after) (before ++ (key, .null) :: after)

/-- The keys under which null counts as nothing in an object inside a `where` argument. -/
def IsWhereKey (columns : List ColumnCodec) (key : String) : Prop :=
  key = "AND" ∨ key = "OR" ∨ key ≠ "NOT" ∧ ∃ column ∈ columns, column.column = key

/-- Some object inside a `where` argument gets a null. -/
inductive WhereAddsNull (columns : List ColumnCodec) : Json -> Json -> Prop
  | add (place : WherePlace) {key : String} (isKey : IsWhereKey columns key) :
      WhereAddsNull columns (place.fill []) (place.fill [(key, .null)])

/-- The arguments of an operation or relation get a null, themselves or in the object of one of
them. -/
inductive ArgumentsAddNull (names : List String) (columns : List ColumnCodec) :
    JsonEntries -> JsonEntries -> Prop
  | argument
      {arguments others : JsonEntries}
      (adds : JsonEntries.AddsNull (· ∈ names) arguments others) :
      ArgumentsAddNull names columns arguments others
  | filter
      (before after : JsonEntries)
      {document other : Json}
      (adds : WhereAddsNull columns document other) :
      ArgumentsAddNull names columns (before ++ ("where", document) :: after)
        (before ++ ("where", other) :: after)
  | orderBy
      (before after : JsonEntries)
      {entries others : JsonEntries}
      (adds : JsonEntries.AddsNull (fun key => ∃ column ∈ columns, column.column = key)
        entries others) :
      ArgumentsAddNull names columns (before ++ ("orderBy", .object entries) :: after)
        (before ++ ("orderBy", .object others) :: after)

/-- Arguments differ by any number of nulls that were added one after another. -/
abbrev ArgumentsAddNulls (names : List String) (columns : List ColumnCodec) :
    JsonEntries -> JsonEntries -> Prop :=
  Relation.ReflTransGen (ArgumentsAddNull names columns)

/-! ## Objects -/

namespace JsonEntries

variable {entries others before after : JsonEntries} {declared : String -> Prop}

theorem lookup_eq_none {key : String} (absent : key ∉ keys entries) :
    entries.lookup key = none := by
  rw [← Option.not_isSome_iff_eq_none, isSome_lookup_iff]
  exact absent

/-- What is looked up behind an added null is the null or what was there before. -/
theorem AddsNull.lookup
    (adds : AddsNull declared entries others)
    (name : String) :
    others.lookup name = entries.lookup name ∨
      entries.lookup name = none ∧ others.lookup name = some .null := by
  cases adds with
  | @add before after key isDeclared absent =>
      by_cases isKey : name = key
      · subst isKey
        have inFront : name ∉ keys before := by
          intro member
          exact absent (by rw [keys, List.map_append]; exact List.mem_append_left _ member)
        refine .inr ⟨lookup_eq_none absent, ?_⟩
        rw [List.lookup_append, lookup_eq_none inFront, List.lookup_cons_self]
        rfl
      · left
        rw [List.lookup_append, List.lookup_append, List.lookup_cons, beq_eq_false_iff_ne.2 isKey]

/-- A key that is unexpected among entries is found before and behind an added null alike. -/
theorem AddsNull.find?_unexpected
    (adds : AddsNull declared entries others)
    (unexpected : String -> Bool)
    (expected : ∀ key, declared key -> unexpected key = false) :
    (others.find? fun entry => unexpected entry.1) =
      entries.find? fun entry => unexpected entry.1 := by
  cases adds with
  | @add before after key isDeclared absent =>
      rw [List.find?_append, List.find?_append, List.find?_cons, expected key isDeclared]

/-- An entry is looked up where its key is not found in front of it, so that replacing its value
changes no other look-up. -/
theorem lookup_replaced (key : String) (value other : Json) (name : String) :
    (before ++ (key, value) :: after).lookup name = (before ++ (key, other) :: after).lookup name ∨
      name = key ∧ (before ++ (key, value) :: after).lookup name = some value ∧
        (before ++ (key, other) :: after).lookup name = some other := by
  simp only [List.lookup_append, List.lookup_cons]
  cases before.lookup name with
  | some found => exact .inl rfl
  | none =>
      cases isKey : name == key with
      | true => exact .inr ⟨beq_iff_eq.1 isKey, rfl, rfl⟩
      | false => exact .inl rfl

end JsonEntries

theorem given?_addsNull
    {declared : String -> Prop}
    {arguments others : JsonEntries}
    (adds : JsonEntries.AddsNull declared arguments others)
    (name : String) :
    given? others name = given? arguments name := by
  rw [given?.eq_def, given?.eq_def]
  rcases adds.lookup name with same | ⟨absent, isNull⟩
  · rw [same]
  · rw [absent, isNull]

/-! ## Filters and orders -/

section Compiling

variable {columns : List ColumnCodec} {document other : Json} {entries others : JsonEntries}

/-- A null has no conditions under a key that may stand there. -/
theorem compileEntry_null
    {key : String}
    (isKey : IsWhereKey columns key)
    (path : String) :
    compileEntry columns path key .null = .ok [] := by
  rw [compileEntry.eq_def]
  by_cases isAnd : key = "AND"
  · subst isAnd
    rfl
  · by_cases isOr : key = "OR"
    · subst isOr
      rfl
    · obtain ⟨notNot, column, member, isNamed⟩ :=
        (isKey.resolve_left isAnd).resolve_left isOr
      have isColumn : Combinator.ofKey? key = none := by
        rw [Combinator.ofKey?, if_neg isAnd, if_neg isOr, if_neg notNot]
      rw [isColumn]
      dsimp only
      rw [compileColumnEntry]
      cases found : columns.find? fun column => column.column == key with
      | some column => rfl
      | none => exact absurd (beq_iff_eq.2 isNamed) (List.find?_eq_none.1 found column member)

/-- Added nulls do not change the filter, wherever they are. -/
theorem compileWhere_addsNull
    (adds : WhereAddsNull columns document other)
    (path : String) :
    compileWhere columns path other = compileWhere columns path document := by
  cases adds with
  | add place isKey =>
      refine place.compileWhere_fill_congr (fun path => ?_) path
      rw [compileEntries_singleton, compileEntry_null isKey, compileEntries]

theorem sortKeys_addsNull
    {declared : String -> Prop}
    (adds : JsonEntries.AddsNull declared entries others)
    (path : String)
    (columns : List ColumnCodec) :
    sortKeys others path columns = sortKeys entries path columns := by
  induction columns with
  | nil => rfl
  | cons column columns inductionHypothesis =>
      have sameDirection : directionAt others path column.column =
          directionAt entries path column.column := by
        rw [directionAt.eq_def, directionAt.eq_def]
        rcases adds.lookup column.column with same | ⟨absent, isNull⟩
        · rw [same]
        · rw [absent, isNull]
      rw [sortKeys, sortKeys, sameDirection, inductionHypothesis]

/-- Added nulls do not change the order. -/
theorem compileOrderBy_addsNull
    (adds : JsonEntries.AddsNull (fun key => ∃ column ∈ columns, column.column = key)
      entries others)
    (path : String) :
    compileOrderBy columns path (.object others) =
      compileOrderBy columns path (.object entries) := by
  have sameUnexpected := adds.find?_unexpected
    (fun key => !columns.any fun column => column.column == key) (by
      rintro key ⟨column, member, isNamed⟩
      rw [Bool.not_eq_false', List.any_eq_true]
      exact ⟨column, member, beq_iff_eq.2 isNamed⟩)
  rw [compileOrderBy, compileOrderBy, sameUnexpected, sortKeys_addsNull adds]

end Compiling

/-! ## Arguments -/

/-- The arguments of two selects from a table compile alike. -/
structure SelectArguments.CompileAlike (columns : List ColumnCodec)
    (arguments others : SelectArguments) : Prop where
  offset_eq : arguments.offset = others.offset
  limit_eq : arguments.limit = others.limit
  filter_eq : ∀ path,
    compileWhere columns path arguments.filter = compileWhere columns path others.filter
  orderBy_eq : ∀ path,
    compileOrderBy columns path arguments.orderBy = compileOrderBy columns path others.orderBy

section Arguments

variable {names : List String} {columns : List ColumnCodec} {arguments others : JsonEntries}

/-- What is given under a name stays the same, or is an object that gets a null. -/
theorem given?_of_addNull
    (adds : ArgumentsAddNull names columns arguments others)
    (name : String) :
    given? others name = given? arguments name ∨
      (name = "where" ∧ ∃ document other, WhereAddsNull columns document other ∧
        given? arguments name = some document ∧ given? others name = some other) ∨
      (name = "orderBy" ∧ ∃ entries otherEntries,
        JsonEntries.AddsNull (fun key => ∃ column ∈ columns, column.column = key) entries
          otherEntries ∧
        given? arguments name = some (.object entries) ∧
        given? others name = some (.object otherEntries)) := by
  cases adds with
  | argument adds => exact .inl (given?_addsNull adds name)
  | @filter before after document other adds =>
      rw [given?.eq_def, given?.eq_def]
      rcases JsonEntries.lookup_replaced "where" document other name with
        same | ⟨isKey, found, foundOther⟩
      · exact .inl (by rw [same])
      · rw [found, foundOther]
        refine .inr (.inl ⟨isKey, document, other, adds, ?_⟩)
        cases adds with
        | add place _ => cases place <;> exact ⟨rfl, rfl⟩
  | @orderBy before after entries otherEntries adds =>
      rw [given?.eq_def, given?.eq_def]
      rcases JsonEntries.lookup_replaced "orderBy" (.object entries) (.object otherEntries)
        name with same | ⟨isKey, found, foundOther⟩
      · exact .inl (by rw [same])
      · rw [found, foundOther]
        exact .inr (.inr ⟨isKey, entries, otherEntries, adds, rfl, rfl⟩)

/-- What is given under any other name than those of filters and orders stays the same. -/
theorem given?_eq_of_addNull
    (adds : ArgumentsAddNull names columns arguments others)
    {name : String}
    (notFilter : name ≠ "where")
    (notOrder : name ≠ "orderBy") :
    given? others name = given? arguments name := by
  rcases given?_of_addNull adds name with same | ⟨isFilter, _⟩ | ⟨isOrder, _⟩
  · exact same
  · exact absurd isFilter notFilter
  · exact absurd isOrder notOrder

theorem compileWhere_given
    (adds : ArgumentsAddNull names columns arguments others)
    (path : String) :
    compileWhere columns path ((given? others "where").getD .null) =
      compileWhere columns path ((given? arguments "where").getD .null) := by
  rcases given?_of_addNull adds "where" with
    same | ⟨_, document, other, adds, found, foundOther⟩ | ⟨isOrder, _⟩
  · rw [same]
  · rw [found, foundOther]
    exact compileWhere_addsNull adds path
  · exact absurd isOrder (by decide)

theorem compileOrderBy_given
    (adds : ArgumentsAddNull names columns arguments others)
    (path : String) :
    compileOrderBy columns path ((given? others "orderBy").getD .null) =
      compileOrderBy columns path ((given? arguments "orderBy").getD .null) := by
  rcases given?_of_addNull adds "orderBy" with
    same | ⟨isFilter, _⟩ | ⟨_, entries, otherEntries, adds, found, foundOther⟩
  · rw [same]
  · exact absurd isFilter (by decide)
  · rw [found, foundOther]
    exact compileOrderBy_addsNull adds path

theorem checkArguments_addNull
    (adds : ArgumentsAddNull names columns arguments others)
    (path : String) :
    checkArguments names path others = checkArguments names path arguments := by
  have replaced : ∀ (before after : JsonEntries) (key : String) (value other : Json),
      checkArguments names path (before ++ (key, other) :: after) =
        checkArguments names path (before ++ (key, value) :: after) := by
    intro before after key value other
    simp only [checkArguments, List.find?_append, List.find?_cons]
    cases before.find? fun argument => !names.contains argument.1 <;>
      cases names.contains key <;> rfl
  cases adds with
  | argument adds =>
      have sameFound := adds.find?_unexpected (fun key => !names.contains key)
        fun key isName => by rw [List.contains_iff_mem.2 isName]; rfl
      rw [checkArguments, checkArguments, sameFound]
  | filter before after adds => exact replaced before after _ _ _
  | orderBy before after adds => exact replaced before after _ _ _

theorem readCount_addNull
    (adds : ArgumentsAddNull names columns arguments others)
    (path : String)
    {name : String}
    (notFilter : name ≠ "where")
    (notOrder : name ≠ "orderBy") :
    readCount others path name = readCount arguments path name := by
  rw [readCount, readCount, given?_eq_of_addNull adds notFilter notOrder]

theorem requireArgument_addNull
    (adds : ArgumentsAddNull names columns arguments others)
    (operation : String)
    {name : String}
    (notFilter : name ≠ "where")
    (notOrder : name ≠ "orderBy") :
    requireArgument operation others name = requireArgument operation arguments name := by
  rw [requireArgument, requireArgument, given?_eq_of_addNull adds notFilter notOrder]

/-- Arguments of a select are read alike with added nulls. -/
theorem SelectArguments.read_addNull
    (adds : ArgumentsAddNull names columns arguments others)
    (path : String) :
    EndAlike (CompileAlike columns) (SelectArguments.read path arguments)
      (SelectArguments.read path others) := by
  have sameOffset : readCount others path "offset" = readCount arguments path "offset" :=
    readCount_addNull adds path (by decide) (by decide)
  have sameLimit : readCount others path "limit" = readCount arguments path "limit" :=
    readCount_addNull adds path (by decide) (by decide)
  rw [SelectArguments.read, SelectArguments.read, sameOffset, sameLimit]
  cases readCount arguments path "offset" with
  | error fault => exact .error
  | ok offset =>
      cases readCount arguments path "limit" with
      | error fault => exact .error
      | ok limit =>
          exact .ok ⟨rfl, rfl, fun path => (compileWhere_given adds path).symm,
            fun path => (compileOrderBy_given adds path).symm⟩

end Arguments
end RelationalApi
