import RelationalApi.Json.Writer
import RelationalApi.Report.Grid

/-!
# Formats of responses

A response is reported as an indented document, or as a grid for each root field followed by the
errors.
-/

namespace RelationalApi

/-- The formats that responses are reported in. -/
inductive ReportFormat where
  | json
  | table
  deriving Repr, DecidableEq, Inhabited

namespace ReportFormat

def word : ReportFormat → String
  | json => "json"
  | table => "table"

def ofWord? (word : String) : Option ReportFormat :=
  if word = "json" then some json else if word = "table" then some table else none

end ReportFormat

namespace Report

/-- The text for a value in a cell. -/
def cellText : Json → String
  | .null => "NULL"
  | .string text => text
  | document => document.write

/-- What stands for absent data. -/
def nothing : String := "No results"

/-- The header for rows like a first one.  Rows that are not objects have a column of values. -/
def headerOf : Json → List String
  | .object entries => JsonEntries.keys entries
  | _ => ["value"]

/-- The cells of a row under a header. -/
def rowCells (header : List String) : Json → List String
  | .object entries => header.map fun key => ((entries.lookup key).map cellText).getD ""
  | document => [cellText document]

/-- The grid of rows and their number. -/
def rowsText : List Json → String
  | [] => "0 row(s)"
  | first :: others =>
    let rows := first :: others
    let header := headerOf first
    let grid : Grid := ⟨header, rows.map (rowCells header)⟩
    grid.draw ++ "\n" ++ toString rows.length ++ " row(s)"

/-- The text for the value of a root field. -/
def fieldText : Json → String
  | .null => nothing
  | .array items => rowsText items
  | .object entries => rowsText [.object entries]
  | document => cellText document

/-- The sections for the data of a response. -/
def dataSections (response : Json) : List String :=
  match response.get? "data" with
  | some (.object entries) => entries.map fun entry => entry.1 ++ "\n" ++ fieldText entry.2
  | _ => []

/-- The section for an error. -/
def errorSection (error : Json) : String :=
  let message := ((error.get? "message").bind Json.string?).getD "unknown error"
  match error.get? "path" with
  | some (.array (key :: keys)) =>
    "Error at " ++ ".".intercalate ((key :: keys).map cellText) ++ ": " ++ message
  | _ => "Error: " ++ message

/-- The sections for the errors of a response. -/
def errorSections (response : Json) : List String :=
  match response.get? "errors" with
  | some (.array errors) => errors.map errorSection
  | _ => []

/-- The report of a response by grids. -/
def tables (response : Json) : String :=
  let sections := dataSections response ++ errorSections response
  if sections.isEmpty then nothing else "\n\n".intercalate sections

/-- The report of a response. -/
def format (format : ReportFormat) (response : Json) : String :=
  match format with
  | .json => response.pretty 0
  | .table => tables response

end Report
end RelationalApi
