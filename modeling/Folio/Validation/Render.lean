/-
  Folio — how reports are written.

  * `Report.text` is a report for readers: the findings of each document, and a
    summary in the last line;
  * `Report.json` is a report as JSON.
-/
import Folio.Json.Tree
import Folio.Validation.Report

namespace Folio

/-! ## As text -/

/-- The lines on a finding. -/
def Finding.lines (f : Finding) : List String :=
  ("  " ++ f.problem.severity.name ++ "[" ++ f.code ++ "] " ++ f.location.text ++ ": " ++
      f.problem.message) ::
    match f.problem.hint? with
    | some hint => if hint.isEmpty then [] else ["    hint: " ++ hint]
    | none => []

/-- The lines on a document; none if nothing was found. -/
def FileReport.lines (r : FileReport) : List String :=
  if r.findings.isEmpty then [] else r.path :: r.findings.flatMap Finding.lines

namespace Report

/-- The line that sums a report up. -/
def summary (r : Report) : String :=
  (if r.ok then "OK" else "INVALID") ++ ": " ++ toString r.files.length ++ " file(s), " ++
    toString r.errors ++ " error(s), " ++ toString r.warnings ++ " warning(s) (users: " ++
    r.userMode ++ ")"

/-- A report for readers. -/
def text (r : Report) : String :=
  "\n".intercalate (r.files.flatMap FileReport.lines ++ [r.summary])

end Report

/-! ## As JSON -/

/-- A finding as JSON. -/
def Finding.json (f : Finding) : JsonTree :=
  .object
    [("code", .text f.code), ("location", .text f.location.text),
      ("message", .text f.problem.message), ("hint", .ofText? f.problem.hint?)]

/-- The report on a document as JSON. -/
def FileReport.json (r : FileReport) : JsonTree :=
  .object
    [("path", .text r.path), ("errors", .list (r.errors.map Finding.json)),
      ("warnings", .list (r.warnings.map Finding.json))]

/-- A report as JSON. -/
def Report.json (r : Report) : JsonTree :=
  .object
    [("errors", .int r.errors), ("warnings", .int r.warnings), ("ok", .bool r.ok),
      ("files", .list (r.files.map FileReport.json))]

end Folio
