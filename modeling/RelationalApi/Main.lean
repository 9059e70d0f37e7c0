import RelationalApi.CommandLine.Program
import Std.Time.DateTime.Timestamp

/-!
# Command line

The program on real files and at the present moment.
-/

namespace RelationalApi
namespace CommandLine

/-- The system's words for a failure. -/
def systemReason : IO.Error → String
  | .noFileOrDirectory _ _ _ => "No such file or directory (os error 2)"
  | .permissionDenied _ _ _ => "Permission denied (os error 13)"
  | error => toString error

/-- Reads a file of the system. -/
def readSystemFile (path : String) : IO (Except String String) := do
  try
    let text ← IO.FS.readFile path
    return .ok text
  catch error => return .error (systemReason error)

/-- The present moment. -/
def presentMoment : IO Timestamp := do
  let now ← Std.Time.Timestamp.now
  return Timestamp.ofNanoseconds now.toNanosecondsSinceUnixEpoch.toInt

end CommandLine
end RelationalApi

open RelationalApi CommandLine in
def main (words : List String) : IO UInt32 := do
  let now ← presentMoment
  let outcome ← run readSystemFile now words
  IO.print outcome.output
  if let some error := outcome.error then IO.eprintln ("Error: " ++ error.message)
  return UInt32.ofNat outcome.exitCode
