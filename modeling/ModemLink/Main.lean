/-
Module: ModemLink.Main
Purpose: The program: reads the file it is given, and prints the answer.
Main exports: main
-/
import ModemLink.CommandLine
import Std.Time.DateTime.Timestamp

namespace ModemLink

/-- The bytes of a file, if there is one that can be read. -/
def readFile? (path : String) : IO (Option ByteArray) := do
  try
    return some (← IO.FS.readBinFile path)
  catch _ =>
    return none

end ModemLink

open ModemLink

/-- Answer the arguments. -/
def main (args : List String) : IO UInt32 := do
  let path := match CommandLine.parse args with
    | .ok (.execute command) => command.path?
    | _ => none
  let file ← match path with
    | some path => readFile? path
    | none => pure none
  let firstSerial ← IO.rand 1 4294967295
  let started ← Std.Time.Timestamp.now
  let response := CommandLine.respond args (fun _ => file) (UInt32.ofNat firstSerial)
    ⟨started.toMillisecondsSinceUnixEpoch.val⟩
  for line in response.output do
    IO.println line
  for complaint in response.complaint.toList do
    IO.eprintln complaint
  return response.code
