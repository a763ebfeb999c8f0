import Sctp.Capture.Stream
import Sctp.Report.Run

/-! The command line tool: reads the arguments and the file, and prints what the run writes. -/

namespace Sctp.Report

open Capture (Node OpenError)

/-- What a path leads to on disk. Faults that name no path come from reading and not from opening. -/
def findOnDisk (path : String) : IO (Except OpenError Node) := do
  try
    let octets ← IO.FS.readBinFile path
    return .ok (.file octets.toList)
  catch
    | .noFileOrDirectory .. => return .error .noSuchFile
    | .inappropriateType (some _) .. => return .error .notDirectory
    | .inappropriateType none .. => return .ok .directory
    | .invalidArgument (some _) .. => return .error .nameTooLong
    | fault => return .error (.other (toString fault))

end Sctp.Report

open Sctp.Report

def main (arguments : List String) : IO UInt32 := do
  let node ← match CommandLine.parse arguments with
    | .run request => findOnDisk request.path
    | _ => pure (.ok .directory)
  let (exit, output) := execute Sctp.Capture.Stream.reader .wrapping (← IO.getEnv "RUST_LOG") arguments fun _ => node
  IO.print output
  return UInt32.ofNat exit
