import PendingCalls.App

-- The program on a real command line and a real file system.

namespace PendingCalls

def FileFault.ofIO : IO.Error → FileFault
  | .noFileOrDirectory .. => .notFound
  | .inappropriateType .. => .isDirectory
  | .invalidArgument .. => .nameWithNul
  | _ => .notDirectory

def readFile (path : String) : IO (Except FileFault (List UInt8)) := do
  match (← (IO.FS.readBinFile path).toBaseIO) with
  | .ok content => pure (.ok content.toList)
  | .error e => pure (.error (FileFault.ofIO e))

-- The file of an invocation is read before anything else happens.
def contentOf (words : List String) : IO (Except FileFault (List UInt8)) := do
  match CommandLine.parse words with
  | .run ⟨some path, _, _⟩ => readFile path
  | _ => pure (.error .notFound)

end PendingCalls

def main (words : List String) : IO UInt32 := do
  let content ← PendingCalls.contentOf words
  let output := PendingCalls.App.run words (fun _ => content)
  (← IO.getStdout).putStr output.stdout
  (← IO.getStderr).putStr output.stderr
  pure output.exitCode.toUInt32
