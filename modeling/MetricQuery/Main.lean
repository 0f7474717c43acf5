import MetricQuery.CommandLine

namespace MetricQuery.Main

/-- The number of a system error. Some calls report it with its sign turned. -/
def errorNumber (code : UInt32) : Nat :=
  if code.toNat < 2147483648 then code.toNat else 4294967296 - code.toNat

def systemFault (code : UInt32) (reason : String) : ReadFault :=
  match errorNumber code with
  | 13 => .system "Permission denied" 13
  | 20 => .notDirectory
  | 21 => .isDirectory
  | number => .system reason number

def readFault (error : IO.Error) : ReadFault :=
  match error with
  | .noFileOrDirectory .. => .missing
  | .inappropriateType _ code reason | .permissionDenied _ code reason | .otherError code reason =>
    systemFault code reason
  | other => .system (toString other) 0

def readFile (path : String) : IO (String × Except ReadFault ByteArray) := do
  try
    let bytes ← IO.FS.readBinFile path
    return (path, .ok bytes)
  catch error => return (path, .error (readFault error))

/-- The settings of the environment are the texts between NUL characters. -/
def readEnvironment : IO Environment := do
  let (_, contents) ← readFile "/proc/self/environ"
  let text := match contents.bind textOfBytes with
    | .ok text => text
    | .error _ => ""
  return ⟨(splitAll '\x00' text.toList).filterMap fun setting =>
    (splitFirst '=' setting).map fun (name, value) => (String.ofList name, String.ofList value)⟩

/-- The program is started in the directory that holds its data. -/
def home : String := "."

def readWorld (args : List String) : IO CommandLine.World := do
  let paths := args.take 2 ++ [home ++ "/data/process.json", home ++ "/data/snapshot.json"]
  let files ← paths.mapM readFile
  return {
    environment := ← readEnvironment
    home
    read := fun path => (files.lookup path).getD (.error .missing) }

end MetricQuery.Main

def main (args : List String) : IO UInt32 := do
  let world ← MetricQuery.Main.readWorld args
  let outcome := MetricQuery.CommandLine.run world args
  let errors ← IO.getStderr
  errors.putStr (MetricQuery.CommandLine.output world outcome)
  return MetricQuery.CommandLine.exitCode outcome
