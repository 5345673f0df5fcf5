import TerraLint.Json.Basic
import TerraLint.Protocol.Server

/-!
# The command

Serves requests on standard input until it ends. The ignore configuration is read first, from the
file that the environment names or else from the one in the working directory.
-/

namespace TerraLint

/-- The file that holds the ignore configuration unless the environment names another one. -/
def ignoreConfigFile : String := ".tflintignore.basic-ext"

/-- The variable of the environment that names the file. -/
def ignoreConfigVariable : String := "BASIC_EXT_IGNORE_CONFIG"

/-- What is found at a path. -/
def readConfig (path : String) : IO ConfigFile := do
  try
    let content ← IO.FS.readBinFile path
    return .bytes content
  catch
    | .noFileOrDirectory .. => return .missing
    | .inappropriateType .. => return .directory
    | e => return .unreadable (toString e)

/-- The number of bytes of a file, if there is one. -/
def sizeOnDisk (path : String) : IO (Option Nat) := do
  try
    let found ← ((← IO.currentDir) / path).metadata
    return some found.byteSize.toNat
  catch _ => return none

/-- The surroundings as a request needs them: with the sizes of the files it names. -/
def hostFor (workDir : String) (filter : IgnoreFilter) (line : List Char) : IO Host := do
  let uris := ((Request.parse? line).map fun r => Server.fileUris r.payload).getD []
  let sizes ← uris.mapM fun uri => do return (Uri.path uri, ← sizeOnDisk (Uri.path uri))
  return { workDir, filter, sizeOf := fun path => (sizes.lookup path).join }

/-- Answers lines until the input ends or a line stops the server. -/
partial def loop (input output : IO.FS.Stream) (workDir : String) (filter : IgnoreFilter)
    (server : Server) : IO UInt32 := do
  let line ← input.getLine
  if line.isEmpty then return 0
  match server.step (← hostFor workDir filter line.toList) line.toList with
  | none => return 1
  | some (server, messages) =>
    for message in messages do
      output.putStr (message.toJson.render ++ "\n")
    output.flush
    loop input output workDir filter server

/-- Serves requests under the ignore configuration. -/
def run : IO UInt32 := do
  let path := (← IO.getEnv ignoreConfigVariable).getD ignoreConfigFile
  match IgnoreFilter.load Rule.names path (← readConfig path) with
  | .error e =>
    (← IO.getStderr).putStr ("Error: " ++ e.message ++ "\n")
    return 1
  | .ok filter =>
    loop (← IO.getStdin) (← IO.getStdout) (← IO.currentDir).toString filter .start

end TerraLint

/-- Serves requests. -/
def main : IO UInt32 := TerraLint.run
