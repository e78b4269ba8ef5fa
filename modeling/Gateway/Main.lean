import Gateway.Config.Load
import Gateway.Server.Listen

/-!
# The command line

The program loads its configuration and says where the gateway listens and what it forwards to, or
why it cannot run.  The first argument is the path of the configuration file, without which the
defaults hold, and the environment variable `LISTEN` replaces the listen address.
-/

namespace Gateway

/-- Read a file, or say why it cannot be read. -/
def readSource (path : String) : IO (Except Fault Bytes) := do
  try
    return .ok (← IO.FS.readBinFile path).toList
  catch e =>
    return .error ⟨(toString e).toList⟩

/-- The sources of the configuration for the arguments of the program. -/
def sources (args : List String) : IO Config.Sources := do
  let file ← args.head?.mapM fun p => return (Utf8.encode p.toList, ← readSource p)
  let listen ← IO.getEnv "LISTEN"
  return { file, listen := listen.map fun t => Utf8.encode t.toList }

/-- What the program says about a configuration. -/
def Config.summary (c : Config) : List Text :=
  ("listening on ".toList ++ c.server.listenAddr) ::
    c.proxy.backends.map fun b => "forwarding to ".toList ++ b.url

/-- Load the configuration and say what it comes to. -/
def report (args : List String) : IO UInt32 := do
  match Config.load (← sources args) with
  | .error e =>
    IO.eprintln (String.ofList ("Error: ".toList ++ e.message))
    return 1
  | .ok c =>
    match Server.listen (fun _ => none) c.server.listenAddr with
    | .error e =>
      IO.eprintln (String.ofList ("Error: ".toList ++ e.message))
      return 1
    | .ok _ =>
      for line in c.summary do
        IO.println (String.ofList line)
      return 0

end Gateway

/-- Load the configuration and say what it comes to. -/
def main (args : List String) : IO UInt32 := Gateway.report args
