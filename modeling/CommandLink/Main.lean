import CommandLink.Cli.Run

/-! # The program

Reads the command line, looks at the path that it names, and prints what the command comes to. No
agent can be reached from here: what stands at a path does not listen. -/

namespace CommandLink
namespace Cli

/-- What is found at a path. -/
def lookAt (path : String) : IO Socket := do
  if 108 ≤ path.utf8ByteSize then return .tooLong
  let found ← (some <$> IO.FS.realPath path).catchExceptions fun _ => pure none
  match found with
  | none => return .absent
  | some real =>
    if ← real.isDir then return .directory
    if ← real.pathExists then return .deaf
    return .absent

/-- Writes what a run has printed, and gives its exit code. -/
def finish : Outcome → IO UInt32
  | .exit code out => do
    let stdout ← IO.getStdout
    stdout.write ⟨out.toArray⟩
    stdout.flush
    return UInt32.ofNat code
  | .failed failure => do
    (← IO.getStderr).putStrLn ("error: " ++ failure.message)
    return UInt32.ofNat failure.code
  | .arguments error => return UInt32.ofNat error.code

end Cli
end CommandLink

def main (arguments : List String) : IO UInt32 := do
  let path := match CommandLink.Cli.CommandLine.ofArguments arguments with
    | .ok line => line.choice.path?
    | .error _ => none
  let socket ← match path with
    | some path => CommandLink.Cli.lookAt path
    | none => pure .absent
  CommandLink.Cli.finish (CommandLink.Cli.run arguments fun _ => socket)
