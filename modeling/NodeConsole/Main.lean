import NodeConsole.Program

/-! The program, run on the system without a network or a control socket. -/
namespace NodeConsole.Main

def findAt (path : String) : IO Config.Found := do
  try
    return .file (← IO.FS.readBinFile path).toList
  catch
    | .noFileOrDirectory .. => return .missing
    | _ => return .unreadable

/-- The value of a variable that holds an absolute path. -/
def directory? (name : String) : IO (Option String) := do
  return (← IO.getEnv name).filter (·.startsWith "/")

def configDir? : IO (Option String) := do
  match ← directory? "XDG_CONFIG_HOME" with
  | some d => return some d
  | none => return (← directory? "HOME").map fun home => s!"{home}/.config"

def runtimeDir : IO String := do
  match ← directory? "XDG_RUNTIME_DIR" with
  | some d => return d
  | none => return (← IO.getEnv "TMPDIR").getD "/tmp"

def surroundings : IO Surroundings := do
  let configDir ← configDir?
  let namedConfig ← IO.getEnv Config.pathVariable
  let files ← (Config.searchPaths configDir namedConfig).mapM fun p => return (p, ← findAt p)
  return {
    configDir, namedConfig, runtimeDir := ← runtimeDir
    found := fun p => (files.lookup p).getD .missing }

def write (out : IO.FS.Stream) (ws : List Write) : IO Unit := do
  out.write ⟨(Program.written ws).toArray⟩
  out.flush

/-- The next line after `w`, which is given last byte first; nothing at the end of the input. -/
partial def readLine (input : IO.FS.Stream) (w : Text.Bytes) : IO (Option Text.Bytes) := do
  match (← input.read 1).toList with
  | b :: _ => if b = 10 then return some w.reverse else readLine input (b :: w)
  | [] => return if w.isEmpty then none else some w.reverse

/-- Prompts until the user leaves. -/
partial def prompts (c : Console Commands.Tail Commands.Call) (node : Node) : IO UInt32 := do
  let out ← IO.getStdout
  write out [Repl.prompt]
  let r := Repl.reply c Program.script node (Repl.read c (← readLine (← IO.getStdin) []))
  write out r.writes
  match r.going with
  | .on => prompts c r.node
  | .left => return 0
  | .failed =>
    IO.eprintln s!"error: {Program.invalidInput}"
    return 1

def interactive (s : Surroundings) : IO UInt32 := do
  match Program.load s with
  | .error f =>
    IO.eprintln s!"error: {f.message}"
    return 1
  | .ok l =>
    let c := Program.console s l.config
    write (← IO.getStdout) (Repl.welcome c)
    prompts c (Node.ofConfig l.config)

def run (args : List String) : IO UInt32 := do
  let s ← surroundings
  match Invocation.read args with
  | .ok (.act .interactive) => interactive s
  | .ok (.act (.serve _)) =>
    IO.eprintln "error: control socket is not available"
    return 1
  | _ =>
    let o := Program.run s args
    (← IO.getStdout).write ⟨o.output.toArray⟩
    IO.eprint o.complaint
    return o.code.toUInt32

end NodeConsole.Main

def main (args : List String) : IO UInt32 := NodeConsole.Main.run args
