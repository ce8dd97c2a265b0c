import NodeConsole.Config

/-! The arguments of the program. -/
namespace NodeConsole

/-- What the program is to do. -/
inductive Action
  | interactive
  | exec (line : String)
  /-- Without a path, the configuration says where the socket is. -/
  | serve (socket : Option String)
  | inspect
  deriving DecidableEq, Repr

namespace Invocation

/-- What a help text is about. -/
inductive Topic
  | program | exec | serve | config | help
  deriving DecidableEq, Repr

inductive Request
  | act (a : Action)
  | help (t : Topic)
  | version
  deriving DecidableEq, Repr

inductive Fault
  | unknownCommand (arg : String)
  | unexpected (arg : String)
  /-- An option that takes no value has one. -/
  | attached (flag value : String)
  | lineMissing
  | socketMissing
  | socketTwice
  deriving DecidableEq, Repr

def Fault.message : Fault → String
  | .unknownCommand arg => s!"unrecognized subcommand '{arg}'"
  | .unexpected arg => s!"unexpected argument '{arg}' found"
  | .attached flag value => s!"unexpected value '{value}' for '{flag}' found; no more were expected"
  | .lineMissing => "the following required arguments were not provided:\n  <LINE>"
  | .socketMissing => "a value is required for '--socket <SOCKET>' but none was supplied"
  | .socketTwice => "the argument '--socket <SOCKET>' cannot be used multiple times"

/-- What an argument is by its form. -/
inductive Form
  | escape
  | long (name : String) (value : Option String)
  | short (flag : Char)
  | plain
  deriving DecidableEq, Repr

/-- A lone hyphen is plain. -/
def form (arg : String) : Form :=
  match arg.toList with
  | ['-', '-'] => .escape
  | '-' :: '-' :: s =>
    let name := s.takeWhile (· ≠ '=')
    .long (String.ofList name)
      (if s.contains '=' then some (String.ofList (s.drop (name.length + 1))) else none)
  | '-' :: c :: _ => .short c
  | _ => .plain

abbrev Reading := Except Fault Request

/-- An option of any command or of the program; of several letters the first decides. -/
def flag (t : Topic) (arg : String) : Reading :=
  match form arg with
  | .long "help" none => .ok (.help t)
  | .long "help" (some value) => .error (.attached "--help" value)
  | .short 'h' => .ok (.help t)
  | .long "version" none => if t = .program then .ok .version else .error (.unexpected arg)
  | .long "version" (some value) =>
    .error (if t = .program then .attached "--version" value else .unexpected arg)
  | .short 'V' => if t = .program then .ok .version else .error (.unexpected arg)
  | _ => .error (.unexpected arg)

/-- `a`, if there are no more arguments. -/
def only (a : Action) : List String → Reading
  | [] => .ok (.act a)
  | arg :: _ => .error (.unexpected arg)

/-- The arguments of `exec` after `--`. -/
def execRest : Option String → List String → Reading
  | some line, args => only (.exec line) args
  | none, [] => .error .lineMissing
  | none, line :: args => only (.exec line) args

def exec (line : Option String) : List String → Reading
  | [] => execRest line []
  | arg :: args =>
    match form arg with
    | .escape => execRest line args
    | .plain => if line.isSome then .error (.unexpected arg) else exec (some arg) args
    | _ => flag .exec arg

/-- The path is not empty and comes once. -/
def socket (given : Option String) (path : String) : Except Fault String :=
  if path.isEmpty then .error .socketMissing
  else if given.isSome then .error .socketTwice
  else .ok path

def serve (given : Option String) : List String → Reading
  | [] => .ok (.act (.serve given))
  | arg :: args =>
    match form arg with
    | .escape => only (.serve given) args
    | .long "socket" (some path) => do serve (some (← socket given path)) args
    | .long "socket" none =>
      match args with
      | [] => .error .socketMissing
      | path :: args =>
        if form path = .plain then do serve (some (← socket given path)) args
        else .error .socketMissing
    | .plain => .error (.unexpected arg)
    | _ => flag .serve arg

def config : List String → Reading
  | [] => .ok (.act .inspect)
  | arg :: args =>
    match form arg with
    | .escape => only .inspect args
    | .plain => .error (.unexpected arg)
    | _ => flag .config arg

def help : List String → Reading
  | [] => .ok (.help .program)
  | ["exec"] => .ok (.help .exec)
  | ["serve"] => .ok (.help .serve)
  | ["config"] => .ok (.help .config)
  | ["help"] => .ok (.help .help)
  | arg :: args =>
    let isCommand := ["exec", "serve", "config", "help"].contains arg
    .error (.unknownCommand (if isCommand then args.headD arg else arg))

def read : List String → Reading
  | [] => .ok (.act .interactive)
  | "exec" :: args => exec none args
  | "serve" :: args => serve none args
  | "config" :: args => config args
  | "help" :: args => help args
  | arg :: args =>
    match form arg with
    | .escape => only .interactive args
    | .plain => .error (.unknownCommand arg)
    | _ => flag .program arg

def versionLine : String := s!"{Config.programName} {Config.programVersion}"

def usage : Topic → String
  | .program => "Usage: ctlshell [COMMAND]"
  | .exec => "Usage: ctlshell exec <LINE>"
  | .serve => "Usage: ctlshell serve [OPTIONS]"
  | .config => "Usage: ctlshell config"
  | .help => "Usage: ctlshell help [COMMAND]..."

def about : Topic → String
  | .program => "Interactive command console for a running node"
  | .exec => "Run a single command line and exit"
  | .serve => "Serve the console over a Unix domain socket"
  | .config => "Show effective merged config and searched paths"
  | .help => "Print this message or the help of the given subcommand(s)"

/-- What follows the usage line, without an empty line before it. -/
def details : Topic → List String
  | .program =>
    ["Commands:",
      s!"  exec    {about .exec}",
      s!"  serve   {about .serve}",
      s!"  config  {about .config}",
      s!"  help    {about .help}",
      "",
      "Options:",
      "  -h, --help     Print help",
      "  -V, --version  Print version"]
  | .exec =>
    ["Arguments:",
      "  <LINE>  Command line, tokenized like console input (quote it in your shell)",
      "",
      "Options:",
      "  -h, --help  Print help"]
  | .serve =>
    ["Options:",
      "      --socket <SOCKET>  Socket path (defaults to server.socket_path or the runtime dir)",
      "  -h, --help             Print help"]
  | .config => ["Options:", "  -h, --help  Print help"]
  | .help => ["Arguments:", "  [COMMAND]...  Print help for the subcommand(s)"]

def helpLines (t : Topic) : List String := [about t, "", usage t, ""] ++ details t

end Invocation
end NodeConsole
