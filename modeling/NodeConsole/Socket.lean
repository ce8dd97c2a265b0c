import NodeConsole.Path

/-! The control socket in the file system. -/
namespace NodeConsole

inductive Entry
  | directory | file | socket
  deriving DecidableEq, Repr

/-- Why the system refuses. -/
inductive Refusal
  | missing | fileExists | notDirectory | isDirectory | nameTooLong | addressInUse
  | zeroCharacter | pathTooLong
  deriving DecidableEq, Repr

def Refusal.message : Refusal → String
  | .missing => "No such file or directory (os error 2)"
  | .fileExists => "File exists (os error 17)"
  | .notDirectory => "Not a directory (os error 20)"
  | .isDirectory => "Is a directory (os error 21)"
  | .nameTooLong => "File name too long (os error 36)"
  | .addressInUse => "Address already in use (os error 98)"
  | .zeroCharacter => "file name contained an unexpected NUL byte"
  | .pathTooLong => "path must be shorter than SUN_LEN"

/-- What stands where; the latest entry of a path counts. The working directory and those above it
are directories. -/
abbrev Files := List (Path × Option Entry)

namespace Files

def find? (fs : Files) (p : Path) : Option Entry :=
  if p.names.all (· = Path.above) then some .directory else (fs.lookup p).join

def put (p : Path) (e : Entry) (fs : Files) : Files := (p, some e) :: fs

def remove (p : Path) (fs : Files) : Files := (p, none) :: fs

/-- Most bytes of a name in a directory. -/
def maxName : Nat := 255

/-- A path that is looked up is shorter than this, in bytes. -/
def pathLimit : Nat := 4096

def nameTooLong (name : List Char) : Bool := maxName < (Text.encode name).length

/-- Refuses what no path may be. -/
def check (path : String) : Except Refusal Unit :=
  if path.toList.contains '\x00' then .error .zeroCharacter
  else if path.isEmpty then .error .missing
  else if pathLimit ≤ (Text.bytes path).length then .error .nameTooLong
  else .ok ()

/-- Where a name leads to from a directory, and what is there. -/
def follow (fs : Files) (p : Path) (name : List Char) : Except Refusal (Path × Option Entry) :=
  if name = Path.here then .ok (p, some .directory)
  else if name = Path.above then .ok (p.up, some .directory)
  else if nameTooLong name then .error .nameTooLong
  else .ok (p.below name, fs.find? (p.below name))

/-- The directory that names lead to, one after another. -/
def walk (fs : Files) (p : Path) : List (List Char) → Except Refusal Path
  | [] => .ok p
  | name :: names => do
    match ← fs.follow p name with
    | (q, some .directory) => walk fs q names
    | (_, some _) => throw .notDirectory
    | (_, none) => throw .missing

def start (path : String) : Path := ⟨Path.startsAtRoot path, []⟩

/-- The place in a directory that a path names. The root, and a path whose last name is a dot or
two, name none. -/
def place? (fs : Files) (path : String) : Except Refusal (Option Path) := do
  check path
  let names := Path.namesOf path
  match names.getLast? with
  | none => return none
  | some name =>
    let p ← fs.walk (start path) names.dropLast
    if name = Path.here || name = Path.above then return none
    return some (← fs.follow p name).1

/-- A path with a slash at its end names a directory and nothing else. -/
def wantsDirectory (path : String) : Bool := path.toList.getLast? = some '/'

/-- Makes directories along names. What is no directory is in the way of the last one, and of any
behind one `made`. -/
def makeAll (made : Bool) (p : Path) : List (List Char) → Files → Except Refusal Files
  | [], fs => .ok fs
  | name :: names, fs => do
    match ← fs.follow p name with
    | (q, some .directory) => makeAll made q names fs
    | (q, none) => makeAll true q names (fs.put q .directory)
    | (_, some _) => throw (if made || names.isEmpty then .fileExists else .notDirectory)

/-- Makes a directory and those above it, as far as they are missing. -/
def makeDirectories (path : String) (fs : Files) : Except Refusal Files := do
  check path
  makeAll false (start path) (Path.namesOf path) fs

/-- Removes what is no directory. -/
def unlink (path : String) (fs : Files) : Except Refusal Files := do
  match ← fs.place? path with
  | none => throw .isDirectory
  | some p =>
    match fs.find? p with
    | none => throw .missing
    | some .directory => throw .isDirectory
    | some _ => if wantsDirectory path then throw .notDirectory else return fs.remove p

/-- Puts a socket where nothing is. -/
def putSocket (path : String) (fs : Files) : Except Refusal Files := do
  match ← fs.place? path with
  | none => throw .addressInUse
  | some p =>
    if (fs.find? p).isSome then throw .addressInUse
    if wantsDirectory path then throw .missing
    return fs.put p .socket

end Files

namespace Socket

inductive Fault
  | directory (path : String) (r : Refusal)
  | stale (path : String) (r : Refusal)
  | bind (path : String) (r : Refusal)
  deriving DecidableEq, Repr

def Fault.message : Fault → String
  | .directory path r => s!"failed to create socket dir: {path}: {r.message}"
  | .stale path r => s!"failed to remove stale socket: {path}: {r.message}"
  | .bind path r => s!"failed to bind unix socket at {path}: {r.message}"

/-- A socket's path is shorter than this, in bytes. -/
def pathLimit : Nat := 108

/-- Makes the directory of a path, unless that is the working directory. -/
def prepare (path : String) (fs : Files) : Except Fault Files :=
  match Path.parent? path with
  | none | some "" => .ok fs
  | some parent => (fs.makeDirectories parent).mapError (.directory parent)

/-- Removes what stands at the path, if anything does. -/
def removeStale (path : String) (fs : Files) : Except Fault Files :=
  match fs.unlink path with
  | .error .missing => .ok fs
  | r => r.mapError (.stale path)

def bind (path : String) (fs : Files) : Except Fault Files := do
  let fs ← removeStale path (← prepare path fs)
  if pathLimit ≤ (Text.bytes path).length then throw (.bind path .pathTooLong)
  (fs.putSocket path).mapError (.bind path)

def release (path : String) (fs : Files) : Except Fault Files := removeStale path fs

/-- Whether there is a socket at the path. -/
def stands (path : String) (fs : Files) : Bool :=
  match fs.place? path with
  | .ok (some p) => fs.find? p = some .socket
  | _ => false

end Socket
end NodeConsole
