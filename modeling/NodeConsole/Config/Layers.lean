import NodeConsole.Config.Document
import NodeConsole.Path
import NodeConsole.Text.Utf8

/-! Configuration files in layers of rising priority. -/
namespace NodeConsole.Config
open Text (Bytes)

/-- What is found at a path. -/
inductive Found
  | missing
  /-- Something that cannot be read as a file, such as a directory. -/
  | unreadable
  | file (bs : Bytes)
  deriving DecidableEq, Repr

inductive LoadFault
  /-- No file, or not in UTF-8. -/
  | unreadable (path : String)
  | invalid (path : String) (fault : Json.Fault)
  deriving DecidableEq, Repr

def LoadFault.message : LoadFault → String
  | .unreadable path => s!"failed to read config at {path}"
  | .invalid path _ => s!"failed to parse JSON in {path}"

structure Loaded where
  config : Config := {}
  searched : List String := []
  loaded : List String := []
  deriving DecidableEq, Repr

/-- The layer at a path, if there is one. -/
def layer (path : String) : Found → Except LoadFault (Option Config)
  | .missing => .ok none
  | .unreadable => .error (.unreadable path)
  | .file bs =>
    match Text.decode? bs with
    | none => .error (.unreadable path)
    | some s =>
      match ofDocument (String.ofList s) with
      | .ok c => .ok (some c)
      | .error f => .error (.invalid path f)

/-- Lays the files at `paths` over what has been loaded. -/
def loadOnto (files : String → Found) (l : Loaded) : List String → Except LoadFault Loaded
  | [] => .ok l
  | path :: paths => do
    match ← layer path (files path) with
    | none => loadOnto files l paths
    | some c => loadOnto files { l with config := c.overlay l.config, loaded := l.loaded ++ [path] } paths

def load (files : String → Found) (paths : List String) : Except LoadFault Loaded :=
  loadOnto files { searched := paths } paths

/-- Each path where it first comes up. -/
def dedup (paths : List String) : List String :=
  paths.foldl (fun kept p => if kept.any (Path.same p) then kept else kept ++ [p]) []

def systemPath : String := "/etc/ctlshell/config.json"
def projectPath : String := ".ctlshell/config.json"

def userPath (configDir : String) : String := s!"{configDir}/ctlshell/config.json"

/-- Names a file that is searched last. -/
def pathVariable : String := "CTLSHELL_CONFIG"

/-- All paths in order of rising priority: the system's, the user's, the project's, and one that is
named. -/
def layerPaths (configDir named : Option String) : List String :=
  [systemPath] ++ (configDir.map userPath).toList ++ [projectPath] ++ named.toList

def searchPaths (configDir named : Option String) : List String :=
  dedup (layerPaths configDir named)

end NodeConsole.Config
