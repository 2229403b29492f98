import BandedPalette.Command.Arguments
import BandedPalette.Command.Perform
namespace BandedPalette

structure Workspace where
  folder : Folder
  printed : String

namespace Workspace

def read (path : String) : StateM Workspace (Except FileFault String) := do
  return (← get).folder.read path

/-- A write that is refused leaves everything as it was. -/
def write (path text : String) : StateM Workspace (Except FileFault Unit) := do
  match (← get).folder.write path text with
  | .error fault => return .error fault
  | .ok folder =>
      modify fun workspace => { workspace with folder := folder }
      return .ok ()

def print (text : String) : StateM Workspace Unit :=
  modify fun workspace => { workspace with printed := workspace.printed ++ text }

def surroundings : Surroundings (StateM Workspace) :=
  ⟨read, write, print⟩

end Workspace

structure Outcome where
  result : Except Failure Unit
  workspace : Workspace

def Command.run (command : Command) (folder : Folder) : Outcome :=
  let (result, workspace) := (command.perform Workspace.surroundings).run.run ⟨folder, ""⟩
  ⟨result, workspace⟩

def run (arguments : List String) (folder : Folder) : Except Command.UsageFault Outcome :=
  (Command.ofArguments arguments).map fun command => command.run folder

end BandedPalette
