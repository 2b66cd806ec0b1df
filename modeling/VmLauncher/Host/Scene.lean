import VmLauncher.Host.Console
import VmLauncher.Host.Files
import VmLauncher.Journal.Event
-- All that reading a command line can change outside of itself.
namespace VmLauncher.Host

structure Scene where
  console : Console
  files : Files
  journal : List Journal.Event
deriving Repr

namespace Scene

def say (scene : Scene) (text : String) : Except Error Unit × Scene :=
  let (answer, console) := scene.console.write text
  (answer, { scene with console })

-- Shows lines one after the other, up to the first that does not go out as a whole.
def sayLines : List String → Scene → Except Error Unit × Scene
  | [], scene => (.ok (), scene)
  | line :: lines, scene =>
      match scene.say (line ++ "\n") with
      | (.ok (), scene) => sayLines lines scene
      | (.error e, scene) => (.error e, scene)

def note (scene : Scene) (event : Journal.Event) : Scene :=
  { scene with journal := scene.journal ++ [event] }

end Scene

end VmLauncher.Host
