import CoopCpu.Directory
import CoopCpu.Setup
import CoopCpu.Saved.Snapshot
/-!
# CommandLine — running an image from the command line

The program is given a memory size and the path of an image, loads the image at the base offset, attaches a keyboard
that echoes and enables it, runs until the machine halts, and says why it did; if the settings name a file for it, the
final state is saved there.  `Session.start` is all that happens before the first tick and `Session.finish` all that happens after the
last.  `CommandLine.run` puts them together for keys that have all arrived before the start and files kept in a
`Directory`.
-/
namespace CoopCpu
namespace CommandLine

/-- The name the program is called by. -/
def programName : String := "threaded_cpu"

/-- What a finished process leaves: its exit code and the text on its error channel. -/
structure Exit where
  code : UInt32
  errors : String
  deriving DecidableEq, Repr

namespace Exit

def success : Exit := ⟨0, ""⟩

/-- The arguments were not understood. -/
def usage : Exit := ⟨1, "usage: " ++ programName ++ " <memory size in bytes> <memory_image.bin>\n"⟩

/-- Something went wrong. -/
def failure (message : String) : Exit := ⟨1, "Error: " ++ message ++ "\n"⟩

/-- The image could not be read. -/
def unreadableImage (path : String) (e : FileError) : Exit :=
  ⟨1, "Error: failed to read " ++ path ++ "\n\nCaused by:\n    " ++ e.message ++ "\n"⟩

/-- The image is larger than the memory that was asked for. -/
def oversizedImage (image size : Nat) : Exit :=
  ⟨1, "Image is too big to fit into memory! (" ++ toString image ++ " > " ++ toString size ++ " bytes)\n"⟩

end Exit

/-- The memory size and the image path. -/
structure Arguments where
  memorySize : UInt64
  imagePath : String
  deriving DecidableEq, Repr

/-- The arguments, if there are two of them and the first is a number. -/
def Arguments.ofList? : List String → Option Arguments
  | [size, imagePath] =>
    match Numeral.ofDigits 10 size.toList with
    | .ok n => some ⟨UInt64.ofNat n, imagePath⟩
    | .error _ => none
  | _ => none

/-- A run of the program: its settings and its machine. -/
structure Session where
  config : Config
  machine : Machine

namespace Session

/-- A keyboard that shows its keys, and has no source before it is enabled. -/
def silentKeyboard : Keyboard := { Keyboard.unplugged with echo := true }

/-- A keyboard that shows its keys and waits for more. -/
def keyboard : Keyboard := silentKeyboard.enable

/-- The settings of a run. -/
def configure (arguments : List String) (setting : String → Option String) : Except Exit (Arguments × Config) :=
  match Arguments.ofList? arguments with
  | none => .error Exit.usage
  | some given =>
    match (Config.ofSize given.memorySize).override setting with
    | .ok config => .ok (given, config)
    | .error e => .error (Exit.failure e.message)

/-- The machine of a run, before its first tick. -/
def prepare (given : Arguments) (config : Config) (read : FileReader) : Except Exit Machine :=
  match read given.imagePath with
  | .error e => .error (Exit.unreadableImage given.imagePath e)
  | .ok image =>
    if given.memorySize.toNat < image.size then .error (Exit.oversizedImage image.size given.memorySize.toNat)
    else
      match config.machine read image.data with
      | .ok m => .ok (m.attach (.keyboard silentKeyboard)).enableDevices
      | .error e => .error (Exit.failure e.message)

/-- All that happens before the first tick. -/
def start (arguments : List String) (setting : String → Option String) (read : FileReader) : Except Exit Session := do
  let (given, config) ← configure arguments setting
  let machine ← prepare given config read
  return ⟨config, machine⟩

/-- The line that says why the machine has halted. -/
def verdict (m : Machine) : String :=
  match m.reason with
  | some fault => "\nHalted! " ++ fault.message ++ "\n"
  | none => "\nHalted!\n"

/-- The file to save the final state in, and what to write there. -/
def dump? (s : Session) : Option (String × String) := s.config.dumpPath.map fun path => (path, s.machine.save)

/-- How the process ends once the final state has been saved or not. -/
def finish : Except FileError Unit → Exit
  | .ok _ => Exit.success
  | .error e => Exit.failure e.message

end Session

/-! ## Keys -/

/-- Keys arrive at the keyboards of a machine. -/
def typeKeys (keys : List Byte) (m : Machine) : Machine :=
  { m with devices := m.devices.map fun
      | .keyboard k => .keyboard (k.receive keys)
      | d => d }

/-- No more keys arrive. -/
def endKeys (m : Machine) : Machine :=
  { m with devices := m.devices.map fun
      | .keyboard k => .keyboard k.close
      | d => d }

/-- The keys that the keyboards have to show. -/
def shownKeys (m : Machine) : List Byte :=
  m.devices.flatMap fun
    | .keyboard k => k.shown
    | _ => []

/-- The machine once the keys have been shown. -/
def clearShown (m : Machine) : Machine :=
  { m with devices := m.devices.map fun
      | .keyboard k => .keyboard { k with shown := [] }
      | d => d }

/-! ## A whole run -/

/-- What a whole run leaves. -/
structure Report where
  exit : Exit
  output : List Byte
  directory : Directory

/-- A whole run in which all keys have arrived before the first tick, if the machine halts within a number of ticks. -/
def run (limit : Nat) (arguments : List String) (setting : String → Option String) (keys : List Byte) (d : Directory) :
    Option Report :=
  match Session.start arguments setting d.read with
  | .error exit => some ⟨exit, [], d⟩
  | .ok s =>
    match (endKeys (typeKeys keys s.machine)).runWithin limit with
    | none => none
    | some m =>
      let output := shownKeys m ++ (Session.verdict m).toUTF8.toList
      match ({ s with machine := m } : Session).dump? with
      | none => some ⟨Exit.success, output, d⟩
      | some (path, text) =>
        match d.write path text.toUTF8 with
        | .ok d' => some ⟨Session.finish (.ok ()), output, d'⟩
        | .error e => some ⟨Session.finish (.error e), output, d⟩

end CommandLine
end CoopCpu
