import CoopCpu.Device.Keyboard
/-!
# Device.Keyboard.Use — a keyboard in use

What can be done with a keyboard comes in any order: keys are sent to its source, the source is closed, the keyboard is
asked whether it wants to be served, it is served, it is disabled.  `Keyboard.after` is the keyboard after a list of such
uses, `Keyboard.deliveredIn` are the keys that its servings deliver, and `Use.arrivals` the keys that arrive at its source.
-/
namespace CoopCpu
namespace Keyboard

/-- A new keyboard that takes its keys from a source. -/
def listeningTo (s : KeySource) : Keyboard := { unplugged with source := some s }

inductive Use
  | arrival (keys : List Byte)
  | closing
  | asking
  | serving
  | disabling
  deriving DecidableEq

/-- Whether the keyboard, asked for it, wants to be served. -/
def wantsService (k : Keyboard) : Bool := k.poll.pending.isSome

def undergo (k : Keyboard) : Use → Keyboard
  | .arrival keys => k.receive keys
  | .closing => k.close
  | .asking => k.poll
  | .serving => k.serve.2
  | .disabling => k.disable

def after (k : Keyboard) : List Use → Keyboard
  | [] => k
  | u :: rest => (k.undergo u).after rest

/-- The key that a use delivers: only a serving with a key pending delivers one. -/
def deliveredBy (k : Keyboard) : Use → List Byte
  | .serving => if k.pending.isSome then [k.serve.1] else []
  | _ => []

def deliveredIn (k : Keyboard) : List Use → List Byte
  | [] => []
  | u :: rest => k.deliveredBy u ++ (k.undergo u).deliveredIn rest

namespace Use

/-- Whether the line to the source is open after a use, if it was open or not before. -/
def leavesOpen (isOpen : Bool) : Use → Bool
  | .closing => false
  | _ => isOpen

/-- The keys that arrive with a use: what is sent on a closed line does not arrive. -/
def arriving (isOpen : Bool) : Use → List Byte
  | .arrival keys => if isOpen then keys else []
  | _ => []

/-- The keys that arrive by a line that is open at first or not. -/
def arrivals : (isOpen : Bool) → List Use → List Byte
  | _, [] => []
  | isOpen, u :: rest => u.arriving isOpen ++ arrivals (u.leavesOpen isOpen) rest

end Use
end Keyboard
end CoopCpu
