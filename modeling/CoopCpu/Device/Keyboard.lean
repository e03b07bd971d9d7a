import CoopCpu.Byte
/-!
# Device.Keyboard — keys that arrive from outside

Keys arrive at the keyboard's source in any number and at any time.  `Keyboard.poll` takes at most one of them out and
holds it until it is served; a source that is closed still yields the keys it has, and is given up by the first poll
that finds it empty.  The last twenty-five keys served are remembered.
-/
namespace CoopCpu

/-- Keys that have arrived and have not been taken, and whether any more can come. -/
structure KeySource where
  waiting : List Byte
  closed : Bool
  deriving DecidableEq

structure Keyboard where
  source : Option KeySource
  /-- The key taken from the source and not yet served. -/
  pending : Option Byte
  /-- The last keys served, the oldest first. -/
  recent : List Byte
  /-- Whether keys are shown as they are served. -/
  echo : Bool
  /-- The keys to show, the oldest first. -/
  shown : List Byte
  deriving DecidableEq

namespace Keyboard

def name : String := "Keyboard"

/-- Where every keyboard is attached. -/
def location : Address := 0x0C

/-- How many keys are remembered. -/
def recentLimit : Nat := 25

/-- A keyboard without a source. -/
def unplugged : Keyboard := ⟨none, none, [], false, []⟩

/-- A keyboard whose source is open and empty. -/
def plugged : Keyboard := { unplugged with source := some ⟨[], false⟩ }

/-- Keys arrive.  Without an open source they are lost. -/
def receive (k : Keyboard) (keys : List Byte) : Keyboard :=
  match k.source with
  | some ⟨waiting, false⟩ => { k with source := some ⟨waiting ++ keys, false⟩ }
  | _ => k

/-- No more keys will arrive. -/
def close (k : Keyboard) : Keyboard := { k with source := k.source.map fun s => { s with closed := true } }

/-- Takes a key from the source unless one is pending. -/
def poll (k : Keyboard) : Keyboard :=
  match k.pending, k.source with
  | none, some ⟨key :: waiting, closed⟩ => { k with pending := some key, source := some ⟨waiting, closed⟩ }
  | none, some ⟨[], true⟩ => { k with source := none }
  | _, _ => k

/-- Delivers the pending key and remembers it; without one, delivers 0 and changes nothing. -/
def serve (k : Keyboard) : Byte × Keyboard :=
  match k.pending with
  | none => (0, k)
  | some key =>
    (key, { k with
      pending := none
      recent := (k.recent ++ [key]).drop (k.recent.length + 1 - recentLimit)
      shown := if k.echo then k.shown ++ [key] else k.shown })

/-- Listens to a new source, open and empty, unless there is a source already. -/
def enable (k : Keyboard) : Keyboard :=
  match k.source with
  | some _ => k
  | none => { k with source := some ⟨[], false⟩ }

/-- Gives up the source and the pending key. -/
def disable (k : Keyboard) : Keyboard := { k with source := none, pending := none }

end Keyboard
end CoopCpu
