import ScriptBridge.Computer
import ScriptBridge.Dispatch.Display

/-!
# Simulations

A simulation is one bridge with the computers attached to it.  It moves by
commands: the simulation itself places, changes and destroys objects, and the
scripts of the computers work on handles, set globals, wait, and are saved and
loaded.  Every command has its own kind of reply, and a run is a list of
commands.  A computer that a command names is there from then on.
-/

namespace ScriptBridge

structure Simulation where
  bridge : Bridge
  computers : Table Nat Computer

inductive Command where
  | spawn (o : NativeObject)
  /-- Put the object that a reference reaches into one more slot. -/
  | respawn (r : ObjectRef)
  | change (r : ObjectRef) (c : ObjectChange)
  /-- Destroy an object and drop its lock. -/
  | destroy (r : ObjectRef)
  /-- Destroy an object in the world alone. -/
  | remove (r : ObjectRef)
  /-- Take the lock of an object and do nothing. -/
  | lock (r : ObjectRef)
  | evict (r : ObjectRef)
  | index (computer : Nat) (h : Handle) (name : String)
  | assign (computer : Nat) (h : Handle) (name : String) (v : Value)
  | callMethod (computer : Nat) (h : Handle) (name : String)
      (args : List Value)
  | call (computer : Nat) (m : Member) (receiver : Value)
      (args : List Value)
  | members (computer : Nat) (h : Handle)
  | display (computer : Nat) (h : Handle)
  /-- Only name a computer. -/
  | attend (computer : Nat)
  | setGlobal (computer : Nat) (name : String) (v : Value)
  | removeGlobal (computer : Nat) (name : String)
  | beginWait (computer : Nat) (now : UInt64) (timeout : Option UInt64)
  | pollWait (computer : Nat) (now : UInt64)
  | resolveWait (computer : Nat)
  | abandonWait (computer : Nat)
  | save (computer : Nat)
  /-- Replace a computer by a saved one; if that fails, nothing changes. -/
  | load (computer : Nat) (text : String)
  /-- Take a computer away; tells if it was there. -/
  | drop (computer : Nat)

namespace Command

@[reducible] def Reply : Command -> Type
  | .spawn _ => ObjectRef
  | .respawn _ => Option ObjectRef
  | .change _ _ => Unit
  | .destroy _ => Bool
  | .remove _ => Bool
  | .lock _ => Except BridgeError Unit
  | .evict _ => Bool
  | .index _ _ _ => Except BridgeError (Option Value)
  | .assign _ _ _ _ => Except BridgeError Unit
  | .callMethod _ _ _ _ => Except BridgeError (List Value)
  | .call _ _ _ _ => Except BridgeError (List Value)
  | .members _ _ => Except BridgeError (List String)
  | .display _ _ => Except BridgeError String
  | .attend _ => Computer
  | .setGlobal _ _ _ => Option Value
  | .removeGlobal _ _ => Option Value
  | .beginWait _ _ _ => Wait
  | .pollWait _ _ => WaitPoll × Wait
  | .resolveWait _ => Bool × Wait
  | .abandonWait _ => Bool × Wait
  | .save _ => Snapshot
  | .load _ _ => Except RestoreError Computer
  | .drop _ => Bool

end Command

namespace Simulation

/-- A simulation without objects, and with one computer. -/
def start (registry : Registry) (settings : Settings) : Simulation :=
  ⟨.start registry settings, Table.empty.put 0 .fresh⟩

def computer (s : Simulation) (n : Nat) : Computer :=
  s.computers.getD n .fresh

def withComputer (s : Simulation) (n : Nat) (c : Computer) : Simulation :=
  { s with computers := s.computers.put n c }

def withWorld (s : Simulation) (w : World) : Simulation :=
  { s with bridge := { s.bridge with world := w } }

def onComputer {Result : Type} (s : Simulation) (n : Nat)
    (act : Computer -> Bridge -> Result × Bridge × Computer) :
    Result × Simulation :=
  let (result, bridge, c) := act (s.computer n) s.bridge
  (result, { s with bridge := bridge }.withComputer n c)

def perform (s : Simulation) : (c : Command) -> c.Reply × Simulation
  | .spawn o =>
      let (r, w) := s.bridge.world.spawn o
      (r, s.withWorld w)
  | .respawn r =>
      match s.bridge.world.occupant? r with
      | none => (none, s)
      | some id =>
          let (r', w) := s.bridge.world.share id
          (some r', s.withWorld w)
  | .change r c =>
      match s.bridge.world.occupant? r with
      | none => ((), s)
      | some id => ((), s.withWorld (s.bridge.world.change id c))
  | .destroy r =>
      let (destroyed, bridge) := s.bridge.destroy r
      (destroyed, { s with bridge := bridge })
  | .remove r =>
      let (destroyed, w) := s.bridge.world.destroy r
      (destroyed, s.withWorld w)
  | .lock r =>
      let (outcome, bridge) := s.bridge.underLock r (fun _ w => ((), w))
      (outcome, { s with bridge := bridge })
  | .evict r =>
      let (evicted, locks) := s.bridge.locks.evict r
      (evicted, { s with bridge := { s.bridge with locks := locks } })
  | .index n h name =>
      s.onComputer n (fun c b =>
        let (result, b', d) := c.dispatcher.index b h name
        (result, b', { c with dispatcher := d }))
  | .assign n h name v =>
      s.onComputer n (fun c b =>
        let (result, b') := b.assign h name v
        (result, b', c))
  | .callMethod n h name args =>
      s.onComputer n (fun c b =>
        let (result, b', d) := c.dispatcher.callMethod b h name args
        (result, b', { c with dispatcher := d }))
  | .call n m receiver args =>
      s.onComputer n (fun c b =>
        let (result, b') := b.call m receiver args
        (result, b', c))
  | .members n h =>
      s.onComputer n (fun c b => (b.memberNames h, b, c))
  | .display n h =>
      s.onComputer n (fun c b =>
        let (result, b') := b.display h
        (result, b', c))
  | .attend n => s.onComputer n (fun c b => (c, b, c))
  | .setGlobal n name v =>
      s.onComputer n (fun c b =>
        let (previous, c') := c.setGlobal name v
        (previous, b, c'))
  | .removeGlobal n name =>
      s.onComputer n (fun c b =>
        let (previous, c') := c.removeGlobal name
        (previous, b, c'))
  | .beginWait n now timeout =>
      s.onComputer n (fun c b =>
        let c' := c.beginWait b.settings now timeout
        (c'.wait, b, c'))
  | .pollWait n now =>
      s.onComputer n (fun c b =>
        let (found, c') := c.pollWait now
        ((found, c'.wait), b, c'))
  | .resolveWait n =>
      s.onComputer n (fun c b =>
        let (wasPending, c') := c.resolveWait
        ((wasPending, c'.wait), b, c'))
  | .abandonWait n =>
      s.onComputer n (fun c b =>
        let (wasPending, c') := c.abandonWait
        ((wasPending, c'.wait), b, c'))
  | .save n => s.onComputer n (fun c b => (c.save, b, c))
  | .load n text =>
      match Computer.loadText s.bridge.types text with
      | .error cause => (.error cause, s)
      | .ok c => (.ok c, s.withComputer n c)
  | .drop n =>
      (s.computers.contains n, { s with computers := s.computers.erase n })

def run (s : Simulation) : List Command -> Simulation
  | [] => s
  | c :: rest => run (s.perform c).2 rest

end Simulation

end ScriptBridge
