import ScriptBridge.Text.Inspection

/-!
# References and paths

A reference addresses an object of the world by a slot and a generation.  A
path says how a script came to an object: it starts at the object that the
script first obtained and lists every hop taken since.  What a path addresses
is its last object, and two paths lead to the same object when their last
objects are the same reference, whatever lies before.
-/

namespace ScriptBridge

/-- The address of an object: a slot, and which of its occupants is meant. -/
structure ObjectRef where
  index : UInt32
  generation : UInt32
  deriving DecidableEq, Inhabited

namespace ObjectRef

def inspect (r : ObjectRef) : String :=
  Inspection.record "ObjectRef"
    [("index", toString r.index.toNat),
      ("generation", toString r.generation.toNat)]

end ObjectRef

/-- The way from a first object to the one that is addressed. -/
structure Path where
  root : ObjectRef
  hops : List ObjectRef
  deriving DecidableEq, Inhabited

namespace Path

def direct (root : ObjectRef) : Path :=
  ⟨root, []⟩

def target (p : Path) : ObjectRef :=
  p.hops.getLastD p.root

/-- One hop further.  A hop to the object already addressed adds nothing. -/
def through (p : Path) (hop : ObjectRef) : Path :=
  if p.target = hop then p else ⟨p.root, p.hops ++ [hop]⟩

def sameTarget (p q : Path) : Bool :=
  p.target = q.target

@[simp] theorem target_direct (root : ObjectRef) :
    (direct root).target = root :=
  rfl

@[simp] theorem target_through (p : Path) (hop : ObjectRef) :
    (p.through hop).target = hop := by
  by_cases h : p.target = hop
  · rw [through, if_pos h, h]
  · rw [through, if_neg h, target, List.getLastD_concat]

@[simp] theorem root_through (p : Path) (hop : ObjectRef) :
    (p.through hop).root = p.root := by
  by_cases h : p.target = hop
  · rw [through, if_pos h]
  · rw [through, if_neg h]

/-- The path through a list of hops. -/
def along (root : ObjectRef) (hops : List ObjectRef) : Path :=
  hops.foldl through (direct root)

def inspect (p : Path) : String :=
  Inspection.record "Trace"
    [("root", p.root.inspect),
      ("hops", Inspection.list (p.hops.map ObjectRef.inspect))]

end Path

end ScriptBridge
