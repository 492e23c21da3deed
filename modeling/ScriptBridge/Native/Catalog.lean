import ScriptBridge.Native.Function

/-!
# The class catalog

The catalog lists the native classes and links each to its parent.  The
ancestors of a class are the class itself, its parent, and so on.  Nothing stops
a chain of parents from running in a circle or from naming a class that was
never listed, so the walk is cut off after one step more than there are classes:
that is enough to visit every class of any chain.
-/

namespace ScriptBridge

structure Catalog where
  classes : Table ClassId NativeClass

namespace Catalog

def empty : Catalog :=
  ⟨.empty⟩

/-- List a class, in place of any other of the same identity, which is returned. -/
def insert (k : Catalog) (c : NativeClass) : Option NativeClass × Catalog :=
  (k.classes.get? c.id, ⟨k.classes.put c.id c⟩)

def get? (k : Catalog) (id : ClassId) : Option NativeClass :=
  k.classes.get? id

def contains (k : Catalog) (id : ClassId) : Bool :=
  k.classes.contains id

def size (k : Catalog) : Nat :=
  k.classes.size

/-- The parent of a class, if the class is listed and has one. -/
def parent? (k : Catalog) (id : ClassId) : Option ClassId :=
  (k.get? id).bind NativeClass.parent

/-- Walk up the parents for a number of steps. -/
def climb (k : Catalog) : Nat -> Option ClassId -> List ClassId
  | 0, _ => []
  | _ + 1, none => []
  | steps + 1, some id => id :: climb k steps (k.parent? id)

/-- A class and its parents, nearest first. -/
def ancestors (k : Catalog) (id : ClassId) : List ClassId :=
  k.climb (k.size + 1) (some id)

/-- True if a class is another class or derives from it. -/
def isChildOf (k : Catalog) (id parent : ClassId) : Bool :=
  (k.ancestors id).any (fun ancestor => ancestor = parent)

/-- The function that the nearest ancestor declares under a name. -/
def findFunction? (k : Catalog) (id : ClassId) (name : String) :
    Option DeclaredFunction :=
  (k.ancestors id).findSome? (fun ancestor =>
    ((k.get? ancestor).bind (fun c => c.function? name)).map
      (fun f => ⟨ancestor, f⟩))

end Catalog

end ScriptBridge
