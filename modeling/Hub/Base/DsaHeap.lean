import Mathlib.Logic.Function.Basic

namespace hub.dsa

/-- `struct heap` with the links of all `struct heap_node`. `ν` are the addresses of
nodes. -/
structure Heap (ν : Type) where
  root : Option ν
  nelts : Nat
  parent : ν → Option ν
  left : ν → Option ν
  right : ν → Option ν

namespace Heap

variable {ν : Type} [DecidableEq ν]

def heap_init : Heap ν where
  root := none
  nelts := 0
  parent _ := none
  left _ := none
  right _ := none

def setParent (h : Heap ν) (node : ν) (value : Option ν) : Heap ν :=
  { h with parent := Function.update h.parent node value }

def setLeft (h : Heap ν) (node : ν) (value : Option ν) : Heap ν :=
  { h with left := Function.update h.left node value }

def setRight (h : Heap ν) (node : ν) (value : Option ν) : Heap ν :=
  { h with right := Function.update h.right node value }

/-- `if (node) node->parent = value`. -/
def setParentOf (h : Heap ν) (node : Option ν) (value : Option ν) : Heap ν :=
  match node with
  | none => h
  | some node => h.setParent node value

/-- The link from `parent` to `s`, or the root when there is no parent, is set to `r`. -/
def relink (h : Heap ν) (parent : Option ν) (s : ν) (r : Option ν) : Heap ν :=
  match parent with
  | none => { h with root := r }
  | some parent =>
    if h.left parent = some s then h.setLeft parent r
    else if h.right parent = some s then h.setRight parent r
    else h

/-- `heap_replace(heap, s, r)` for an `r` that is not `NULL`. -/
def heap_replace (h : Heap ν) (s r : ν) : Heap ν :=
  let h := h.relink (h.parent s) s (some r)
  let h := h.setParentOf (h.left s) (some r)
  let h := h.setParentOf (h.right s) (some r)
  let h := h.setParent r (h.parent s)
  let h := h.setLeft r (h.left s)
  h.setRight r (h.right s)

/-- There is no next state when the assertion fails. -/
def heap_swap (h : Heap ν) (parent child : ν) : Option (Heap ν) :=
  if h.parent child = some parent ∧ (h.left parent = some child ∨ h.right parent = some child) then
    let pparent := h.parent parent
    let lchild := h.left child
    let rchild := h.right child
    let h := h.relink pparent parent (some child)
    let h := h.setParentOf lchild (some parent)
    let h := h.setParentOf rchild (some parent)
    let h := h.setParent child pparent
    let sibling := if h.left parent = some child then h.right parent else h.left parent
    let h :=
      if h.left parent = some child then (h.setLeft child (some parent)).setRight child sibling
      else (h.setLeft child sibling).setRight child (some parent)
    let h := h.setParentOf sibling (some child)
    let h := h.setParent parent (some child)
    let h := h.setLeft parent lchild
    some (h.setRight parent rchild)
  else none

/-- The loop that reads the path to the last node off `nelts`, from the bottom up. It
ends with the path and its length `d`. -/
def lastPath : Nat → Nat → Nat → Nat → Nat × Nat
  | 0, _, path, d => (path, d)
  | fuel + 1, n, path, d => if n ≥ 2 then lastPath fuel (n / 2) (2 * path + n % 2) (d + 1) else (path, d)

/-- The way from the root to the parent of the last node. It ends with the parent and the
rest of the path. -/
def lastParent (h : Heap ν) : Nat → Nat → Option ν → Option (Option ν × Nat)
  | d + 2, path, parent =>
    parent.bind fun parent =>
      h.lastParent (d + 1) (path / 2) (if path % 2 = 1 then h.right parent else h.left parent)
  | _, path, parent => some (parent, path)

/-- `while (node->parent && compare(node, node->parent)) heap_swap(...)`. -/
def siftUp (compare : ν → ν → Option Bool) : Nat → Heap ν → ν → Option (Heap ν)
  | 0, _, _ => none
  | fuel + 1, h, node =>
    match h.parent node with
    | none => some h
    | some parent =>
      (compare node parent).bind fun less =>
        if less then (h.heap_swap parent node).bind fun h => siftUp compare fuel h node else some h

variable (compare : ν → ν → Option Bool)

/-- `compare(est, child) ? est : child` when there is a child. -/
def earlier (est : ν) (child : Option ν) : Option ν :=
  match child with
  | none => some est
  | some child => (compare est child).map fun less => if less then est else child

def siftDown (compare : ν → ν → Option Bool) : Nat → Heap ν → ν → Option (Heap ν)
  | 0, _, _ => none
  | fuel + 1, h, v =>
    (earlier compare v (h.left v)).bind fun est =>
      (earlier compare est (h.right v)).bind fun est =>
        if est = v then some h
        else (h.heap_swap v est).bind fun h => siftDown compare fuel h v

/-- `heap->compare` is never `NULL`. It has no result when it is given a node that is not
in memory. -/
def heap_insert (h : Heap ν) (node : ν) : Option (Heap ν) :=
  let h := { h with nelts := h.nelts + 1 }
  let (path, d) := lastPath h.nelts h.nelts 0 0
  (h.lastParent d path h.root).bind fun (parent, path) =>
    let h := h.setParent node parent
    let h :=
      match parent with
      | none => { h with root := some node }
      | some parent => if path % 2 = 1 then h.setRight parent (some node) else h.setLeft parent (some node)
    siftUp compare (h.nelts + 1) h node

def heap_remove (h : Heap ν) (node : Option ν) : Option (Heap ν) :=
  if h.nelts = 0 then some h
  else
    let (path, d) := lastPath h.nelts h.nelts 0 0
    let h := { h with nelts := h.nelts - 1 }
    (h.lastParent d path h.root).bind fun (parent, path) =>
      match parent with
      | none => some h
      | some parent =>
        let last := if path % 2 = 1 then h.right parent else h.left parent
        let h := if path % 2 = 1 then h.setRight parent none else h.setLeft parent none
        match last with
        | none => some (if h.root = node then { h with root := none } else h)
        | some last =>
          node.bind fun node =>
            let h := h.heap_replace node last
            let h := ((h.setParent node none).setLeft node none).setRight node none
            (siftDown compare (h.nelts + 1) h last).bind fun h => siftUp compare (h.nelts + 1) h last

def heap_dequeue (h : Heap ν) : Option (Heap ν) := h.heap_remove compare h.root

end Heap

end hub.dsa
