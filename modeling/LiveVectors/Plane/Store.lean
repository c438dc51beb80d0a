import LiveVectors.Plane.Value

/-!
# The store of vectors

All vectors of a run live in one store.  A vector gets the next free identity when it is made and
keeps it for good; only its components change.  The laws say that writing one vector leaves the
others alone, and that making one leaves all others alone.
-/

set_option autoImplicit false

namespace LiveVectors

/-- The components of every vector, by identity. -/
structure Store where
  cells : Array PlaneVector
deriving DecidableEq, Repr

namespace Store

/-- The store without vectors. -/
def empty : Store := ⟨#[]⟩

/-- The number of vectors, which is also the identity of the next one. -/
def size (store : Store) : Nat := store.cells.size

/-- The components of a vector. -/
def get (store : Store) (id : VectorId) : PlaneVector := store.cells.getD id default

/-- The store after a vector's components are overwritten. -/
def set (store : Store) (id : VectorId) (v : PlaneVector) : Store :=
  ⟨store.cells.setIfInBounds id v⟩

/-- The store with one more vector, whose identity is the size of the store before. -/
def push (store : Store) (v : PlaneVector) : Store := ⟨store.cells.push v⟩

/-- A value with the components that its vector has now. -/
def snapshot (store : Store) : Value → Snapshot
  | .number x => .number x
  | .text s => .text s
  | .vector id => .vector (store.get id)
  | .truth b => .truth b
  | .absent => .absent

@[simp] theorem size_set (store : Store) (id : VectorId) (v : PlaneVector) :
    (store.set id v).size = store.size := by
  simp [set, size]

@[simp] theorem size_push (store : Store) (v : PlaneVector) :
    (store.push v).size = store.size + 1 := by
  simp [push, size]

theorem get_set_self (store : Store) {id : VectorId} (v : PlaneVector) (h : id < store.size) :
    (store.set id v).get id = v := by
  rw [size] at h
  simp [set, get, Array.getD_eq_getD_getElem?, h]

theorem get_set_ne (store : Store) {id other : VectorId} (v : PlaneVector) (h : other ≠ id) :
    (store.set id v).get other = store.get other := by
  simp [set, get, Array.getD_eq_getD_getElem?, h.symm]

theorem get_push_lt (store : Store) {id : VectorId} (v : PlaneVector) (h : id < store.size) :
    (store.push v).get id = store.get id := by
  rw [size] at h
  have ne : id ≠ store.cells.size := Nat.ne_of_lt h
  simp [push, get, Array.getD_eq_getD_getElem?, Array.getElem?_push, ne]

theorem get_push_self (store : Store) (v : PlaneVector) :
    (store.push v).get store.size = v := by
  simp [push, get, size, Array.getD_eq_getD_getElem?]

end Store
end LiveVectors
