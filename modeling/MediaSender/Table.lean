/-!
Tables of numbered entries. Entries are added at the end and changed in place; a number that has
not been given out holds the default entry.
-/

namespace MediaSender

structure Table (α : Type) where
  size : Nat
  entry : Nat → α

namespace Table

variable {α : Type}

def empty [Inhabited α] : Table α := ⟨0, fun _ => default⟩

def set (t : Table α) (i : Nat) (a : α) : Table α :=
  { t with entry := fun j => if j = i then a else t.entry j }

def push (t : Table α) (a : α) : Table α := { t.set t.size a with size := t.size + 1 }

def modify (t : Table α) (i : Nat) (f : α → α) : Table α := t.set i (f (t.entry i))

@[simp] theorem entry_set_self (t : Table α) (i : Nat) (a : α) : (t.set i a).entry i = a := by
  simp [set]

theorem entry_set_ne (t : Table α) {i j : Nat} (a : α) (h : j ≠ i) :
    (t.set i a).entry j = t.entry j := by
  simp [set, h]

@[simp] theorem size_set (t : Table α) (i : Nat) (a : α) : (t.set i a).size = t.size := rfl

@[simp] theorem size_push (t : Table α) (a : α) : (t.push a).size = t.size + 1 := rfl

@[simp] theorem entry_push_size (t : Table α) (a : α) : (t.push a).entry t.size = a := by
  simp [push, set]

theorem entry_push_ne (t : Table α) {j : Nat} (a : α) (h : j ≠ t.size) :
    (t.push a).entry j = t.entry j := by
  simp [push, set, h]

end Table

end MediaSender
