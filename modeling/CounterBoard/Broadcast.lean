/-!
A place where the latest of a sequence of values can be read at any time, and where each reader
knows whether there is a value it has not seen.
-/

set_option autoImplicit false
set_option relaxedAutoImplicit false

namespace CounterBoard

structure Broadcast (α : Type) where
  latest : Option α
  published : Nat
  deriving DecidableEq

/-- How many of the published values a reader has seen or passed over. -/
structure Receiver where
  seen : Nat
  deriving DecidableEq

namespace Broadcast

variable {α : Type}

def empty : Broadcast α :=
  ⟨none, 0⟩

def publish (b : Broadcast α) (value : α) : Broadcast α :=
  ⟨some value, b.published + 1⟩

/-- A reader that has nothing left to see. -/
def subscribe (b : Broadcast α) : Receiver :=
  ⟨b.published⟩

def hasChanged (b : Broadcast α) (r : Receiver) : Bool :=
  r.seen != b.published

def read (b : Broadcast α) (_ : Receiver) : Option α × Receiver :=
  (b.latest, ⟨b.published⟩)

end Broadcast

end CounterBoard
