import CounterBoard.Log.Basic
import CounterBoard.Selection

/-!
The store of a dashboard: the log that was loaded last, and the current selection.
-/

set_option autoImplicit false
set_option relaxedAutoImplicit false

namespace CounterBoard

/-- The log loaded last, the empty log before that, and the selection. -/
structure Store where
  log : Log
  selection : Selection
  isLoaded : Bool
  deriving DecidableEq

namespace Store

def ofSelection (selection : Selection) : Store :=
  ⟨.empty, selection, false⟩

def load (store : Store) (log : Log) : Store :=
  { store with log, isLoaded := true }

def setGranularity (store : Store) (granularity : Granularity) : Store :=
  { store with selection := { store.selection with granularity } }

def setLookback (store : Store) (lookback : Lookback) : Store :=
  { store with selection := { store.selection with lookback } }

end Store

end CounterBoard
