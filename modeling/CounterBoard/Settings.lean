import CounterBoard.Dashboard
import CounterBoard.Source
import CounterBoard.Toml.Document
import CounterBoard.Wire.Names

/-!
Settings of the service: where it listens, where its snapshot lies, and what a dashboard starts
with. They are read from a TOML text, completed by defaults, and checked.
-/

set_option autoImplicit false
set_option relaxedAutoImplicit false

namespace CounterBoard

open CounterBoard.Toml (Value Entries)

inductive SettingsError
  /-- The file of the settings cannot be read. -/
  | unreadable (cause : ReadError)
  /-- The text is no document, or a setting is missing or of a wrong kind. -/
  | malformed
  | portZero
  | hostEmpty
  | pathEmpty
  | capacityZero
  deriving DecidableEq

def SettingsError.message : SettingsError → String
  | .unreadable cause => cause.message
  | .malformed => "settings cannot be read"
  | .portZero => "server.port must be between 1 and 65535, got 0"
  | .hostEmpty => "server.host must be non-empty"
  | .pathEmpty => "source.path must be non-empty"
  | .capacityZero => "dashboard.command_capacity must be > 0, got 0"

structure DashboardSettings where
  granularityLabel : String
  lookbackLabel : String
  sampling : Sampling
  commandCapacity : UInt64
  deriving DecidableEq

structure Settings where
  port : UInt16
  host : String
  path : String
  dashboard : DashboardSettings
  deriving DecidableEq

namespace DashboardSettings

def standard : DashboardSettings :=
  ⟨"hour", "1", .pointInTime, 32⟩

def selection (d : DashboardSettings) : Selection :=
  ⟨.ofLabel d.granularityLabel, .ofLabel d.lookbackLabel⟩

def toDashboard (d : DashboardSettings) : Dashboard :=
  .start d.selection .standard d.sampling

end DashboardSettings

namespace Settings

/-- The values of named fields in a table, or in an array that lists them in their order. What else
is in a table has to be readable, but what follows the fields in an array is not looked at. A moment
counts as a table that has none of them. -/
def fieldsOf? (names : List String) : Value → Option (List (Option Value))
  | .table _ entries =>
    if entries.all fun e => names.contains e.1 || e.2.isReadable then
      some (names.map fun name => entries.lookup name)
    else none
  | .array items => some ((List.range names.length).map fun i => items[i]?)
  | .tables items =>
    some ((List.range names.length).map fun i => items[i]?.map (.table .header))
  | .moment => some (names.map fun _ => none)
  | _ => none

def text? : Value → Option String
  | .string text => some text
  | _ => none

def below? (bound : Nat) : Value → Option Nat
  | .integer n => if 0 ≤ n ∧ n < bound then some n.toNat else none
  | _ => none

def isVoid : Value → Bool
  | .array items => items.isEmpty
  | .table _ entries => entries.isEmpty
  | .tables items => items.isEmpty
  | _ => false

/-- The sampling mode that a value names: a string, or a table with the name as its only key and
nothing under it. -/
def sampling? : Value → Option Sampling
  | .string name => Sampling.names.lookup name
  | .table _ [(name, value)] => if isVoid value then Sampling.names.lookup name else none
  | _ => none

/-- What is read from a field that may be absent. -/
def orStandard {α : Type} (standard : α) (read? : Value → Option α) : Option Value → Option α
  | none => some standard
  | some value => read? value

def dashboard? (value : Value) : Option DashboardSettings := do
  let names := ["default_granularity", "default_lookback", "sampling", "command_capacity"]
  match ← fieldsOf? names value with
  | [granularity, lookback, sampling, capacity] => do
    let standard := DashboardSettings.standard
    some {
      granularityLabel := ← orStandard standard.granularityLabel text? granularity
      lookbackLabel := ← orStandard standard.lookbackLabel text? lookback
      sampling := ← orStandard standard.sampling sampling? sampling
      commandCapacity := ← orStandard standard.commandCapacity
        (fun v => (below? UInt64.size v).map UInt64.ofNat) capacity }
  | _ => none

/-- The settings that a document makes; only those of the dashboard have defaults. -/
def ofEntries? (entries : Entries) : Option Settings := do
  match ← fieldsOf? ["server", "source", "dashboard"] (.table .header entries) with
  | [server, source, dashboard] => do
    match ← fieldsOf? ["port", "host"] (← server), ← fieldsOf? ["path"] (← source) with
    | [port, host], [path] => do
      some {
        port := UInt16.ofNat (← below? UInt16.size (← port))
        host := ← text? (← host)
        path := ← text? (← path)
        dashboard := ← orStandard DashboardSettings.standard dashboard? dashboard }
    | _, _ => none
  | _ => none

/-- The settings themselves, if they pass every check; else the first that they fail. -/
def check (s : Settings) : Except SettingsError Settings :=
  if s.port = 0 then .error .portZero
  else if s.host.isEmpty then .error .hostEmpty
  else if s.path.isEmpty then .error .pathEmpty
  else if s.dashboard.commandCapacity = 0 then .error .capacityZero
  else .ok s

def parse (text : String) : Except SettingsError Settings :=
  match (Toml.Document.parse? text).bind ofEntries? with
  | some s => s.check
  | none => .error .malformed

def standardFile : String := "config.toml"

def ofFile (reading : Except ReadError String) : Except SettingsError Settings := do
  let text ← reading.mapError .unreadable
  parse text

def load (folder : Folder) (file : Option String) : Except SettingsError Settings :=
  ofFile (folder.text (file.getD standardFile))

end Settings

end CounterBoard
