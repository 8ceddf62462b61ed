import NestedRouting.Navigation.History
import NestedRouting.Pattern.Recognizer
import NestedRouting.Text.Quoted
import NestedRouting.Toml.Document
import NestedRouting.Unicode.Property

/-!
# Configuration

The settings of a router, with their defaults. They are read from a TOML document or from data; what
is not mentioned there keeps its default, and unknown keys are ignored. A file that does not exist
stands for the defaults.
-/

namespace NestedRouting

/-- How routes are matched. -/
structure RoutingSettings where
  caseInsensitive : Bool := true
  strict : Bool := false
  /-- Whether every pattern must match the whole path. -/
  whole : Bool := false
  /-- The text in front of all patterns. -/
  basePath : Option String := none
  deriving DecidableEq, Repr

/-- How a router follows its history. -/
structure NavigationSettings where
  /-- The event of the history that tells of changes; an empty name stands for none. -/
  changeEvent : String := popstate
  /-- Where the router's own history starts. -/
  initialPath : String := "/"
  deriving DecidableEq, Repr

/-- The settings of a router. -/
structure Config where
  routing : RoutingSettings := {}
  navigation : NavigationSettings := {}
  deriving DecidableEq, Repr

/-- How patterns are matched under the settings. -/
def RoutingSettings.options (r : RoutingSettings) : Options :=
  { sensitive := !r.caseInsensitive, strict := r.strict, whole := r.whole }

/-- How settings are read from values of a type `α`. -/
structure SettingSource (α : Type) where
  /-- The values of the fields with the given names, if the value is a record. -/
  fields : List String → α → Option (List (Option α))
  bool? : α → Option Bool
  text? : α → Option String
  /-- Whether a value stands for one that is missing, where one may be missing. -/
  isNull : α → Bool

namespace SettingSource

variable {α β : Type}

/-- A setting with a default. -/
def setting (read : α → Option β) (value : Option α) (default : β) : Option β :=
  match value with
  | none => some default
  | some a => read a

/-- Reads the settings of routes. -/
def routing? (src : SettingSource α) (a : α) : Option RoutingSettings := do
  let values ← src.fields ["case_insensitive", "strict", "end", "base_path"] a
  let at_ := fun (i : Nat) => values[i]?.join
  let d : RoutingSettings := {}
  let caseInsensitive ← setting src.bool? (at_ 0) d.caseInsensitive
  let strict ← setting src.bool? (at_ 1) d.strict
  let whole ← setting src.bool? (at_ 2) d.whole
  let path? := fun a => if src.isNull a then some none else (src.text? a).map some
  let basePath ← setting path? (at_ 3) d.basePath
  return { caseInsensitive, strict, whole, basePath }

/-- Reads the settings of navigation. -/
def navigation? (src : SettingSource α) (a : α) : Option NavigationSettings := do
  let values ← src.fields ["change_event", "initial_path"] a
  let d : NavigationSettings := {}
  let changeEvent ← setting src.text? values[0]?.join d.changeEvent
  let initialPath ← setting src.text? values[1]?.join d.initialPath
  return { changeEvent, initialPath }

/-- Reads all settings. -/
def config? (src : SettingSource α) (a : α) : Option Config := do
  let values ← src.fields ["routing", "navigation"] a
  let d : Config := {}
  let routing ← setting src.routing? values[0]?.join d.routing
  let navigation ← setting src.navigation? values[1]?.join d.navigation
  return { routing, navigation }

/-- Settings in TOML. A record is a table, or an array of its fields in order. A date is a record
too, one without any of the fields that are asked for. -/
def toml : SettingSource Toml where
  fields names t :=
    match t with
    | .table _ => some (names.map t.entry?)
    | .array items => some ((items.take names.length).map some)
    | .datetime => some []
    | _ => none
  bool? t :=
    match t with
    | .bool b => some b
    | _ => none
  text? t :=
    match t with
    | .string s => some s
    | _ => none
  isNull _ := false

/-- Settings as data. A record is an object, or an array of its fields in order. -/
def data : SettingSource Data where
  fields names d :=
    match d with
    | .object _ => some (names.map d.field?)
    | .array items => if items.length ≤ names.length then some (items.map some) else none
    | _ => none
  bool? d :=
    match d with
    | .bool b => some b
    | _ => none
  text? d :=
    match d with
    | .string s => some s
    | _ => none
  isNull d :=
    match d with
    | .null => true
    | _ => false

end SettingSource

/-- Why a configuration is refused. -/
inductive ConfigError
  /-- The text is no configuration. -/
  | invalid
  /-- The file with a name cannot be read. -/
  | unreadable (name : Text)
  /-- The text of the file with a name is no configuration. -/
  | invalidFile (name : Text)
  deriving DecidableEq, Repr

/-- The messages of an error, outermost first. -/
def ConfigError.messages : ConfigError → List String
  | invalid => ["Invalid router configuration"]
  | unreadable name =>
    ["Failed to read router config file: " ++ String.ofList (Text.quoted name)]
  | invalidFile name =>
    ["Failed to parse router config file: " ++ String.ofList (Text.quoted name),
      "Invalid router configuration"]

/-- What is found under the name of a file. -/
inductive FileContent
  | missing
  /-- Something whose bytes cannot be read. -/
  | unreadable
  | bytes (bs : ByteArray)

namespace Config

instance : Inhabited Config := ⟨{}⟩

/-- Reads a configuration; a text of white space alone stands for the defaults. -/
def ofText (s : Text) : Except ConfigError Config :=
  if s.all Unicode.isSpace then .ok {}
  else
    match (Toml.read s).bind SettingSource.toml.config? with
    | some c => .ok c
    | none => .error .invalid

/-- The name of the file that is read when none is given. -/
def defaultFile : Text := "route-tree.toml".toList

/-- Reads a configuration from a file. -/
def ofFile (name : Text) : FileContent → Except ConfigError Config
  | .missing => .ok {}
  | .unreadable => .error (.unreadable name)
  | .bytes bs =>
    match String.fromUTF8? bs with
    | none => .error (.unreadable name)
    | some s => (ofText s.toList).mapError fun _ => .invalidFile name

end Config

end NestedRouting
