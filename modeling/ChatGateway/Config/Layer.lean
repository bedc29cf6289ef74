import ChatGateway.Config.Key
import ChatGateway.Config.Setting

/-!
# Layers of settings

Settings come in layers: what a later layer says about a setting replaces what an earlier one
says. A key that leads into a setting makes it a table or a list.
-/

namespace ChatGateway.Config

/-- The values of the top-level settings; each name occurs at most once. -/
abbrev Settings := List (String × Sourced)

/-- The setting that a key makes of an old value and a new one. -/
def assigned (within : Within) (old : Option Sourced) (value : Sourced) : Sourced :=
  match within with
  | .member => ⟨.table, none⟩
  | .element =>
    match old with
    | some ⟨.list, origin⟩ => ⟨.list, origin⟩
    | _ => ⟨.list, none⟩
  | .itself =>
    match value.setting with
    | .table => ⟨.table, none⟩
    | _ => value

/-- Replaces or adds the value of a name. -/
def replace (name : String) (value : Sourced) : Settings → Settings
  | [] => [(name, value)]
  | (n, v) :: rest => if n = name then (n, value) :: rest else (n, v) :: replace name value rest

/-- Gives the setting of a key a value. -/
def assign (settings : Settings) (key : String) (value : Sourced) : Settings :=
  let key := Key.ofText key
  replace key.root (assigned key.within (settings.lookup key.root) value) settings

/-- Lays values over settings. -/
def overlay (settings : Settings) (values : List (String × Sourced)) : Settings :=
  values.foldl (fun settings (key, value) => assign settings key value) settings

/-- What the names of variables start with that give settings, in any case. -/
def variablesPrefix : String := "app__"

/-- The name of a setting with a dot for every pair of underscores. -/
def dotted : List Char → List Char
  | '_' :: '_' :: rest => '.' :: dotted rest
  | c :: rest => c :: dotted rest
  | [] => []

/-- The key that the name of a variable stands for, if it gives a setting. -/
def keyOf? (name : String) : Option String :=
  let lowered := (Text.lower name).toList
  if variablesPrefix.toList.isPrefixOf lowered then
    some (String.ofList (dotted (lowered.drop variablesPrefix.length)))
  else none

/-- Where variables come from. -/
def environmentOrigin : String := "the environment"

/-- The values that variables give. -/
def ofVariables (given : List (String × String)) : List (String × Sourced) :=
  given.filterMap fun (name, value) =>
    (keyOf? name).map fun key => (key, ⟨.text value, some environmentOrigin⟩)

end ChatGateway.Config
