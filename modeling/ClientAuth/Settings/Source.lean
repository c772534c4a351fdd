import ClientAuth.Settings.Basic
import ClientAuth.Settings.EnvFile
import ClientAuth.Text.Case

/-! Where settings come from: arguments first, then the environment, then an
environment file. Names may be of either case everywhere. -/
namespace ClientAuth.Settings

/-- The value of a name in an environment, whatever the case of its letters. Of
several spellings the last counts, and a name without a value is not set. -/
def spelled? (name : String) (given : List (String × Option String)) : Option String :=
  ((given.reverse.find? fun (key, _) => Text.lower key = Text.lower name).bind (·.2))

/-- The value of a name among arguments. The name as it is counts before other
spellings, and of these the first. -/
def argument? (name : String) (arguments : List (String × Json)) : Option Json :=
  (Json.lookup? name arguments).or
    ((arguments.find? fun (key, _) => Text.lower key = Text.lower name).map (·.2))

/-- The values of all settings that are given anywhere. -/
def gather (arguments : List (String × Json)) (environment : List (String × String))
    (file : Option String) : List (String × Json) :=
  let outer := environment.map fun (name, value) => (name, some value)
  let inner := (file.map (EnvFile.assignments environment)).getD []
  names.filterMap fun name =>
    match argument? name arguments with
    | some value => some (name, value)
    | none =>
        ((spelled? name outer).or (spelled? name inner)).map fun value => (name, .text value)

/-- Loads and checks settings. -/
def load (arguments : List (String × Json)) (environment : List (String × String))
    (file : Option String) : Checked Settings :=
  ofMembers (gather arguments environment file)

/-- Settings that are loaded once. Failures are not kept. -/
structure Cache where
  held : Option Settings

/-- The cached settings, or new ones from the environment. -/
def Cache.get (cache : Cache) (environment : List (String × String)) :
    Checked Settings × Cache :=
  match cache.held with
  | some settings => (.ok settings, cache)
  | none =>
      match load [] environment none with
      | .ok settings => (.ok settings, ⟨some settings⟩)
      | .error complaints => (.error complaints, cache)

end ClientAuth.Settings
