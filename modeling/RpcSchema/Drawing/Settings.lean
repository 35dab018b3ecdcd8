import RpcSchema.Drawing.Wire
import RpcSchema.Options.Registry

/-!
# Settings of a drawing program

What the options of a drawing program set. An option reads the whole of its value before it sets
anything, so one that fails leaves the settings as they were.

## Main definitions

* `Settings` — the settings
* `options` — the options, in the order of the schema
-/

namespace RpcSchema.Drawing

open RpcSchema.Options

/-- The settings of a drawing program. -/
structure Settings where
  verbose : Bool
  name : Option String
  origin : Option Point
  palette : List Color
  deriving DecidableEq

/-- The settings before any option. -/
def Settings.default : Settings := ⟨false, none, none, []⟩

/-- What an option does with its value: it sets something once the value is read. -/
def setting [OptionValue α] (change : α → Settings → Settings) (kvs : KeyValues) :
    Action Settings :=
  fun settings =>
    match OptionValue.ofPairs kvs with
    | .ok value => (change value settings, .ok ())
    | .error error => (settings, .error error)

/-- The options, in the order of the schema. -/
def options : Registry Settings :=
  [("verbose", .bare fun settings => ({ settings with verbose := true }, .ok ())),
    ("name", .withArgument .scalar (setting fun name settings =>
      { settings with name := some name })),
    ("origin", .withArgument (.pairs (some "x")) (setting fun origin settings =>
      { settings with origin := some origin })),
    ("palette", .withArgument (.pairs none) (setting fun palette settings =>
      { settings with palette }))]

end RpcSchema.Drawing
