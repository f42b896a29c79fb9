import StyleImport.Config.Settings
import StyleImport.Engine

/-!
# Context of a run

A run of the program has one engine, which is made when it is asked for the first time. Only then
can the temp area be emptied, so that asking again never removes what was written in between.

## Main definitions

- `Context`: the settings and the engine of a run.
- `Context.getEngine`: the engine of a run.
-/

namespace StyleImport

/-- The settings and the engine of a run. -/
structure Context where
  /-- The settings. -/
  settings : Settings
  /-- The engine, if it was asked for. -/
  engine : Option Engine

namespace Context

/-- The context at the start of a run. -/
def start (s : Settings) : Context := ⟨s, none⟩

/-- The temp area of a run. -/
def tempArea (c : Context) : TempArea := ⟨c.settings.tempDir⟩

/-- The engine that the settings describe. -/
def newEngine (c : Context) : Engine :=
  ⟨c.tempArea, c.settings.projectRoot, c.settings.packageDirs, .standard⟩

/-- The engine of a run. The first time it is made, and the temp area emptied if this is wished. -/
def getEngine (c : Context) (resetTemp : Bool) : Action (Engine × Context) := do
  match c.engine with
  | some e => return (e, c)
  | none =>
    if resetTemp then c.tempArea.reset
    let e := c.newEngine
    return (e, { c with engine := some e })

end Context

end StyleImport
