import ProviderCoverage.Extraction.Strategies
import ProviderCoverage.Settings.FileFilter

/-!
# Extracting the entities of a file

The strategies run in order over a file; each one's discoveries are applied to the state in
turn. Then entities named like nested-schema helpers are dropped, an entity without attributes
takes them from the `Schema` method of its receiver, and a resource not yet known to be
importable is importable when an `ImportState` method is declared on its receiver or on the
type its name suggests (`widget_thing` suggests `WidgetThingResource`).
-/

namespace ProviderCoverage.Extraction

open Go

/-- The extraction pipeline for some settings. -/
structure Extractor where
  nestedSchema : List Glob.Glob
  settings : Settings

/-- The extractor for the settings, or the nested-schema glob that cannot be read. -/
def Extractor.new (settings : Settings) : Except ConfigError Extractor := do
  pure ⟨← compileGlobs "nested-schema-patterns" settings.nestedSchemaPatterns, settings⟩

/-- Runs the strategies over a file, with the events of each discovery. -/
def runStrategies (c : FileContext) : DiscoveryState × List Event :=
  strategies.foldl (fun (acc : DiscoveryState × List Event) strategy =>
    (strategy.discover c).foldl (fun (acc : DiscoveryState × List Event) d =>
      let seen := Event.debug .extraction (strategy.name ++ ": " ++ d.entity.key.render ++ " in " ++
        c.file.path)
      let (state, events) := acc.1.apply d
      (state, acc.2 ++ [seen] ++ events)) acc) ({}, [])

/-- The finishing of one discovered entity: attributes from its receiver's schema, and the
probe for importability. -/
def finish (c : FileContext) (state : DiscoveryState) (e : Entity) : Entity :=
  let receiver := state.receiverOf e.key
  let e := if e.attributes.isEmpty then
      match ((receiver.bind (c.method? · "Schema")).bind (·.body)) with
      | some body => { e with attributes := frameworkAttributes c.file body }
      | none => e
    else e
  if e.kind == .resource && !e.importCapable then
    let suggested := Naming.titleCase e.name ++ "Resource"
    { e with importCapable := (c.method? suggested "ImportState").isSome ||
      (receiver.bind (c.method? · "ImportState")).isSome }
  else e

/-- The entities declared in one file, in discovery order, with the events of extraction. -/
def Extractor.extract (x : Extractor) (f : File) : List Entity × List Event :=
  let c := FileContext.ofFile f x.settings
  let (state, events) := runStrategies c
  let step (acc : List Entity × List Event) (e : Entity) : List Entity × List Event :=
    if anyGlobMatches x.nestedSchema e.name then
      (acc.1, acc.2 ++ [Event.debug .extraction ("dropping nested schema helper " ++ e.key.render)])
    else (acc.1 ++ [finish c state e], acc.2)
  state.entities.foldl step ([], events)

end ProviderCoverage.Extraction
