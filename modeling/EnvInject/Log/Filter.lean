import EnvInject.Log.Directive

/-!
# Log filters

A filter is a list of directives, written with commas between them. Of the directives that concern
an event the closest one counts. An event that no directive concerns is dropped.
-/

namespace EnvInject

namespace Log

/-- The directives of a filter. -/
structure Filter where
  /-- The directives, of which no two ask the same of events. -/
  directives : List Directive
  deriving DecidableEq, Repr

/-- The filter with one more directive, which takes the place of an older one that asks the same. -/
def Filter.add (filter : Filter) (directive : Directive) : Filter :=
  let others := filter.directives.filter fun other =>
    other.target != directive.target || other.condition != directive.condition
  ⟨others ++ [directive]⟩

/-- The filter that lets one level pass, and all that ranks lower. -/
def Filter.ofLevel (level : Level) : Filter :=
  ⟨[⟨none, .anything, level.rank⟩]⟩

/-- The filter of some directives. Without any it lets failures pass. -/
def Filter.ofDirectives (directives : List Directive) : Filter :=
  if directives.isEmpty then .ofLevel .error else directives.foldl Filter.add ⟨[]⟩

/-- The parts of a filter. Nothing between two commas is no part. -/
def Filter.parts (text : String) : List String :=
  ((splitChars ',' text.toList).filter (!·.isEmpty)).map String.ofList

/-- Reads a filter. -/
def Filter.parse? (text : String) : Option Filter :=
  ((Filter.parts text).mapM Directive.parse?).map Filter.ofDirectives

/-- Reads the parts of a filter that are directives. -/
def Filter.parseSome (text : String) : Filter :=
  .ofDirectives ((Filter.parts text).filterMap Directive.parse?)

/-- The closest of the directives that concern an event. -/
def Filter.closest? (filter : Filter) (event : Event) : Option Directive :=
  (filter.directives.filter (·.concerns event)).foldl (fun best next =>
    if best.all next.isAsClose then some next else best) none

/-- Whether the filter lets an event pass. -/
def Filter.passes (filter : Filter) (event : Event) : Bool :=
  (filter.closest? event).any (event.level.rank ≤ ·.threshold)

end Log

end EnvInject
