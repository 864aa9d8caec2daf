import ComponentLikeness.Component.Cache
import ComponentLikeness.Component.OfSource
import ComponentLikeness.Log

/-!
# Sessions

What lasts from one comparison to the next: the fingerprints remembered, if any
are, and the events told so far. Fingerprinting goes through the store: look
up, compute if need be, remember.
-/

namespace ComponentLikeness

open Component

/-- The state of a session. -/
structure Session where
  cache : Option FingerprintCache := none
  /-- The events so far, the latest one last. -/
  events : Array LogEvent := #[]
deriving Inhabited

/-- Steps of a session. -/
abbrev SessionM := StateM Session

namespace Session

/-- A session under the given settings: nothing is remembered yet, and nothing
ever is if the capacity is zero. -/
def ofSettings (settings : Settings) (retention : Retention := .full) : Session :=
  let capacity := settings.corpus.effectiveCacheCapacity
  if capacity = 0 then {}
  else { cache := some { FingerprintCache.ofCapacity capacity.toNat with retention } }

/-- Tell an event. -/
def tell (event : LogEvent) : SessionM Unit :=
  modify fun s => { s with events := s.events.push event }

/-- Tell several events. -/
def tellAll (events : List LogEvent) : SessionM Unit :=
  modify fun s => { s with events := s.events ++ events.toArray }

/-- The fingerprint still remembered for a text. -/
def lookup (text : String) : SessionM (Option Fingerprint) := do
  modify fun s => { s with cache := s.cache.map (·.age) }
  return (← get).cache.bind fun c => c.get? text

/-- Remember the fingerprint of a text. -/
def remember (text : String) (f : Fingerprint) : SessionM Unit :=
  modify fun s => { s with cache := s.cache.map fun c => c.insert text f }

/-- The event of a fingerprint that has been computed. -/
def computedEvent (f : Fingerprint) : LogEvent :=
  .fingerprinted f.name f.props.size f.styleTokens.size

/-- Compute the fingerprint of a text. -/
def compute (settings : AnalysisSettings) (text : String) :
    SessionM (Except SourceError Fingerprint) :=
  match Fingerprint.ofSource settings text with
  | .ok f => do
    tell (computedEvent f)
    return .ok f
  | .error e => return .error e

/-- The fingerprint of a text, remembered or computed. -/
def fingerprint (settings : AnalysisSettings) (text : String) :
    SessionM (Except SourceError Fingerprint) := do
  match ← lookup text with
  | some f => return .ok f
  | none =>
    match ← compute settings text with
    | .ok f =>
      remember text f
      return .ok f
    | .error e => return .error e

end Session

end ComponentLikeness
