import StateExpr.Calendar.Moment
import StateExpr.Zone.Mapping
/-!
# Time zones

A zone tells by how many seconds its clocks are ahead of universal time at each instant.  A clock
reading in a zone may belong to one instant, to two when the clocks are set back, or to none when
they are set forward.

Which zones there are and what their offsets are is not known here; a `ZoneDatabase` tells.

Main definitions: `Zone.clockAt`, `Zone.instantOf?` and `ZoneMapping.zoneIn?`.
-/

namespace StateExpr

/-- A zone by the offsets that its clocks can have, in seconds with the greatest first, and by the
one that they have at an instant, given as seconds since 1970. -/
structure Zone where
  name : String
  offsets : List Int
  offsetAt : Int → Int

/-- Zones by their names. -/
abbrev ZoneDatabase := String → Option Zone

namespace Zone

/-- What the clocks of the zone show at an instant. -/
def clockAt (z : Zone) (instant : Moment) : Moment :=
  instant.moveClock (z.offsetAt instant.timestamp)

/-- The first instant at which the clocks of the zone show a reading. -/
def instantOf? (z : Zone) (clock : Moment) : Option Moment :=
  z.offsets.findSome? fun offset =>
    let instant := clock.moveClock (-offset)
    if z.offsetAt instant.timestamp = offset then instant.checked else none

end Zone

/-- The zone of a Windows or IANA name in a database. -/
def ZoneMapping.zoneIn? (database : ZoneDatabase) (mapping : ZoneMapping) (id : String) :
    Option Zone :=
  if mapping.holds id || (database id).isSome then database (mapping.toIana id) else none

end StateExpr
