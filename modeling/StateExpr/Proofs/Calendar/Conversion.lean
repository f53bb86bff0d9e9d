import StateExpr.Proofs.Calendar.Shift
import StateExpr.Proofs.Calls
/-!
# Between universal time and the clocks of a zone

The time on the clocks of a zone is written with their offset, and what reads it back goes by that
offset and not by the zone.  So an instant comes back from the clocks of every zone whose offsets
are whole minutes, as they are written, even where the clocks show a time twice.

Main statements: `OffsetStyle.takeOffset3339?_colon`, `Timestamp.written?_zonedText` and
`Expr.conversion_round_trip`.
-/

namespace StateExpr

/-! ## Offsets -/

theorem Timestamp.takeOffset?_colon {hours minutes : ℕ} (hhours : hours < 100)
    (hminutes : minutes < 60) (negative : Bool) :
    takeOffset? (takeChar? ':') negative
        (paddedDigits 2 hours ++ ':' :: (paddedDigits 2 minutes ++ [])) =
      some (if negative then -(hours * 3600 + minutes * 60 : ℤ) else hours * 3600 + minutes * 60,
        []) := by
  rw [takeOffset?, Option.bind_eq_bind,
    takeDigits?_paddedDigits (show hours < 10 ^ 2 by omega) (by decide), Option.bind_some]
  simp only [Option.bind_eq_bind]
  rw [takeChar?_cons, Option.bind_some,
    takeDigits?_paddedDigits (show minutes < 10 ^ 2 by omega) (by decide), Option.bind_some]
  exact if_pos hminutes

namespace OffsetStyle

variable {offset : ℤ}

/-- A sign, and hours and minutes in two places each. -/
theorem colon_render (hsize : offset.natAbs < 86400) :
    colon.render offset = (if offset < 0 then '-' else '+') ::
      (paddedDigits 2 ((offset.natAbs + 30) / 60 / 60) ++
        ':' :: (paddedDigits 2 ((offset.natAbs + 30) / 60 % 60) ++ [])) := by
  have hhours : (offset.natAbs + 30) / 60 / 60 < 100 := by omega
  have hminutes : (offset.natAbs + 30) / 60 % 60 < 100 := by omega
  rw [← twoPlaces_zero hhours, ← twoPlaces_zero hminutes, List.append_nil]
  rfl

/-- **An offset of whole minutes is read as it is written.** -/
theorem takeOffset3339?_colon (h : 60 ∣ offset) (hsize : offset.natAbs < 86400) :
    Timestamp.takeOffset3339? (colon.render offset) = some (offset, []) := by
  have hread := Timestamp.takeOffset?_colon (show (offset.natAbs + 30) / 60 / 60 < 100 by omega)
    (show (offset.natAbs + 30) / 60 % 60 < 60 by omega)
  have hvalue : (((offset.natAbs + 30) / 60 / 60 : ℕ) * 3600 +
      ((offset.natAbs + 30) / 60 % 60 : ℕ) * 60 : ℤ) = offset.natAbs := by omega
  rw [hvalue] at hread
  rw [colon_render hsize]
  by_cases hneg : offset < 0
  · rw [if_pos hneg]
    refine (hread true).trans ?_
    rw [if_pos rfl, show -(offset.natAbs : ℤ) = offset by omega]
  · rw [if_neg hneg]
    refine (hread false).trans ?_
    rw [if_neg (by decide), show (offset.natAbs : ℤ) = offset by omega]

theorem graphic_colon (hsize : offset.natAbs < 86400) : ∀ c ∈ colon.render offset, Graphic c := by
  rw [colon_render hsize, List.forall_mem_cons, List.forall_mem_append, List.forall_mem_cons,
    List.append_nil]
  refine ⟨?_, (allDigits_paddedDigits 2 _).graphic, by decide, (allDigits_paddedDigits 2 _).graphic⟩
  split <;> decide

end OffsetStyle

/-! ## Zones -/

/-- The offsets of the zone are whole minutes, less than a day. -/
structure Zone.WholeMinutes (z : Zone) : Prop where
  minutes : ∀ seconds, 60 ∣ z.offsetAt seconds
  size : ∀ seconds, (z.offsetAt seconds).natAbs < 86400

/-! ## Texts of clocks with their offset -/

namespace Timestamp

/-- A clock reading with its offset, as it is written without a format. -/
def zonedText (clock : Moment) (offset : ℤ) : String :=
  String.ofList (clock.isoFields.charsWith (OffsetStyle.colon.render offset))

variable {clock instant : Moment} {offset : ℤ} (hclock : clock.Proper)
  (hyear : 0 ≤ clock.date.year ∧ clock.date.year ≤ 9999)
include hclock hyear

theorem write_defaultPattern (zoneName : String) :
    write UserFormat.defaultPattern ⟨clock, offset, zoneName⟩ = .ok (zonedText clock offset) := by
  have hstamp : (Stamp.mk clock offset zoneName).moment.Proper := hclock
  rw [write, Pattern.render?, items?_defaultPattern, Option.map_some, Pattern.renderItems,
    hstamp.flatMap_isoItems hyear]
  rfl

/-- **A clock reading comes back with its instant**, by its offset and nothing else. -/
theorem written?_zonedText (hmillis : clock.nanos % 1000000 = 0) (hoffset : 60 ∣ offset)
    (hsize : offset.natAbs < 86400)
    (hinstant : (clock.moveClock (-offset)).checked = some instant) :
    written? (zonedText clock offset) = some ⟨clock, some instant⟩ := by
  have htrim : trimChars (zonedText clock offset).toList =
      clock.isoFields.charsWith (OffsetStyle.colon.render offset) := by
    rw [zonedText, String.toList_ofList]
    exact trimChars_of_graphic (graphic_charsWith _ (OffsetStyle.graphic_colon hsize))
  have hread : rfc3339? (trimChars (zonedText clock offset).toList) =
      some ⟨clock, some instant⟩ := by
    rw [htrim, rfc3339?_charsWith (hclock.legal hyear)
      (OffsetStyle.takeOffset3339?_colon hoffset hsize) hsize,
      hclock.moment_isoFields hyear hmillis, withOffset?, hinstant]
    rfl
  unfold written?
  dsimp only
  rw [hread]
  rfl

end Timestamp

/-! ## There and back -/

namespace Zone

variable {z : Zone} {m : Moment}

theorem WholeMinutes.proper_clockAt (hz : z.WholeMinutes) (hm : m.Proper) : (z.clockAt m).Proper :=
  hm.moveClock (hz.minutes _)

/-- The offset leads back from the clocks. -/
theorem checked_moveClock_clockAt (z : Zone) (hm : m.Proper)
    (hyear : 0 ≤ m.date.year ∧ m.date.year ≤ 9999) :
    ((z.clockAt m).moveClock (-z.offsetAt m.timestamp)).checked = some m := by
  rw [clockAt, Moment.moveClock_moveClock, add_neg_cancel, Moment.moveClock_zero hm.second,
    Moment.checked_of_four_digits hyear]

end Zone

namespace Expr

section

variable {σ : Type} {database : ZoneDatabase} {id t : String} {z : Zone} {m : Moment} {e : Expr}
  {ms : List (Meaning σ)} {s s' : σ} (hzone : ZoneMapping.bundled.zoneIn? database id = some z)
include hzone

theorem readZone_eq : readZone database id = (pure z : Action σ Zone) := by
  rw [readZone, hzone]
  rfl

/-- An instant is written as the clocks of the zone show it, with their offset. -/
theorem runConvertFromUtc_eq (hz : z.WholeMinutes) (ht : Timestamp.iso? t = some m)
    (hyear : 0 ≤ (z.clockAt m).date.year ∧ (z.clockAt m).date.year ≤ 9999)
    (hargs : Meaning.arguments none ms s = (.ok [.text t, .text id], s')) :
    runConvertFromUtc database e ms s =
      (.ok (.text (Timestamp.zonedText (z.clockAt m) (z.offsetAt m.timestamp))), s') := by
  have hproper := hz.proper_clockAt (Timestamp.proper_of_iso? ht).2.1
  have htimestamp : textAt? [.text t, .text id] 0 = some t := rfl
  have hid : textAt? [.text t, .text id] 1 = some id := rfl
  have hformat : textAt? [.text t, .text id] 2 = none := rfl
  unfold runConvertFromUtc
  rw [Action.bind_of_ok hargs]
  simp only [htimestamp, hid, hformat, ofTimestamp_readIso ht, readZone_eq hzone, pure_bind,
    Timestamp.writeAs, Timestamp.write_defaultPattern hproper hyear, ofTimestamp_ok]
  rfl

/-- A clock reading with an offset is written as its instant, whatever the zone. -/
theorem runConvertToUtc_eq {w : Timestamp.Written} (hread : Timestamp.written? t = some w)
    (hm : w.instant = some m) (hproper : m.Proper)
    (hyear : 0 ≤ m.date.year ∧ m.date.year ≤ 9999)
    (hargs : Meaning.arguments none ms s = (.ok [.text t, .text id], s')) :
    runConvertToUtc database e ms s = (.ok (.text (Timestamp.zonedText m 0)), s') := by
  have htimestamp : textAt? [.text t, .text id] 0 = some t := rfl
  have hid : textAt? [.text t, .text id] 1 = some id := rfl
  have hformat : textAt? [.text t, .text id] 2 = none := rfl
  have hinstant : (w.instant.orElse fun _ => z.instantOf? w.clock) = some m := by
    rw [hm]
    rfl
  unfold runConvertToUtc
  rw [Action.bind_of_ok hargs]
  simp only [htimestamp, hid, hformat, hread, hinstant, readZone_eq hzone, pure_bind,
    Timestamp.writeAs, Stamp.utc, Timestamp.write_defaultPattern hproper hyear, ofTimestamp_ok]
  rfl

/-- **An instant comes back from the clocks of a zone** that go by whole minutes. -/
theorem exists_conversions (hz : z.WholeMinutes) (ht : Timestamp.iso? t = some m)
    (hyear : 0 ≤ (z.clockAt m).date.year ∧ (z.clockAt m).date.year ≤ 9999) :
    ∃ there back, Timestamp.lenient? back = some m ∧
      (∀ {σ : Type} e (ms : List (Meaning σ)) s s',
        Meaning.arguments none ms s = (.ok [.text t, .text id], s') →
        runConvertFromUtc database e ms s = (.ok (.text there), s')) ∧
      ∀ {σ : Type} e (ms : List (Meaning σ)) s s',
        Meaning.arguments none ms s = (.ok [.text there, .text id], s') →
        runConvertToUtc database e ms s = (.ok (.text back), s') := by
  obtain ⟨-, hm, hyears⟩ := Timestamp.proper_of_iso? ht
  have hmillis := Timestamp.millis_of_iso? ht
  have hthere := Timestamp.written?_zonedText (hz.proper_clockAt hm) hyear hmillis (hz.minutes _)
    (hz.size _) (z.checked_moveClock_clockAt hm hyears)
  have hback : Timestamp.written? (Timestamp.zonedText m 0) = some ⟨m, some m⟩ := by
    refine Timestamp.written?_zonedText hm hyears hmillis (by decide) (by decide) ?_
    rw [neg_zero, Moment.moveClock_zero hm.second, Moment.checked_of_four_digits hyears]
  refine ⟨Timestamp.zonedText (z.clockAt m) (z.offsetAt m.timestamp), Timestamp.zonedText m 0, ?_,
    fun e ms s s' hargs => ?_, fun e ms s s' hargs => ?_⟩
  · rw [Timestamp.lenient?, hback]
    rfl
  · exact runConvertFromUtc_eq hzone hz ht hyear hargs
  · exact runConvertToUtc_eq hzone hthere rfl hm hyears hargs

end

/-- **Conversion to a zone and back.**  In every database of zones, a timestamp that is converted to
the clocks of a zone with offsets of whole minutes, and read there in a year of four digits, is
converted back to a text of the same instant.  So it is when one operator stands in the other. -/
theorem conversion_round_trip (ambient : Ambient) :
    (∀ database id z t m, ZoneMapping.bundled.zoneIn? database id = some z → z.WholeMinutes →
      Timestamp.iso? t = some m →
      0 ≤ (z.clockAt m).date.year → (z.clockAt m).date.year ≤ 9999 →
      ∃ there back, Timestamp.lenient? back = some m ∧
        (∀ {σ : Type} e (ms : List (Meaning σ)) s s',
          Meaning.arguments none ms s = (.ok [.text t, .text id], s') →
          runConvertFromUtc database e ms s = (.ok (.text there), s')) ∧
        ∀ {σ : Type} e (ms : List (Meaning σ)) s s',
          Meaning.arguments none ms s = (.ok [.text there, .text id], s') →
          runConvertToUtc database e ms s = (.ok (.text back), s')) ∧
    ∀ id z t m, ZoneMapping.bundled.zoneIn? ambient.zones id = some z → z.WholeMinutes →
      Timestamp.iso? t = some m →
      0 ≤ (z.clockAt m).date.year → (z.clockAt m).date.year ≤ 9999 →
      ∃ back, Timestamp.lenient? back = some m ∧ ∀ cs c s u s',
        Operands cs s [.text t, .text id] u → c.evaluate.outcome u = (.ok (.text id), s') →
        (operation ambient .convertToUtc
          [operation ambient .convertFromUtc cs, c]).evaluate.outcome s =
            (.ok (.text back), s') := by
  refine ⟨fun database id z t m hzone hz ht hfirst hlast =>
    exists_conversions hzone hz ht ⟨hfirst, hlast⟩, fun id z t m hzone hz ht hfirst hlast => ?_⟩
  obtain ⟨there, back, hback, hfrom, hto⟩ :=
    exists_conversions hzone hz ht ⟨hfirst, hlast⟩
  refine ⟨back, hback, fun cs c s u s' hcs hc => ?_⟩
  have hinner : (operation ambient .convertFromUtc cs).evaluate.outcome s =
      (.ok (.text there), u) := by
    have hplain : Operator.convertFromUtc.isComprehension = false := rfl
    rw [evaluate_of_special hplain rfl]
    exact hfrom _ _ s u (hcs.arguments (checked_none 0 _))
  have houter : Operands [operation ambient .convertFromUtc cs, c] s [.text there, .text id] s' :=
    .cons hinner (.cons hc .nil)
  have hplain : Operator.convertToUtc.isComprehension = false := rfl
  rw [evaluate_of_special hplain rfl]
  exact hto _ _ s s' (houter.arguments (checked_none 0 _))

/-- The clocks of California show half past one twice in the night in which they are set back, and
both instants come back. -/
theorem conversion_round_trip_repeated_hour :
    let z : Zone := ⟨"America/Los_Angeles", [-25200, -28800],
      fun seconds => if seconds < 1572771600 then -25200 else -28800⟩
    let database : ZoneDatabase := fun _ => some z
    let args := fun t => [constant (.text t), constant (.text "America/Los_Angeles")].map
      (meaning .nested resolvingAction?)
    let comesBack := fun (t : String) (m : Moment) => Timestamp.iso? t = some m ∧
      ∃ there back, Timestamp.lenient? back = some m ∧
        runConvertFromUtc database (constant .null) (args t) .null = (.ok (.text there), .null) ∧
        runConvertToUtc database (constant .null) (args there) .null = (.ok (.text back), .null)
    z.clockAt ⟨18203, 30600, 0⟩ = z.clockAt ⟨18203, 34200, 0⟩ ∧
      comesBack "2019-11-03T08:30:00.000Z" ⟨18203, 30600, 0⟩ ∧
      comesBack "2019-11-03T09:30:00.000Z" ⟨18203, 34200, 0⟩ := by
  intro z database args comesBack
  have hwhole : z.WholeMinutes := by
    constructor
    all_goals
      intro seconds
      dsimp only [z]
      split <;> decide
  have hfound : ZoneMapping.bundled.zoneIn? database "America/Los_Angeles" = some z := by
    rw [ZoneMapping.zoneIn?, Option.isSome_some, Bool.or_true, if_pos rfl]
  have hargs (t : String) : Meaning.arguments none (args t) .null =
      (.ok [.text t, .text "America/Los_Angeles"], .null) :=
    (Operands.constant [.text t, .text "America/Los_Angeles"] .null).arguments (checked_none 0 _)
  have hcomes (t : String) (m : Moment) (ht : Timestamp.iso? t = some m)
      (hfirst : 0 ≤ (z.clockAt m).date.year) (hlast : (z.clockAt m).date.year ≤ 9999) :
      comesBack t m := by
    obtain ⟨there, back, hback, hfrom, hto⟩ := (conversion_round_trip .still).1
      database _ z t m hfound hwhole ht hfirst hlast
    exact ⟨ht, there, back, hback, hfrom _ _ _ _ (hargs t), hto _ _ _ _ (hargs there)⟩
  exact ⟨by decide +kernel, hcomes _ _ (by decide +kernel) (by decide +kernel) (by decide +kernel),
    hcomes _ _ (by decide +kernel) (by decide +kernel) (by decide +kernel)⟩

end Expr

end StateExpr
