import TelemetryRelay.Proofs.Payload.FanOut
import TelemetryRelay.Proofs.Timestamp.Instants

/-! # Times of harvests

    The timestamps of a build are the times of its records and the starts of its spans.
    Two harvests are compared here whose times and starts are written in another way, or
    are later in the second. Then the first can be built exactly if the second can, and
    the timestamps of the items are the same, or no earlier ones.
-/

namespace TelemetryRelay

namespace Telemetry

open Timestamp (Instant Moment)

/-! ## Section 1: Harvests with other times -/

/-- Two texts that are the same, or texts of moments that are so related. -/
inductive TextsRelated (r : ℚ → ℚ → Prop) : String → String → Prop where
  | same (text : String) : TextsRelated r text text
  | moments (m m' : Moment) (h : r m.exact m'.exact) : TextsRelated r m.text m'.text

/-- Two starts of spans that are the same, or whose texts are so related. -/
inductive StartsRelated (r : ℚ → ℚ → Prop) : Json.Value → Json.Value → Prop where
  | same (value : Json.Value) : StartsRelated r value value
  | texts {text text' : String} (h : TextsRelated r text text') :
      StartsRelated r (.string text) (.string text')

/-- What a span has under the name of a start. -/
def startsOf (fields : Json.Fields) : List Json.Value :=
  fields.filterMap (valueAt? startField)

/-- **Other times**: records of one type with as many metrics and as many spans, whose times
    and starts are so related one by one. Whatever else they have may differ. -/
structure Retimed (r : ℚ → ℚ → Prop) (entry entry' : Entry) : Prop where
  recordType : entry.record.recordType = entry'.record.recordType
  time : TextsRelated r entry.record.time entry'.record.time
  body : entry.record.body.isSome = entry'.record.body.isSome
  metrics : entry.record.metricFields.length = entry'.record.metricFields.length
  spans : List.Forall₂ (fun fields fields' =>
    List.Forall₂ (StartsRelated r) (startsOf fields) (startsOf fields'))
    entry.record.spanFields entry'.record.spanFields

/-- Payloads with as many items in each collection, whose timestamps are so related. -/
structure Payloads.TimesRelated (s : Instant → Instant → Prop) (p p' : Payloads) : Prop where
  events : List.Forall₂ s (p.events.map EventItem.timestamp) (p'.events.map EventItem.timestamp)
  logging : List.Forall₂ s (p.logging.map LogItem.timestamp) (p'.logging.map LogItem.timestamp)
  metrics : List.Forall₂ s (p.metrics.map MetricItem.timestamp)
    (p'.metrics.map MetricItem.timestamp)
  traces : List.Forall₂ s (p.traces.map SpanItem.timestamp) (p'.traces.map SpanItem.timestamp)

/-- Builds that both succeed with timestamps that are so related, or fail alike. -/
inductive BuildsRelated (s : Instant → Instant → Prop) :
    Except BuildError Payloads → Except BuildError Payloads → Prop where
  | built {p p' : Payloads} (h : p.TimesRelated s p') : BuildsRelated s (.ok p) (.ok p')
  | failed (e : BuildError) : BuildsRelated s (.error e) (.error e)

/-! ## Section 2: The same faults -/

section Faults

variable {r : ℚ → ℚ → Prop}

theorem TextsRelated.cases {text text' : String} (h : TextsRelated r text text') :
    text = text' ∨ ∃ m m' : Moment, text = m.text ∧ text' = m'.text ∧ r m.exact m'.exact := by
  cases h with
  | same => exact .inl rfl
  | moments m m' h => exact .inr ⟨m, m', rfl, rfl, h⟩

theorem timeFault?_eq {record record' : RawRecord}
    (htype : record.recordType = record'.recordType)
    (h : TextsRelated r record.time record'.time) : record.timeFault? = record'.timeFault? := by
  unfold RawRecord.timeFault?
  obtain heq | ⟨m, m', htext, htext', -⟩ := h.cases
  · rw [htype, heq]
  · rw [htext, htext', m.parse_eq_floor, m'.parse_eq_floor]

theorem startFault?_eq {value value' : Json.Value} (recordType : String)
    (h : StartsRelated r value value') :
    startFault? recordType (startField, value) = startFault? recordType (startField, value') := by
  cases h with
  | same => rfl
  | texts h =>
    obtain rfl | ⟨m, m', rfl, rfl, -⟩ := h.cases
    · rfl
    · rw [startFault?, startFault?, if_pos rfl, if_pos rfl]
      simp only [m.parse_eq_floor, m'.parse_eq_floor]

/-- The faults of a span are those of its starts. -/
theorem filterMap_startFault? (recordType : String) (fields : Json.Fields) :
    fields.filterMap (startFault? recordType)
      = (startsOf fields).filterMap fun value => startFault? recordType (startField, value) := by
  rw [startsOf, List.filterMap_filterMap]
  congr 1
  funext field
  unfold valueAt? startFault?
  by_cases hstart : field.1 = startField
  · rw [if_pos hstart, if_pos hstart]
    rfl
  · rw [if_neg hstart, if_neg hstart]
    rfl

theorem startFaults_eq (recordType : String) {starts starts' : List Json.Value}
    (h : List.Forall₂ (StartsRelated r) starts starts') :
    (starts.filterMap fun value => startFault? recordType (startField, value))
      = starts'.filterMap fun value => startFault? recordType (startField, value) := by
  induction h with
  | nil => rfl
  | cons hstart _ ih =>
    rw [List.filterMap_cons, List.filterMap_cons, startFault?_eq recordType hstart, ih]

theorem spanFaults_eq (recordType : String) {spans spans' : List Json.Fields}
    (h : List.Forall₂ (fun fields fields' =>
      List.Forall₂ (StartsRelated r) (startsOf fields) (startsOf fields')) spans spans') :
    spanFaults recordType spans = spanFaults recordType spans' := by
  unfold spanFaults
  induction h with
  | nil => rfl
  | cons hstarts _ ih =>
    rw [List.flatMap_cons, List.flatMap_cons, ih, filterMap_startFault?, filterMap_startFault?,
      startFaults_eq recordType hstarts]

/-- A record with other times has the same faults. -/
theorem Retimed.faults_eq {entry entry' : Entry} (h : Retimed r entry entry') :
    entry.record.faults = entry'.record.faults := by
  unfold RawRecord.faults
  rw [timeFault?_eq h.recordType h.time, h.recordType, spanFaults_eq _ h.spans]

theorem faultsOf_retimed {entries entries' : List Entry}
    (h : List.Forall₂ (Retimed r) entries entries') : faultsOf entries = faultsOf entries' := by
  induction h with
  | nil => rfl
  | cons hentry _ ih =>
    unfold faultsOf at ih ⊢
    rw [List.flatMap_cons, List.flatMap_cons, hentry.faults_eq, ih]

end Faults

/-! ## Section 3: Related timestamps -/

section Timestamps

variable {r : ℚ → ℚ → Prop} {s : Instant → Instant → Prop}

/-- What texts of times are read as is related as the whole milliseconds of the moments
    are. -/
theorem TextsRelated.instants (hrefl : ∀ instant, s instant instant)
    (hfloor : ∀ x y : ℚ, r x y → s ⌊x⌋ ⌊y⌋) {text text' : String} {instant instant' : Instant}
    (h : TextsRelated r text text') (hparse : Timestamp.parse text = .ok instant)
    (hparse' : Timestamp.parse text' = .ok instant') : s instant instant' := by
  obtain heq | ⟨m, m', htext, htext', hrelated⟩ := h.cases
  · rw [heq, hparse'] at hparse
    cases hparse
    exact hrefl instant
  · rw [htext, m.parse_eq_floor] at hparse
    rw [htext', m'.parse_eq_floor] at hparse'
    cases hparse
    cases hparse'
    exact hfloor _ _ hrelated

/-- The last elements of related lists are related, if there are any. -/
theorem getLast?_related {α : Type} {R : α → α → Prop} {list list' : List α}
    (h : List.Forall₂ R list list') : Option.Rel R list.getLast? list'.getLast? := by
  induction h with
  | nil => exact .none
  | cons hhead _ ih =>
    rw [List.getLast?_cons, List.getLast?_cons]
    refine .some ?_
    generalize List.getLast? _ = last at ih
    generalize List.getLast? _ = last' at ih
    cases ih with
    | none => exact hhead
    | some hlast => exact hlast

theorem startsAt_related (hrefl : ∀ instant, s instant instant)
    (hfloor : ∀ x y : ℚ, r x y → s ⌊x⌋ ⌊y⌋) {fields fields' : Json.Fields}
    {time time' instant instant' : Instant}
    (hstarts : List.Forall₂ (StartsRelated r) (startsOf fields) (startsOf fields'))
    (htime : s time time') (h : StartsAt time fields instant)
    (h' : StartsAt time' fields' instant') : s instant instant' := by
  have hlast := getLast?_related hstarts
  unfold StartsAt Json.Fields.last? at h h'
  rw [show fields.filterMap (valueAt? startField) = startsOf fields from rfl] at h
  rw [show fields'.filterMap (valueAt? startField) = startsOf fields' from rfl] at h'
  generalize (startsOf fields).getLast? = last at hlast h
  generalize (startsOf fields').getLast? = last' at hlast h'
  -- a span without a start has the time of its record
  cases hlast with
  | none =>
    cases h
    cases h'
    exact htime
  | some hstart =>
    obtain ⟨text, hvalue, hparse⟩ := h
    obtain ⟨text', hvalue', hparse'⟩ := h'
    subst hvalue
    subst hvalue'
    have htexts : TextsRelated r text text' := by
      cases hstart with
      | same => exact .same text
      | texts h => exact h
    exact htexts.instants hrefl hfloor hparse hparse'

/-- Items of related records are related, if those of related pieces are. -/
theorem Fanned.related {σ ι : Type} {pieces : RawRecord → List σ}
    {Makes Makes' : Entry → σ → ι → Prop} {E : Entry → Entry → Prop} {R : σ → σ → Prop}
    {stamp : ι → Instant} {entries entries' : List Entry} {items items' : List ι}
    (h : Fanned pieces Makes entries items) (h' : Fanned pieces Makes' entries' items')
    (hentries : List.Forall₂ E entries entries')
    (hpieces : ∀ entry entry', E entry entry' →
      List.Forall₂ R (pieces entry.record) (pieces entry'.record))
    (hstamp : ∀ entry entry' piece piece' item item', E entry entry' → R piece piece' →
      Makes entry piece item → Makes' entry' piece' item' → s (stamp item) (stamp item')) :
    List.Forall₂ s (items.map stamp) (items'.map stamp) := by
  have hpairs : List.Forall₂ (fun p p' => E p.1 p'.1 ∧ R p.2 p'.2)
      (piecesOf pieces entries) (piecesOf pieces entries') := by
    refine List.rel_flatMap hentries ?_
    intro entry entry' hentry
    rw [List.forall₂_map_left_iff, List.forall₂_map_right_iff]
    exact (hpieces entry entry' hentry).imp fun _ _ hpiece => ⟨hentry, hpiece⟩
  unfold Fanned at h h'
  rw [List.forall₂_map_left_iff, List.forall₂_map_right_iff]
  -- the items go along with the pieces, one by one
  generalize piecesOf pieces entries = pairs at h hpairs
  generalize piecesOf pieces entries' = pairs' at h' hpairs
  induction hpairs generalizing items items' with
  | nil =>
    cases h
    cases h'
    exact .nil
  | cons hpair _ ih =>
    cases h with
    | cons hmakes h =>
      cases h' with
      | cons hmakes' h' =>
        exact .cons (hstamp _ _ _ _ _ _ hpair.1 hpair.2 hmakes hmakes') (ih h h')

theorem forall₂_of_length {α : Type} {list list' : List α} (h : list.length = list'.length) :
    List.Forall₂ (fun _ _ => True) list list' :=
  List.forall₂_iff_zip.mpr ⟨h, fun _ => trivial⟩

/-- **Timestamps**: builds of harvests with other times make items with related timestamps,
    one by one. -/
theorem timesRelated_of_retimed (hrefl : ∀ instant, s instant instant)
    (hfloor : ∀ x y : ℚ, r x y → s ⌊x⌋ ⌊y⌋) {ids ids' : Nat → String} {identity : Identity}
    {entries entries' : List Entry} {p p' : Payloads}
    (hentries : List.Forall₂ (Retimed r) entries entries')
    (h : build ids identity entries = .ok p) (h' : build ids' identity entries' = .ok p') :
    p.TimesRelated s p' := by
  have hmade := fansOut_build h
  have hmade' := fansOut_build h'
  have htime : ∀ {entry entry' : Entry} {instant instant' : Instant}, Retimed r entry entry' →
      Timestamp.parse entry.record.time = .ok instant →
      Timestamp.parse entry'.record.time = .ok instant' → s instant instant' :=
    fun hentry => hentry.time.instants hrefl hfloor
  constructor
  · refine hmade.events.related hmade'.events hentries (R := fun _ _ => True) ?_ ?_
    · intro _ _ _
      exact forall₂_of_length rfl
    · rintro entry entry' _ _ item item' hentry - ⟨instant, hparse, rfl⟩ ⟨instant', hparse', rfl⟩
      exact htime hentry hparse hparse'
  · refine hmade.logging.related hmade'.logging hentries (R := fun _ _ => True) ?_ ?_
    · intro entry entry' hentry
      apply forall₂_of_length
      rw [Option.length_toList, Option.length_toList, hentry.body]
    · rintro entry entry' _ _ item item' hentry - ⟨instant, hparse, rfl⟩ ⟨instant', hparse', rfl⟩
      exact htime hentry hparse hparse'
  · refine hmade.metrics.related hmade'.metrics hentries (R := fun _ _ => True) ?_ ?_
    · intro entry entry' hentry
      exact forall₂_of_length hentry.metrics
    · rintro entry entry' _ _ item item' hentry - ⟨instant, hparse, rfl⟩ ⟨instant', hparse', rfl⟩
      exact htime hentry hparse hparse'
  · refine hmade.timed.related hmade'.timed hentries (fun _ _ hentry => hentry.spans) ?_
    rintro entry entry' _ _ item item' hentry hstarts ⟨time, hparse, hspan⟩
      ⟨time', hparse', hspan'⟩
    exact startsAt_related hrefl hfloor hstarts (htime hentry hparse hparse') hspan hspan'

/-- **Builds**: of two harvests with other times, both can be built or none. -/
theorem buildsRelated_of_retimed (hrefl : ∀ instant, s instant instant)
    (hfloor : ∀ x y : ℚ, r x y → s ⌊x⌋ ⌊y⌋) (ids ids' : Nat → String) (identity : Identity)
    {entries entries' : List Entry} (hentries : List.Forall₂ (Retimed r) entries entries') :
    BuildsRelated s (build ids identity entries) (build ids' identity entries') := by
  have herror := errorOf_buildFrom ids identity entries 0
  have herror' := errorOf_buildFrom ids' identity entries' 0
  -- a build fails with the first of its faults, and these are the same
  rw [faultsOf_retimed hentries, ← herror'] at herror
  cases hbuild : build ids identity entries with
  | ok p =>
    cases hbuild' : build ids' identity entries' with
    | ok p' => exact .built (timesRelated_of_retimed hrefl hfloor hentries hbuild hbuild')
    | error e' =>
      rw [← build, ← build, hbuild, hbuild'] at herror
      cases herror
  | error e =>
    cases hbuild' : build ids' identity entries' with
    | ok p' =>
      rw [← build, ← build, hbuild, hbuild'] at herror
      cases herror
    | error e' =>
      rw [← build, ← build, hbuild, hbuild'] at herror
      cases herror
      exact .failed e

end Timestamps

/-! ## Section 4: Instants -/

/-- **Readable**: records whose time and whose starts of spans are texts of moments. -/
structure Entry.IsReadable (entry : Entry) : Prop where
  time : ∃ m : Moment, entry.record.time = m.text
  starts : ∀ fields ∈ entry.record.spanFields, ∀ value ∈ startsOf fields,
    ∃ m : Moment, value = .string m.text

theorem Entry.IsReadable.faults {entry : Entry} (h : entry.IsReadable) :
    entry.record.faults = [] := by
  obtain ⟨m, htime⟩ := h.time
  have hnone : entry.record.timeFault? = none := by
    unfold RawRecord.timeFault?
    rw [htime, m.parse_eq_floor]
  have hspans : spanFaults entry.record.recordType entry.record.spanFields = [] := by
    unfold spanFaults
    rw [List.flatMap_eq_nil_iff]
    intro fields hfields
    rw [filterMap_startFault?, List.filterMap_eq_nil_iff]
    intro value hvalue
    obtain ⟨start, rfl⟩ := h.starts fields hfields value hvalue
    rw [startFault?, if_pos rfl]
    simp only [start.parse_eq_floor]
  rw [RawRecord.faults, hnone, hspans]
  rfl

theorem exists_build_of_readable (ids : Nat → String) (identity : Identity)
    {entries : List Entry} (h : ∀ entry ∈ entries, entry.IsReadable) :
    ∃ payloads, build ids identity entries = .ok payloads := by
  have hfaults : faultsOf entries = [] :=
    List.flatMap_eq_nil_iff.mpr fun entry hmem => (h entry hmem).faults
  have herror := errorOf_buildFrom ids identity entries 0
  rw [hfaults, ← build] at herror
  cases hbuild : build ids identity entries with
  | ok payloads => exact ⟨payloads, rfl⟩
  | error e =>
    rw [hbuild] at herror
    cases herror

/-- **Timestamps denote instants**: the text of a moment is read as the days from 1970-01-01
    in milliseconds, and the time of day less the offset, with the fraction cut down to
    milliseconds. Records with such times and starts are always built. Harvests whose times
    and starts are texts of the same instants have the same timestamps everywhere, and
    later instants never make smaller ones. -/
theorem timestamps_denote_instants :
    (∀ m : Moment, ∃ days : Int,
      (∀ n, Timestamp.DaysFrom Timestamp.Date.epoch m.date n ↔ n = days) ∧
      Timestamp.parse m.text = .ok (86400000 * days
        + (3600000 * m.hour.val + 60000 * m.minute.val + 1000 * m.second.val
          + ⌊1000 * Timestamp.fractionValue m.fraction⌋)
        - 60000 * m.zone.minutes) ∧
      m.exact = 86400000 * days
        + (3600000 * m.hour.val + 60000 * m.minute.val + 1000 * m.second.val
          + 1000 * Timestamp.fractionValue m.fraction)
        - 60000 * m.zone.minutes) ∧
    (∀ (ids : Nat → String) (identity : Identity) (entries : List Entry),
      (∀ entry ∈ entries, entry.IsReadable) →
        ∃ payloads, build ids identity entries = .ok payloads) ∧
    (∀ (ids ids' : Nat → String) (identity : Identity) (entries entries' : List Entry),
      List.Forall₂ (Retimed (· = ·)) entries entries' →
        BuildsRelated (· = ·) (build ids identity entries) (build ids' identity entries')) ∧
    (∀ (ids ids' : Nat → String) (identity : Identity) (entries entries' : List Entry),
      List.Forall₂ (Retimed (· ≤ ·)) entries entries' →
        BuildsRelated (· ≤ ·) (build ids identity entries) (build ids' identity entries')) := by
  refine ⟨?_, ?_, ?_, ?_⟩
  · intro m
    refine ⟨m.date.days, fun n => Timestamp.daysFrom_epoch_iff m.date_isValid, ?_, ?_⟩
    · rw [m.parse_text]
      congr 1
      ring
    · rw [Moment.exact]
      ring
  · intro ids identity entries h
    exact exists_build_of_readable ids identity h
  · intro ids ids' identity entries entries' h
    exact buildsRelated_of_retimed (fun _ => rfl) (fun _ _ heq => congrArg Int.floor heq)
      ids ids' identity h
  · intro ids ids' identity entries entries' h
    exact buildsRelated_of_retimed Int.le_refl (fun _ _ hle => Int.floor_le_floor hle)
      ids ids' identity h

/-- Half a millisecond before 1970, written in UTC and an hour ahead of it. -/
def eveInUtc : Moment where
  date := ⟨1969, 12, 31⟩
  separator := .lower
  hour := 23
  minute := 59
  second := 59
  fraction := [9, 9, 9, 5]
  zone := .lowerUtc
  date_isValid := by decide
  year_lt := by decide

def eveAhead : Moment where
  date := ⟨1970, 1, 1⟩
  separator := .blank
  hour := 0
  minute := 59
  second := 59
  fraction := [9, 9, 9, 5, 0]
  zone := .offset .plus 1 0
  date_isValid := by decide
  year_lt := by decide

/-- A report of a time with one span that starts then. -/
def reportAt (text : String) : Entry :=
  ⟨"r", ⟨text, "platform.report",
    some (.object [("spans", .array [.object [("start", .string text)]])])⟩⟩

theorem reportAt_spec (text : String) : (reportAt text).record.time = text ∧
    (reportAt text).record.body.isSome = true ∧ (reportAt text).record.metricFields = [] ∧
    (reportAt text).record.spanFields = [[("start", .string text)]] :=
  ⟨rfl, rfl, rfl, rfl⟩

theorem retimed_reportAt {r : ℚ → ℚ → Prop} {m m' : Moment} (h : r m.exact m'.exact) :
    Retimed r (reportAt m.text) (reportAt m'.text) := by
  obtain ⟨htime, hbody, hmetrics, hspans⟩ := reportAt_spec m.text
  obtain ⟨htime', hbody', hmetrics', hspans'⟩ := reportAt_spec m'.text
  constructor
  · rfl
  · rw [htime, htime']
    exact .moments m m' h
  · rw [hbody, hbody']
  · rw [hmetrics, hmetrics']
  · rw [hspans, hspans']
    exact .cons (.cons (.texts (.moments m m' h)) .nil) .nil

theorem isReadable_reportAt (m : Moment) : (reportAt m.text).IsReadable where
  time := ⟨m, rfl⟩
  starts := by
    rw [(reportAt_spec m.text).2.2.2, List.forall_mem_singleton]
    intro value hvalue
    exact ⟨m, List.mem_singleton.mp hvalue⟩

/-- The instant before 1970 is the millisecond -1, and a harvest has the same timestamps in
    both forms. -/
theorem eve_timestamps :
    eveInUtc.text = "1969-12-31t23:59:59.9995z" ∧
    eveAhead.text = "1970-01-01 00:59:59.99950+01:00" ∧
    Timestamp.parse eveInUtc.text = .ok (-1) ∧
    (∃ payloads, build noIds ⟨"f", "a"⟩ [reportAt eveInUtc.text] = .ok payloads) ∧
    BuildsRelated (· = ·) (build noIds ⟨"f", "a"⟩ [reportAt eveInUtc.text])
      (build noIds ⟨"f", "a"⟩ [reportAt eveAhead.text]) ∧
    BuildsRelated (· ≤ ·) (build noIds ⟨"f", "a"⟩ [reportAt eveInUtc.text])
      (build noIds ⟨"f", "a"⟩ [reportAt eveAhead.text]) := by
  obtain ⟨hinstants, hbuilt, hsame, hlater⟩ := timestamps_denote_instants
  have hfraction : ⌊1000 * Timestamp.fractionValue eveInUtc.fraction⌋ = 999 := by
    rw [Int.floor_eq_iff]
    norm_num [eveInUtc, Timestamp.fractionValue]
  have heq : eveInUtc.exact = eveAhead.exact := by
    have hdays : eveInUtc.date.days = -1 ∧ eveAhead.date.days = 0 := by decide
    rw [Moment.exact, Moment.exact, hdays.1, hdays.2]
    norm_num [eveInUtc, eveAhead, Timestamp.fractionValue, Timestamp.Zone.minutes,
      Timestamp.Sign.isMinus]
  refine ⟨by decide, by decide, ?_, ?_, ?_, ?_⟩
  · obtain ⟨days, hdays, hparse, -⟩ := hinstants eveInUtc
    have hbefore : -1 = days := (hdays (-1)).mp (.backwards 1 rfl)
    rw [hparse, hfraction, ← hbefore]
    decide
  · apply hbuilt
    rw [List.forall_mem_singleton]
    exact isReadable_reportAt eveInUtc
  · exact hsame noIds noIds ⟨"f", "a"⟩ _ _ (.cons (retimed_reportAt heq) .nil)
  · exact hlater noIds noIds ⟨"f", "a"⟩ _ _ (.cons (retimed_reportAt heq.le) .nil)

end Telemetry

end TelemetryRelay
