import TelemetryRelay.Proofs.Dispatch.Plan
import TelemetryRelay.Proofs.Payload.Buildable

/-! # The stages of a dispatch

    A dispatch builds the records, asks for the key, plans the parcels and only
    then posts them. This module says what each stage can end with:

    - `Course` has a constructor for each of the five ways a dispatch can go, and
      says all of what a dispatch that goes this way leads to,
    - which way it goes is decided by the records first, by the key next, and by
      the codec last,
    - what goes wrong before the posting leaves nothing posted.
-/

namespace TelemetryRelay

namespace Ingest

open Telemetry (Fails Identity Invocation Malformed Payloads)

/-! ## Section 1: Outcomes of planning -/

/-- Kinds are not prepared only where one of them cannot be split. -/
theorem split_of_prepareAll_error {dispatcher : Dispatcher} {identity : Identity}
    {payloads : Payloads} {error : HarvestError} :
    ∀ signals : List Signal,
      (dispatcher.prepareAll identity payloads signals).result = .error error →
      ∃ signal cause, error = .split signal cause
  | [], h => by cases h
  | signal :: rest, h => by
    rw [Dispatcher.result_prepareAll_cons] at h
    cases hhead : (dispatcher.prepare identity payloads signal).result with
    | error e =>
      rw [hhead] at h
      cases h
      unfold Dispatcher.prepare at hhead
      split at hhead
      · simp only at hhead
        split at hhead
        · cases hhead
        · next cause _ =>
          cases hhead
          exact ⟨signal, cause, rfl⟩
      · cases hhead
    | ok first =>
      cases htail : (dispatcher.prepareAll identity payloads rest).result with
      | error e =>
        rw [hhead, htail] at h
        cases h
        exact split_of_prepareAll_error rest htail
      | ok more => rw [hhead, htail] at h; cases h

/-- A plan fails only where a kind cannot be split. -/
theorem split_of_plan_error {dispatcher : Dispatcher} {identity : Identity}
    {payloads : Payloads} {error : HarvestError}
    (h : (dispatcher.plan identity payloads).result = .error error) :
    ∃ signal cause, error = .split signal cause :=
  split_of_prepareAll_error Signal.all h

/-! ## Section 2: The ways a dispatch can go -/

/-- What is built from the records of a harvest. -/
def Context.build (context : Context) (identity : Identity) (harvested : List Invocation) :
    Except Telemetry.BuildError Payloads :=
  Telemetry.buildFrom context.ids identity context.drawn (flatten harvested)

/-- The notices given until the records of a harvest are built. -/
def Context.reports (context : Context) (identity : Identity) (harvested : List Invocation) :
    List Log.Notice :=
  malformedNotices harvested ++
    Telemetry.buildNotices (flatten harvested) (context.build identity harvested)

/-- What a dispatch goes on with after it asked for the key. -/
def Context.asked (context : Context) : Context :=
  { context with keyring := context.keyring.obtain.2 }

/-- What dispatching a harvest leads to, one constructor for each way it can go. -/
inductive Course (dispatcher : Dispatcher) (context : Context) (identity : Identity)
    (harvested : List Invocation) : Cycle → Prop
  /-- There are no records. -/
  | empty :
      flatten harvested = [] →
      Course dispatcher context identity harvested
        (context.stop (malformedNotices harvested) (.ok .empty))
  /-- The records cannot be built. -/
  | unbuilt (error : Telemetry.BuildError) :
      flatten harvested ≠ [] → context.build identity harvested = .error error →
      Course dispatcher context identity harvested
        (context.stop (context.reports identity harvested) (.error (.build error)))
  /-- There is no key. -/
  | keyless (payloads : Payloads) (error : Credential.KeyError) :
      flatten harvested ≠ [] → context.build identity harvested = .ok payloads →
      context.keyring.obtain.1 = .error error →
      Course dispatcher context identity harvested
        (context.asked.stop (context.reports identity harvested) (.error (.credential error)))
  /-- The items of a kind cannot be split. -/
  | unsplit (payloads : Payloads) (credential : String) (error : HarvestError) :
      flatten harvested ≠ [] → context.build identity harvested = .ok payloads →
      context.keyring.obtain.1 = .ok credential →
      (dispatcher.plan identity payloads).result = .error error →
      Course dispatcher context identity harvested
        (context.asked.stop
          (context.reports identity harvested ++ (dispatcher.plan identity payloads).notices)
          (.error error))
  /-- The parcels are posted. -/
  | delivered (payloads : Payloads) (credential : String) (parcels : List Parcel) :
      flatten harvested ≠ [] → context.build identity harvested = .ok payloads →
      context.keyring.obtain.1 = .ok credential →
      (dispatcher.plan identity payloads).result = .ok parcels →
      Course dispatcher context identity harvested
        (dispatcher.deliver context.asked credential (flatten harvested).length
          (context.drawn + payloads.traces.length)
          (context.reports identity harvested ++ (dispatcher.plan identity payloads).notices)
          parcels)

section

variable (dispatcher : Dispatcher) (context : Context) (identity : Identity)
  (harvested : List Invocation)

/-- A dispatch of some records is decided by what is built from them first. -/
theorem dispatch_of_records (hsome : flatten harvested ≠ []) :
    dispatcher.dispatch context identity harvested =
      match context.build identity harvested with
      | .error error =>
        context.stop (context.reports identity harvested) (.error (.build error))
      | .ok payloads =>
        match context.keyring.obtain.1 with
        | .error error =>
          context.asked.stop (context.reports identity harvested) (.error (.credential error))
        | .ok credential =>
          let notices :=
            context.reports identity harvested ++ (dispatcher.plan identity payloads).notices
          match (dispatcher.plan identity payloads).result with
          | .error error => context.asked.stop notices (.error error)
          | .ok parcels =>
            dispatcher.deliver context.asked credential (flatten harvested).length
              (context.drawn + payloads.traces.length) notices parcels := by
  have hne : (flatten harvested).isEmpty = false := by simpa using hsome
  unfold Dispatcher.dispatch
  simp only [hne]
  rfl

/-- Where every stage before it succeeds, the last one is reached. -/
theorem dispatch_of_plan (hsome : flatten harvested ≠ []) {payloads : Payloads}
    (hbuilt : context.build identity harvested = .ok payloads) {credential : String}
    (hkey : context.keyring.obtain.1 = .ok credential) {parcels : List Parcel}
    (hplan : (dispatcher.plan identity payloads).result = .ok parcels) :
    dispatcher.dispatch context identity harvested =
      dispatcher.deliver context.asked credential (flatten harvested).length
        (context.drawn + payloads.traces.length)
        (context.reports identity harvested ++ (dispatcher.plan identity payloads).notices)
        parcels := by
  rw [dispatch_of_records dispatcher context identity harvested hsome, hbuilt]
  simp only [hkey, hplan]

/-- **Courses**: every dispatch goes one of these ways. -/
theorem dispatch_course :
    Course dispatcher context identity harvested
      (dispatcher.dispatch context identity harvested) := by
  by_cases hempty : flatten harvested = []
  · rw [dispatch_empty dispatcher context identity harvested hempty]
    exact .empty hempty
  · rw [dispatch_of_records dispatcher context identity harvested hempty]
    cases hbuilt : context.build identity harvested with
    | error error => exact .unbuilt error hempty hbuilt
    | ok payloads =>
      cases hkey : context.keyring.obtain.1 with
      | error error => exact .keyless payloads error hempty hbuilt hkey
      | ok credential =>
        cases hplan : (dispatcher.plan identity payloads).result with
        | error error =>
          simp only [hplan]
          exact .unsplit payloads credential error hempty hbuilt hkey hplan
        | ok parcels =>
          simp only [hplan]
          exact .delivered payloads credential parcels hempty hbuilt hkey hplan

/-! ## Section 3: What decides the course -/

/-- A harvest with records of which none is malformed. -/
structure Buildable (harvested : List Invocation) : Prop where
  some : flatten harvested ≠ []
  sound : ∀ entry ∈ flatten harvested, ¬ Malformed entry.record

/-- Errors of the stages before the posting. -/
def HarvestError.IsEarly : HarvestError → Prop
  | .build _ | .credential _ | .split _ _ => True
  | .delivery _ => False

variable {dispatcher harvested}

/-- Records are not built exactly if one of them is malformed. -/
theorem build_fails_iff :
    Fails (context.build identity harvested) ↔
      ∃ entry ∈ flatten harvested, Malformed entry.record :=
  Telemetry.buildFrom_fails_iff context.ids identity (flatten harvested) context.drawn

/-- Records of which none is malformed are built. -/
theorem Buildable.exists_build (h : Buildable harvested) :
    ∃ payloads, context.build identity harvested = .ok payloads := by
  cases hbuilt : context.build identity harvested with
  | error error =>
    obtain ⟨entry, hmem, hbad⟩ := (build_fails_iff context identity).mp ⟨error, hbuilt⟩
    exact absurd hbad (h.sound entry hmem)
  | ok payloads => exact ⟨payloads, rfl⟩

variable {context identity}

/-- What is built from some records makes them buildable. -/
theorem buildable_of_build (hsome : flatten harvested ≠ []) {payloads : Payloads}
    (hbuilt : context.build identity harvested = .ok payloads) : Buildable harvested := by
  refine ⟨hsome, ?_⟩
  intro entry hmem hbad
  obtain ⟨error, herror⟩ := (build_fails_iff context identity).mpr ⟨entry, hmem, hbad⟩
  rw [hbuilt] at herror
  cases herror

/-! ## Section 4: What the courses have in common -/

/-- A cycle in which nothing was posted. -/
structure Cycle.Unsent (cycle : Cycle) : Prop where
  made : cycle.made = []
  parcels : cycle.parcels = []

/-- What is posted ends without an error or with one that is not early. -/
theorem not_isEarly_of_conclude {summary : Summary} {error : HarvestError}
    (h : conclude summary = .error error) : ¬ error.IsEarly := by
  unfold conclude at h
  split at h
  · cases h
    exact id
  · cases h

/-- An early error leaves nothing posted. -/
theorem Course.unsent {cycle : Cycle} {error : HarvestError}
    (hcourse : Course dispatcher context identity harvested cycle)
    (herror : cycle.result = .error error) (hearly : error.IsEarly) : cycle.Unsent := by
  cases hcourse with
  | empty hempty => exact ⟨rfl, rfl⟩
  | unbuilt error hsome hbuilt => exact ⟨rfl, rfl⟩
  | keyless payloads error hsome hbuilt hkey => exact ⟨rfl, rfl⟩
  | unsplit payloads credential error hsome hbuilt hkey hplan => exact ⟨rfl, rfl⟩
  | delivered payloads credential parcels hsome hbuilt hkey hplan =>
    exact absurd hearly (not_isEarly_of_conclude herror)

/-- The error of a build comes exactly from a malformed record. -/
theorem Course.build_error_iff {cycle : Cycle}
    (hcourse : Course dispatcher context identity harvested cycle) :
    (∃ error, cycle.result = .error (.build error)) ↔
      ∃ entry ∈ flatten harvested, Malformed entry.record := by
  -- after the build no course ends with an error of it, so no record is malformed
  have hbuilt_ok {payloads : Payloads} {result : Except HarvestError Summary}
      (hbuilt : context.build identity harvested = .ok payloads)
      (hresult : ∀ error, result ≠ .error (.build error)) :
      (∃ error, result = .error (.build error)) ↔
        ∃ entry ∈ flatten harvested, Malformed entry.record := by
    rw [← build_fails_iff context identity, hbuilt]
    constructor
    · rintro ⟨error, herror⟩
      exact absurd herror (hresult error)
    · exact fun hfails => absurd hfails (Telemetry.not_fails_ok payloads)
  cases hcourse with
  | empty hempty =>
    rw [hempty]
    constructor
    · rintro ⟨error, herror⟩
      cases herror
    · rintro ⟨entry, hmem, -⟩
      cases hmem
  | unbuilt error hsome hbuilt =>
    rw [← build_fails_iff context identity]
    exact ⟨fun _ => ⟨error, hbuilt⟩, fun _ => ⟨error, rfl⟩⟩
  | keyless payloads error hsome hbuilt hkey =>
    apply hbuilt_ok hbuilt
    intro cause h
    cases h
  | unsplit payloads credential error hsome hbuilt hkey hplan =>
    obtain ⟨signal, cause, rfl⟩ := split_of_plan_error hplan
    apply hbuilt_ok hbuilt
    intro cause h
    cases h
  | delivered payloads credential parcels hsome hbuilt hkey hplan =>
    apply hbuilt_ok hbuilt
    intro cause h
    exact not_isEarly_of_conclude h trivial

/-- Where records can be built, the key is asked for, and what is wrong with it is
    what the dispatch ends with. -/
theorem Course.of_buildable {cycle : Cycle}
    (hcourse : Course dispatcher context identity harvested cycle)
    (h : Buildable harvested) :
    cycle.keyring = context.keyring.obtain.2 ∧
      ∀ error, cycle.result = .error (.credential error) ↔
        context.keyring.obtain.1 = .error error := by
  cases hcourse with
  | empty hempty => exact absurd hempty h.some
  | unbuilt error hsome hbuilt =>
    obtain ⟨payloads, hpayloads⟩ := h.exists_build context identity
    -- the build of sound records has not failed
    rw [hbuilt] at hpayloads
    cases hpayloads
  | keyless payloads error hsome hbuilt hkey =>
    refine ⟨rfl, fun cause => ?_⟩
    rw [hkey]
    show Except.error (HarvestError.credential error) = _ ↔ _
    simp
  | unsplit payloads credential error hsome hbuilt hkey hplan =>
    obtain ⟨signal, cause, rfl⟩ := split_of_plan_error hplan
    refine ⟨rfl, fun error => ?_⟩
    rw [hkey]
    show Except.error (HarvestError.split signal cause) = _ ↔ _
    simp
  | delivered payloads credential parcels hsome hbuilt hkey hplan =>
    refine ⟨rfl, fun error => ?_⟩
    rw [hkey]
    constructor
    · intro h
      exact absurd trivial (not_isEarly_of_conclude h)
    · intro h
      cases h

/-- Where compressing never fails, no course ends with what cannot be split. -/
theorem Course.result_ne_split {cycle : Cycle}
    (hcourse : Course dispatcher context identity harvested cycle)
    (hcodec : dispatcher.codec.Total) (signal : Signal) (cause : Telemetry.SplitError) :
    cycle.result ≠ .error (.split signal cause) := by
  intro hresult
  cases hcourse with
  | empty hempty => cases hresult
  | unbuilt error hsome hbuilt => cases hresult
  | keyless payloads error hsome hbuilt hkey => cases hresult
  | unsplit payloads credential error hsome hbuilt hkey hplan =>
    exact absurd hplan (Dispatcher.plan_ne_error hcodec identity payloads)
  | delivered payloads credential parcels hsome hbuilt hkey hplan =>
    exact not_isEarly_of_conclude hresult trivial

/-- Where compressing never fails, the parcels are the shares of all kinds, if the records
    are built and there is a key. -/
theorem Course.parcels_eq {cycle : Cycle}
    (hcourse : Course dispatcher context identity harvested cycle)
    (hcodec : dispatcher.codec.Total) :
    cycle.parcels =
      match context.build identity harvested, context.keyring.obtain.1 with
      | .ok payloads, .ok _ => Signal.all.flatMap (dispatcher.share identity payloads)
      | _, _ => [] := by
  cases hcourse with
  | empty hempty =>
    -- without records no kind has items, whether there is a key or not
    have hbuilt : context.build identity harvested = .ok .empty := by
      rw [Context.build, hempty]
      rfl
    obtain ⟨parcels, hplan⟩ := Dispatcher.exists_plan hcodec identity .empty
    have hnone (signal : Signal) : dispatcher.share identity .empty signal = [] :=
      Dispatcher.share_of_no_items (itemValues_empty signal)
        ((Dispatcher.plan_eq_shares hplan).2 signal)
    rw [hbuilt]
    cases context.keyring.obtain.1 with
    | error error => rfl
    | ok credential =>
      exact (List.flatMap_eq_nil_iff.mpr fun signal _ => hnone signal).symm
  | unbuilt error hsome hbuilt =>
    rw [hbuilt]
    rfl
  | keyless payloads error hsome hbuilt hkey =>
    rw [hbuilt, hkey]
    rfl
  | unsplit payloads credential error hsome hbuilt hkey hplan =>
    exact absurd hplan (Dispatcher.plan_ne_error hcodec identity payloads)
  | delivered payloads credential parcels hsome hbuilt hkey hplan =>
    rw [hbuilt, hkey]
    exact (Dispatcher.plan_eq_shares hplan).1

variable (dispatcher context identity)

/-- Where there is nothing to build, or it cannot be built, the key does not
    matter and stays as it was. -/
theorem dispatch_of_not_buildable (h : ¬ Buildable harvested) (keyring : Credential.Keyring) :
    dispatcher.dispatch { context with keyring := keyring } identity harvested =
      { dispatcher.dispatch context identity harvested with keyring := keyring } := by
  by_cases hempty : flatten harvested = []
  · rw [dispatch_empty dispatcher context identity harvested hempty,
      dispatch_empty dispatcher _ identity harvested hempty]
    rfl
  · rw [dispatch_of_records dispatcher context identity harvested hempty,
      dispatch_of_records dispatcher _ identity harvested hempty]
    -- the build does not look at the keyring
    show (match context.build identity harvested with | .error _ => _ | .ok _ => _) = _
    cases hbuilt : context.build identity harvested with
    | error error => rfl
    | ok payloads => exact absurd (buildable_of_build hempty hbuilt) h

/-- Where nothing can be built, no key is asked for. -/
theorem keyring_of_not_buildable (h : ¬ Buildable harvested) :
    (dispatcher.dispatch context identity harvested).keyring = context.keyring :=
  congrArg Cycle.keyring (dispatch_of_not_buildable dispatcher context identity h context.keyring)

/-- A key that was never asked for is looked up once where records can be built,
    and not at all otherwise. -/
theorem asked_dispatch (outcome : Nat → Except Credential.KeyError String) :
    let asked := (dispatcher.dispatch { context with keyring := .ofLookup outcome } identity
      harvested).keyring.asked
    (Buildable harvested ∧ asked = 1) ∨ (¬ Buildable harvested ∧ asked = 0) := by
  intro asked
  by_cases h : Buildable harvested
  · left
    have hcourse := dispatch_course dispatcher
      { context with keyring := .ofLookup outcome } identity harvested
    have hkeyring := (hcourse.of_buildable h).1
    exact ⟨h, congrArg Credential.Keyring.asked hkeyring⟩
  · right
    have hkeyring := congrArg Cycle.keyring
      (dispatch_of_not_buildable dispatcher context identity h (.ofLookup outcome))
    exact ⟨h, congrArg Credential.Keyring.asked hkeyring⟩

end

/-- **No half-built cycle is posted**: a dispatch that ends with an error of an early
    stage has posted nothing. The records are looked at first: a dispatch ends with
    the error of a build exactly if one of them is malformed, and the key is asked
    for exactly if there are some and none is. Without records there is neither a
    request nor a lookup. The last stage before the posting fails only where
    compressing can. -/
theorem early_error_posts_nothing (dispatcher : Dispatcher) (context : Context)
    (identity : Identity) (harvested : List Invocation) :
    let cycle := dispatcher.dispatch context identity harvested
    (∀ error, cycle.result = .error error → error.IsEarly → cycle.Unsent) ∧
    ((∃ error, cycle.result = .error (.build error)) ↔
      ∃ entry ∈ flatten harvested, Malformed entry.record) ∧
    (Buildable harvested →
      cycle.keyring = context.keyring.obtain.2 ∧
        ∀ error, cycle.result = .error (.credential error) ↔
          context.keyring.obtain.1 = .error error) ∧
    (¬ Buildable harvested → ∀ keyring,
      dispatcher.dispatch { context with keyring := keyring } identity harvested =
        { cycle with keyring := keyring }) ∧
    (∀ outcome,
      let asked := (dispatcher.dispatch { context with keyring := .ofLookup outcome } identity
        harvested).keyring.asked
      (Buildable harvested ∧ asked = 1) ∨ (¬ Buildable harvested ∧ asked = 0)) ∧
    (flatten harvested = [] →
      cycle.result = .ok .empty ∧ cycle.Unsent ∧ cycle.keyring = context.keyring) ∧
    (dispatcher.codec.Total →
      ∀ signal cause, cycle.result ≠ .error (.split signal cause)) := by
  intro cycle
  have hcourse : Course dispatcher context identity harvested cycle :=
    dispatch_course dispatcher context identity harvested
  refine ⟨?_, hcourse.build_error_iff, hcourse.of_buildable,
    dispatch_of_not_buildable dispatcher context identity,
    asked_dispatch dispatcher context identity, ?_, hcourse.result_ne_split⟩
  · intro error herror hearly
    exact hcourse.unsent herror hearly
  · intro hempty
    have hcycle : cycle = context.stop (malformedNotices harvested) (.ok .empty) :=
      dispatch_empty dispatcher context identity harvested hempty
    rw [hcycle]
    exact ⟨rfl, ⟨rfl, rfl⟩, rfl⟩

end Ingest

end TelemetryRelay
