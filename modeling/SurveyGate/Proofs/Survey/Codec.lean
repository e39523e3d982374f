import SurveyGate.Proofs.Json.Decode
import SurveyGate.Proofs.Time.Rfc3339
import SurveyGate.Survey.Codec

/-!
# `SurveyGate.Proofs.Survey.Codec`: stored surveys read back

A record is written as an object with some of its fields in order, and each field reads back from
there, the parts that are left out included. So a survey reads back when the bounds of its schedule
do (`Survey.ofJson?_toJson`), the only parts that are written in a form of their own. Bounds that
were read are written in a form that is read again, which is why a survey that was read once, from
whatever JSON, is stored for good (`Survey.json_reads_back`).
-/

set_option autoImplicit false

namespace SurveyGate

open SurveyGate.Json

/-! ### Choices and numbers -/

/-- A unit is read back. -/
theorem TimeUnit.ofJson?_toJson (u : TimeUnit) : ofJson? u.toJson = some u := by
  cases u <;> rfl

/-- A scope is read back. -/
theorem CapScope.ofJson?_name (s : CapScope) : ofJson? (.text s.name) = some s := by
  cases s <;> rfl

/-- A status is read back. -/
theorem SurveyStatus.ofJson?_name (s : SurveyStatus) : ofJson? (.text s.name) = some s := by
  cases s <;> rfl

/-- The number of a survey is read back. -/
theorem SurveyId.ofJson?_ofNat (id : SurveyId) : ofJson? (.ofNat id.val.toNat) = some id := by
  rw [ofJson?, toUInt64?_ofNat, Option.map_some]

/-- The number of an account is read back. -/
theorem AccountId.ofJson?_ofNat (id : AccountId) : ofJson? (.ofNat id.val.toNat) = some id := by
  rw [ofJson?, toUInt64?_ofNat, Option.map_some]

/-! ### Records -/

/-- An instant is not written as nothing. -/
theorem Instant.toJson_ne_null (t : Instant) : t.toJson ≠ .null := nofun

/-- An interval is not written as nothing. -/
theorem Interval.toJson_ne_null (i : Interval) : i.toJson ≠ .null := nofun

/-- An interval is read back. -/
theorem Interval.ofJson?_toJson (i : Interval) : ofJson? i.toJson = some i := by
  refine bind_of_eq_some (fields?_object (List.Sublist.refl _) (by decide)) ?_
  refine bind_of_eq_some (Fields.required_of_lookup rfl (toUInt32?_ofNat i.amount)) ?_
  exact bind_of_eq_some (Fields.required_of_lookup rfl i.unit.ofJson?_toJson) rfl

/-- The classes of devices are read back. -/
theorem DeviceTargeting.ofJson?_toJson (t : DeviceTargeting) : ofJson? t.toJson = some t := by
  refine bind_of_eq_some (fields?_object (List.Sublist.refl _) (by decide)) ?_
  refine bind_of_eq_some (Fields.required_of_lookup rfl (toBool?_bool t.desktop)) ?_
  refine bind_of_eq_some (Fields.required_of_lookup rfl (toBool?_bool t.mobile)) ?_
  refine bind_of_eq_some (Fields.required_of_lookup rfl (toBool?_bool t.tablet)) ?_
  exact bind_of_eq_some (Fields.required_of_lookup rfl (toBool?_bool t.nativeMobile)) rfl

namespace FrequencyCap

/-- The members of a cap as an object. -/
def members (c : FrequencyCap) : List (String × Json) :=
  [("enabled", .bool c.enabled), ("limit", .ofNat c.limit.toNat)]
    ++ optionalMember "duration" Interval.toJson c.window ++ [("scope", .text c.scope.name)]

/-- A cap is written by its members. -/
theorem toJson_eq (c : FrequencyCap) : c.toJson = .object c.members := rfl

/-- Caps read back, valid or not. -/
theorem ofJson?_toJson (c : FrequencyCap) : ofJson? c.toJson = some c := by
  rw [toJson_eq]
  have hkeys : (c.members.map Prod.fst).Sublist ["enabled", "limit", "duration", "scope"] := by
    rw [members, List.map_append, List.map_append]
    exact ((List.Sublist.refl _).append (keys_optionalMember_sublist ..)).append (.refl _)
  have hwindow : c.members.lookup "duration" = c.window.map Interval.toJson := by
    simp [members, List.lookup_append, List.lookup_cons]
  have hscope : c.members.lookup "scope" = some (.text c.scope.name) := by
    simp [members, List.lookup_append, List.lookup_cons]
  refine bind_of_eq_some (fields?_object hkeys (by decide)) ?_
  refine bind_of_eq_some (Fields.required_of_lookup rfl (toBool?_bool c.enabled)) ?_
  refine bind_of_eq_some (Fields.required_of_lookup rfl (toUInt32?_ofNat c.limit)) ?_
  refine bind_of_eq_some (Fields.optional_of_lookup hwindow Interval.toJson_ne_null
    fun i _ => i.ofJson?_toJson) ?_
  exact bind_of_eq_some (Fields.orDefault_of_lookup hscope c.scope.ofJson?_name) rfl

end FrequencyCap

namespace Schedule

/-- The bounds that a schedule has. -/
def bounds (s : Schedule) : List Instant := s.startsAt.toList ++ s.endsAt.toList

/-- The members of a schedule as an object. -/
def members (s : Schedule) : List (String × Json) :=
  optionalMember "starts_at" Instant.toJson s.startsAt
    ++ optionalMember "ends_at" Instant.toJson s.endsAt

/-- A schedule is written by its members. -/
theorem toJson_eq (s : Schedule) : s.toJson = .object s.members := rfl

/-- A schedule reads back when its bounds do. -/
theorem ofJson?_toJson {s : Schedule} (h : ∀ t ∈ s.bounds, Instant.parse? t.rfc3339 = some t) :
    ofJson? s.toJson = some s := by
  rw [toJson_eq]
  have hkeys : (s.members.map Prod.fst).Sublist ["starts_at", "ends_at"] := by
    rw [members, List.map_append]
    exact (keys_optionalMember_sublist ..).append (keys_optionalMember_sublist ..)
  have hstart : s.members.lookup "starts_at" = s.startsAt.map Instant.toJson := by
    simp [members, List.lookup_append]
  have hstop : s.members.lookup "ends_at" = s.endsAt.map Instant.toJson := by
    simp [members, List.lookup_append]
  refine bind_of_eq_some (fields?_object hkeys (by decide)) ?_
  refine bind_of_eq_some (Fields.optional_of_lookup hstart Instant.toJson_ne_null fun t ht =>
    h t (List.mem_append_left _ (Option.mem_toList.2 ht))) ?_
  exact bind_of_eq_some (Fields.optional_of_lookup hstop Instant.toJson_ne_null fun t ht =>
    h t (List.mem_append_right _ (Option.mem_toList.2 ht))) rfl

end Schedule

namespace Survey

/-- The members of a survey as an object. -/
def members (s : Survey) : List (String × Json) := [
    ("id", .ofNat s.id.val.toNat),
    ("account_id", .ofNat s.account.val.toNat),
    ("name", .text s.name),
    ("status", .text s.status.name),
    ("schedule", s.schedule.toJson),
    ("goal", .ofNat s.goal.toNat),
    ("frequency_cap", s.cap.toJson),
    ("ignore_frequency_cap", .bool s.ignoresCap),
    ("refire_enabled", .bool s.refireEnabled)]
  ++ optionalMember "refire_interval" Interval.toJson s.refireInterval
  ++ [("device_targeting", s.targeting.toJson),
    ("stop_showing_without_answer", .bool s.stopsWhenDismissed)]
  ++ optionalMember "inline_target_selector" Json.text s.inlineSelector

/-- A survey is written by its members. -/
theorem toJson_eq (s : Survey) : s.toJson = .object s.members := rfl

/-- A survey reads back when the bounds of its schedule do. -/
theorem ofJson?_toJson {s : Survey}
    (h : ∀ t ∈ s.schedule.bounds, Instant.parse? t.rfc3339 = some t) :
    ofJson? s.toJson = some s := by
  rw [toJson_eq]
  have hkeys : (s.members.map Prod.fst).Sublist fieldNames := by
    rw [members, List.map_append, List.map_append, List.map_append]
    exact (((List.Sublist.refl _).append (keys_optionalMember_sublist ..)).append (.refl _)).append
      (keys_optionalMember_sublist ..)
  -- The members up to the refire interval are always there, so their places are known.
  have hinterval : s.members.lookup "refire_interval" = s.refireInterval.map Interval.toJson := by
    simp [members, List.lookup_append, List.lookup_cons]
  have htargeting : s.members.lookup "device_targeting" = some s.targeting.toJson := by
    simp [members, List.lookup_append, List.lookup_cons]
  have hstops : s.members.lookup "stop_showing_without_answer" =
      some (.bool s.stopsWhenDismissed) := by
    simp [members, List.lookup_append, List.lookup_cons]
  have hselector : s.members.lookup "inline_target_selector" = s.inlineSelector.map .text := by
    simp [members, List.lookup_append, List.lookup_cons]
  have htext (selector : String) : Json.text selector ≠ .null := nofun
  refine bind_of_eq_some (fields?_object hkeys (by decide)) ?_
  refine bind_of_eq_some (Fields.required_of_lookup rfl s.id.ofJson?_ofNat) ?_
  refine bind_of_eq_some (Fields.required_of_lookup rfl s.account.ofJson?_ofNat) ?_
  refine bind_of_eq_some (Fields.required_of_lookup rfl (toText?_text s.name)) ?_
  refine bind_of_eq_some (Fields.required_of_lookup rfl s.status.ofJson?_name) ?_
  refine bind_of_eq_some (Fields.orDefault_of_lookup rfl (Schedule.ofJson?_toJson h)) ?_
  refine bind_of_eq_some (Fields.required_of_lookup rfl (toUInt64?_ofNat s.goal)) ?_
  refine bind_of_eq_some (Fields.orDefault_of_lookup rfl s.cap.ofJson?_toJson) ?_
  refine bind_of_eq_some (Fields.orDefault_of_lookup rfl (toBool?_bool s.ignoresCap)) ?_
  refine bind_of_eq_some (Fields.orDefault_of_lookup rfl (toBool?_bool s.refireEnabled)) ?_
  refine bind_of_eq_some (Fields.optional_of_lookup hinterval Interval.toJson_ne_null
    fun i _ => i.ofJson?_toJson) ?_
  refine bind_of_eq_some (Fields.orDefault_of_lookup htargeting s.targeting.ofJson?_toJson) ?_
  refine bind_of_eq_some (Fields.orDefault_of_lookup hstops (toBool?_bool s.stopsWhenDismissed)) ?_
  exact bind_of_eq_some (Fields.optional_of_lookup hselector htext
    fun selector _ => toText?_text selector) rfl

end Survey

/-! ### What is read -/

/-- An instant that was read reads back from the text it is written as. -/
theorem Instant.parse?_of_ofJson? {x : Json} {t : Instant} (h : ofJson? x = some t) :
    parse? t.rfc3339 = some t := by
  unfold ofJson? at h
  split at h
  · exact parse?_rfc3339 (writable_of_parse? h)
  · cases h

/-- So do the bounds of a schedule that was read. -/
theorem Schedule.parse?_of_ofJson? {x : Json} {s : Schedule} (h : ofJson? x = some s) :
    ∀ t ∈ s.bounds, Instant.parse? t.rfc3339 = some t := by
  obtain ⟨f, -, h⟩ := exists_of_bind h
  obtain ⟨startsAt, hstart, h⟩ := exists_of_bind h
  obtain ⟨endsAt, hstop, h⟩ := exists_of_bind h
  obtain rfl := Option.some.inj h
  intro t ht
  rcases List.mem_append.1 ht with ht | ht
  · obtain rfl := Option.mem_toList.1 ht
    obtain ⟨y, hy⟩ := Fields.exists_of_optional hstart
    exact Instant.parse?_of_ofJson? hy
  · obtain rfl := Option.mem_toList.1 ht
    obtain ⟨y, hy⟩ := Fields.exists_of_optional hstop
    exact Instant.parse?_of_ofJson? hy

namespace Survey

/-- And those of a survey that was read, with a schedule or without. -/
theorem parse?_of_ofJson? {x : Json} {s : Survey} (h : ofJson? x = some s) :
    ∀ t ∈ s.schedule.bounds, Instant.parse? t.rfc3339 = some t := by
  obtain ⟨f, -, h⟩ := exists_of_bind h
  obtain ⟨id, -, h⟩ := exists_of_bind h
  obtain ⟨account, -, h⟩ := exists_of_bind h
  obtain ⟨name, -, h⟩ := exists_of_bind h
  obtain ⟨status, -, h⟩ := exists_of_bind h
  obtain ⟨schedule, hschedule, h⟩ := exists_of_bind h
  obtain ⟨goal, -, h⟩ := exists_of_bind h
  obtain ⟨cap, -, h⟩ := exists_of_bind h
  obtain ⟨ignoresCap, -, h⟩ := exists_of_bind h
  obtain ⟨refireEnabled, -, h⟩ := exists_of_bind h
  obtain ⟨refireInterval, -, h⟩ := exists_of_bind h
  obtain ⟨targeting, -, h⟩ := exists_of_bind h
  obtain ⟨stopsWhenDismissed, -, h⟩ := exists_of_bind h
  obtain ⟨inlineSelector, -, h⟩ := exists_of_bind h
  obtain rfl := Option.some.inj h
  rcases Fields.eq_or_exists_of_orDefault hschedule with rfl | ⟨y, hy⟩
  · exact fun t ht => nomatch ht
  · exact Schedule.parse?_of_ofJson? hy

/-- Surveys and what is stored of them:

- a survey reads back from its JSON exactly when the bounds of its schedule read back from their
  texts;
- an instant does exactly when it is not a leap second, or one at the end of a minute;
- a survey that was read from any JSON, whatever it left out, reads back from its own. -/
theorem json_reads_back :
    (∀ s : Survey, ofJson? s.toJson = some s ↔
      ∀ t ∈ s.schedule.bounds, Instant.parse? t.rfc3339 = some t) ∧
    (∀ t : Instant, Instant.parse? t.rfc3339 = some t ↔
      t.isLeap = false ∨ t.second % 60 = 59) ∧
    ∀ x s, ofJson? x = some s → ofJson? s.toJson = some s := by
  refine ⟨fun s => ⟨parse?_of_ofJson?, ofJson?_toJson⟩, fun t => ?_, fun x s h => ?_⟩
  · rw [Instant.parse?_rfc3339_iff, Instant.Writable]
    cases t.isLeap <;> simp
  · exact ofJson?_toJson (parse?_of_ofJson? h)

/-- The leap second at the end of 2016, half over. -/
def leapSecond : Instant := ⟨1483228799, 1500000000, by decide, by decide, by decide⟩

/-- A survey with all of its parts, from a leap second on. -/
def fullSurvey : Survey where
  id := ⟨7⟩
  account := ⟨3⟩
  name := "Pricing"
  status := .live
  schedule := ⟨some leapSecond, some .latest⟩
  goal := 5000
  cap := ⟨true, 2, some ⟨30, .days⟩, .perAccount⟩
  ignoresCap := false
  refireEnabled := true
  refireInterval := some ⟨1, .hours⟩
  targeting := ⟨true, false, true, false⟩
  stopsWhenDismissed := true
  inlineSelector := some "#survey"

/-- A survey with the parts that have to be there, one of them as an object, and a bound that is
another spelling of the leap second. -/
def sparseSurvey : Json := .object [
  ("status", .object [("live", .null)]),
  ("id", .integer 7),
  ("account_id", .integer 3),
  ("name", .text "Pricing"),
  ("goal", .integer 5000),
  ("schedule", .object [("starts_at", .text "2017-01-01 00:59:60.5+01:00")]),
  ("theme", .text "dark")]

/-- The survey with all of its parts reads back from its JSON, and so does the sparse one, whose
JSON is another one than it was read from. -/
theorem json_reads_back_pricing :
    let sparse : Survey := { draft ⟨7⟩ ⟨3⟩ "Pricing" with
      status := .live, schedule := .startingAt leapSecond }
    ofJson? fullSurvey.toJson = some fullSurvey ∧
      leapSecond.rfc3339 = "2016-12-31T23:59:60.500Z" ∧
      ofJson? sparseSurvey = some sparse ∧ ofJson? sparse.toJson = some sparse := by
  intro sparse
  obtain ⟨hwritten, htext, hread⟩ := json_reads_back
  have hsparse : ofJson? sparseSurvey = some sparse := by decide +kernel
  refine ⟨(hwritten fullSurvey).2 fun t ht => (htext t).2 ?_, by decide +kernel, hsparse,
    hread _ _ hsparse⟩
  revert t
  decide +kernel

end Survey

end SurveyGate
