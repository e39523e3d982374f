import Mathlib.Data.List.Nodup
import SurveyGate.Json.Decode

/-!
# `SurveyGate.Proofs.Json.Decode`: fields that were written are read

A record that was written by name is taken as it is (`fields?_object`), so reading a field comes
down to the value that stands at its key (`Fields.required_of_lookup`,
`Fields.orDefault_of_lookup`). A part that may be left out reads back either way
(`Fields.optional_of_lookup`). Numbers of 32 and 64 bits are encoded without loss.
-/

set_option autoImplicit false

namespace SurveyGate.Json

variable {α β : Type} {encode : α → Json} {decode : Json → Option α}

/-! ### Records -/

/-- A value that is read goes into what is read next. -/
theorem bind_of_eq_some {x : Option α} {a : α} {next : α → Option β} {b : β} (h : x = some a)
    (hnext : next a = some b) : (x >>= next) = some b := by
  rw [h]
  exact hnext

/-- Two readers in a row succeed one after the other. -/
theorem exists_of_bind {x : Option α} {next : α → Option β} {b : β} (h : (x >>= next) = some b) :
    ∃ a, x = some a ∧ next a = some b :=
  Option.bind_eq_some_iff.1 h

/-- An object whose keys are among the field names, in their order, is a record. -/
theorem fields?_object {members : List (String × Json)} {names : List String}
    (hkeys : (members.map Prod.fst).Sublist names) (hnames : names.Nodup) :
    fields? names (.object members) = some ⟨true, members⟩ := by
  have honce (key : String) : isRepeated members key = false := by
    have hcount := List.nodup_iff_count_le_one.1 (hnames.sublist hkeys) key
    rw [List.count, List.countP_map, List.countP_eq_length_filter] at hcount
    exact decide_eq_false (Nat.not_lt.2 hcount)
  have hnone : names.any (isRepeated members) = false := List.any_eq_false.2 fun key _ => by
    rw [honce key]
    exact Bool.false_ne_true
  rw [fields?, hnone]
  rfl

/-- A member that may be left out has its own key at most. -/
theorem keys_optionalMember_sublist (key : String) (encode : α → Json) (o : Option α) :
    ((optionalMember key encode o).map Prod.fst).Sublist [key] := by
  cases o with
  | none => exact List.nil_sublist [key]
  | some a => exact List.Sublist.refl [key]

/-- A member that may be left out is found under its own key, if it is there. -/
@[simp] theorem lookup_optionalMember (key other : String) (encode : α → Json) (o : Option α) :
    (optionalMember key encode o).lookup other = if other == key then o.map encode else none := by
  cases o with
  | none => exact (ite_self none).symm
  | some a =>
    rw [optionalMember, List.lookup_cons]
    cases other == key <;> rfl

namespace Fields

variable {f : Fields} {key : String} {x : Json} {a default : α}

/-- A required member is read by its decoder. -/
theorem required_of_lookup (h : f.entries.lookup key = some x) (hread : decode x = some a) :
    f.required key decode = some a := by
  rw [required, h, Option.bind_some, hread]

/-- A member that is there is read by its decoder and not by its default. -/
theorem orDefault_of_lookup (h : f.entries.lookup key = some x) (hread : decode x = some a) :
    f.orDefault key default decode = some a := by
  rw [orDefault, h]
  exact hread

/-- A part that is left out when it is not there reads back, if it is not encoded as null. -/
theorem optional_of_lookup {o : Option α} (h : f.entries.lookup key = o.map encode)
    (hnull : ∀ a, encode a ≠ .null) (hread : ∀ a ∈ o, decode (encode a) = some a) :
    f.optional key decode = some o := by
  rw [optional, h]
  cases o with
  | none => rfl
  | some a =>
    rw [Option.map_some]
    split
    · rename_i heq
      cases heq
    · rename_i heq
      exact absurd (Option.some.inj heq) (hnull a)
    · rename_i x _ heq
      rw [← Option.some.inj heq, hread a rfl, Option.map_some]

/-- What an optional field holds was decoded. -/
theorem exists_of_optional (h : f.optional key decode = some (some a)) :
    ∃ x, decode x = some a := by
  unfold optional at h
  split at h
  · cases h
  · cases h
  · obtain ⟨b, hb, heq⟩ := Option.map_eq_some_iff.1 h
    exact ⟨_, by rw [hb, Option.some.inj heq]⟩

/-- What a field with a default holds was decoded, unless it is the default. -/
theorem eq_or_exists_of_orDefault (h : f.orDefault key default decode = some a) :
    a = default ∨ ∃ x, decode x = some a := by
  unfold orDefault at h
  split at h
  · exact .inl (Option.some.inj h).symm
  · exact .inr ⟨_, h⟩

end Fields

/-! ### Plain values -/

/-- A truth value is read back. -/
theorem toBool?_bool (b : Bool) : (Json.bool b).toBool? = some b := rfl

/-- A text is read back. -/
theorem toText?_text (s : String) : (Json.text s).toText? = some s := rfl

/-- A number below the bound is read back. -/
theorem toNatBelow?_ofNat {bound n : Nat} (h : n < bound) :
    (ofNat n).toNatBelow? bound = some n := by
  simp [toNatBelow?, ofNat, toInt?, h]

/-- A number of 32 bits is read back. -/
theorem toUInt32?_ofNat (n : UInt32) : (ofNat n.toNat).toUInt32? = some n := by
  rw [toUInt32?, toNatBelow?_ofNat n.toNat_lt_size, Option.map_some, UInt32.ofNat_toNat]

/-- A number of 64 bits is read back. -/
theorem toUInt64?_ofNat (n : UInt64) : (ofNat n.toNat).toUInt64? = some n := by
  rw [toUInt64?, toNatBelow?_ofNat n.toNat_lt_size, Option.map_some, UInt64.ofNat_toNat]

end SurveyGate.Json
