import Mathlib
import MediaTimeline.Proofs.Listing

/-! Page tokens that continue a listing. -/

namespace MediaTimeline

namespace Json

theorem decodeRecord_eq_ok {α : Type} {record typeName : String} {rules : List (FieldRule α)}
    {init a : α} {v : JsonValue} (h : decodeRecord record typeName rules init v = .ok a) :
    (∃ fields, v = .obj fields) ∨ (v = .null ∧ a = init) := by
  cases v with
  | obj fields => exact .inl ⟨fields, rfl⟩
  | null =>
    simp only [decodeRecord, Except.ok.injEq] at h
    exact .inr ⟨rfl, h.symm⟩
  | _ => simp [decodeRecord] at h

end Json

namespace SegmentKey

open Text Json

/-- A token reads as a key exactly when it is URL base64 of a JSON object whose members make that
key, and the key names a flow. -/
theorem ofToken_eq_ok_iff {t : String} {k : SegmentKey} :
    ofToken t = .ok k ↔ ∃ bs fields, decodeBase64Url (utf8Bytes t) = .ok bs ∧
      readJson bs = .ok (.obj fields) ∧
      decodeRecord "SegmentKey" "types.SegmentKey" docRules ⟨"", 0⟩ (.obj fields) = .ok k ∧
      k.flow ≠ "" := by
  unfold ofToken decodeRecordText
  constructor
  · intro h
    rcases hb : decodeBase64Url (utf8Bytes t) with n | bs <;> simp only [hb] at h
    · cases h
    rcases hv : readJson bs with e | v <;> simp only [hv] at h
    · cases h
    rcases hr : decodeRecord "SegmentKey" "types.SegmentKey" docRules ⟨"", 0⟩ v with e | k' <;>
      simp only [hr] at h
    · cases h
    split_ifs at h with hempty
    cases h
    have hflow : k.flow ≠ "" := by simpa [String.isEmpty_iff] using hempty
    -- null would have read as the key it started from, which names no flow
    obtain ⟨fields, rfl⟩ | ⟨-, rfl⟩ := decodeRecord_eq_ok hr
    · exact ⟨bs, fields, rfl, hv, hr, hflow⟩
    · exact absurd rfl hflow
  · rintro ⟨bs, fields, hb, hv, hr, hflow⟩
    have hempty : k.flow.isEmpty = false := by simpa [String.isEmpty_iff] using hflow
    simp only [hb, hv, hr, hempty, Bool.false_eq_true, if_false]

theorem field_of_ofToken_eq_error {t : String} {v : Violation} (h : ofToken t = .error v) :
    v.field = "page" := by
  unfold ofToken at h
  split at h
  · cases h
    rfl
  split at h
  · cases h
    rfl
  split_ifs at h
  · cases h
    rfl

/-- The token of a key with a flow and a 64-bit end reads back as that key; a plan of the key's
flow given the token plans as without it, the query started past the key; and a token reads as a
key exactly when it is URL base64 of a JSON object making a key with a flow, every other token
being refused for the page field. -/
theorem page_token_round_trip (k : SegmentKey) (hflow : k.flow ≠ "") (hend : IsInt64 k.stop) :
    ofToken k.toToken = .ok k ∧
      (∀ (p : ListParams) (s : Service),
        (ServiceM.plan k.flow { p with page := k.toToken }).runOn s =
          match (ServiceM.plan k.flow { p with page := "" }).runOn s with
          | (.ok (.ok (q, ok)), s') => (.ok (.ok ({ q with after := some k }, ok)), s')
          | r => r) ∧
      ∀ t : String,
        (∀ k' : SegmentKey, ofToken t = .ok k' ↔
          ∃ bs fields, decodeBase64Url (utf8Bytes t) = .ok bs ∧
            readJson bs = .ok (.obj fields) ∧
            decodeRecord "SegmentKey" "types.SegmentKey" docRules ⟨"", 0⟩ (.obj fields) = .ok k' ∧
            k'.flow ≠ "") ∧
        ∀ v, ofToken t = .error v → v.field = "page" := by
  have hround : ofToken k.toToken = .ok k := by
    have hempty : k.flow.isEmpty = false := by simpa [String.isEmpty_iff] using hflow
    rw [ofToken_toToken k hend, hempty]
    rfl
  refine ⟨hround, fun p s => ?_,
    fun t => ⟨fun k' => ofToken_eq_ok_iff, fun v => field_of_ofToken_eq_error⟩⟩
  exact ServiceM.runOn_plan_after k.flow k.toToken { p with page := "" } k s rfl hround
    (toToken_ne_empty k) rfl

/-- A flow named with a quote, a backslash, the characters escaped for HTML and one past ASCII,
at the least 64-bit end. -/
theorem page_token_round_trip_escaped :
    "q\"\\<&>é" ≠ "" ∧ IsInt64 (-9223372036854775808) ∧
      ofToken (toToken ⟨"q\"\\<&>é", -9223372036854775808⟩) = .ok ⟨"q\"\\<&>é", -9223372036854775808⟩ ∧
      (∀ (p : ListParams) (s : Service),
        (ServiceM.plan "q\"\\<&>é"
            { p with page := toToken ⟨"q\"\\<&>é", -9223372036854775808⟩ }).runOn s =
          match (ServiceM.plan "q\"\\<&>é" { p with page := "" }).runOn s with
          | (.ok (.ok (q, ok)), s') =>
            (.ok (.ok ({ q with after := some ⟨"q\"\\<&>é", -9223372036854775808⟩ }, ok)), s')
          | r => r) ∧
      ∀ t : String,
        (∀ k' : SegmentKey, ofToken t = .ok k' ↔
          ∃ bs fields, decodeBase64Url (utf8Bytes t) = .ok bs ∧
            readJson bs = .ok (.obj fields) ∧
            decodeRecord "SegmentKey" "types.SegmentKey" docRules ⟨"", 0⟩ (.obj fields) = .ok k' ∧
            k'.flow ≠ "") ∧
        ∀ v, ofToken t = .error v → v.field = "page" :=
  ⟨by decide, by decide,
    page_token_round_trip ⟨"q\"\\<&>é", -9223372036854775808⟩ (by decide) (by decide)⟩

end SegmentKey

end MediaTimeline
