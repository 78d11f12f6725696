import TraceCheck.Proofs.Json.Decoding
import TraceCheck.Proofs.Time.RoundTrip
import TraceCheck.Trace.Json

/-!
# Traces are read as they are written

What is read from a structured value, in any of its forms, is a trace whose
attributes are in order and whose numbers and moments can be written.  Such a
trace is read again from the value that it is written as.
-/

namespace TraceCheck

open TraceCheck.Json TraceCheck.Json.Decoder

/-! ## Values of attributes -/

namespace Value

/-- The values that structured values stand for. -/
inductive IsRepresentable : Value → Prop
  | string (s : String) : IsRepresentable (.string s)
  | integer (i : Int) (hi : isInteger i = true) : IsRepresentable (.integer i)
  | double (x : Float) (hx : x.isFinite = true) : IsRepresentable (.double x)
  | boolean (b : Bool) : IsRepresentable (.boolean b)
  | list (items : List Value) (hitems : ∀ v ∈ items, IsRepresentable v) :
      IsRepresentable (.list items)
  | null : IsRepresentable .null

theorem ofJsonItems_eq_map (items : List Json) : ofJsonItems items = items.map ofJson := by
  induction items with
  | nil => rfl
  | cons j items ih => rw [ofJsonItems, ih, List.map_cons]

theorem jsonItems_eq_map (items : List Value) : jsonItems items = items.map json := by
  induction items with
  | nil => rfl
  | cons v items ih => rw [jsonItems, ih, List.map_cons]

theorem isRepresentable_ofJson {j : Json} (hj : j.IsRepresentable) :
    (ofJson j).IsRepresentable := by
  induction hj with
  | null => exact .null
  | bool b => exact .boolean b
  | whole i hlow hhigh =>
      unfold ofJson
      split
      · rename_i hi
        exact .integer i hi
      · exact .double _ (Decimal.isFinite_ofInt (by omega))
  | double x hx => exact .double x hx
  | string s => exact .string s
  | array items _ ih =>
      rw [ofJson, ofJsonItems_eq_map]
      refine .list _ fun v hv => ?_
      obtain ⟨j, hj, rfl⟩ := List.mem_map.mp hv
      exact ih j hj
  | object members _ _ => exact .string _

theorem ofJson_json {v : Value} (hv : v.IsRepresentable) : ofJson v.json = v := by
  induction hv with
  | string s => rfl
  | integer i hi =>
      rw [json, Json.int, ofJson, if_pos hi]
  | double x hx =>
      rw [json, Json.double, if_pos hx, ofJson]
  | boolean b => rfl
  | list items _ ih =>
      have hitems : items.map (ofJson ∘ json) = items.map id := List.map_congr_left ih
      rw [json, ofJson, jsonItems_eq_map, ofJsonItems_eq_map, List.map_map, hitems, List.map_id]
  | null => rfl

end Value

/-! ## Spans -/

namespace Span

/-- The spans that structured values stand for: one attribute a name, in order. -/
structure IsRepresentable (s : Span) : Prop where
  ascending : s.attributes.Pairwise (·.1 < ·.1)
  values : ∀ a ∈ s.attributes, a.2.IsRepresentable
  duration : s.durationMs.isFinite = true
  start : ∀ t ∈ s.startTime, t.IsReadable

end Span

namespace SpanDraft

/-- What has been read of a span so far is part of one that a structured value stands for. -/
structure IsRepresentable (s : SpanDraft) : Prop where
  ascending : ∀ as ∈ s.attributes, as.Pairwise (·.1 < ·.1)
  values : ∀ as ∈ s.attributes, ∀ a ∈ as, a.2.IsRepresentable
  duration : ∀ x ∈ s.durationMs, x.isFinite = true
  start : ∀ o ∈ s.startTime, ∀ t ∈ o, t.IsReadable

theorem isRepresentable_attributes {j : Json} (hj : j.IsRepresentable)
    {as : List (String × Value)} (h : attributesDecoder.fromValue j = .ok as) :
    as.Pairwise (·.1 < ·.1) ∧ ∀ a ∈ as, a.2.IsRepresentable := by
  cases hj with
  | object ms hms =>
      cases h
      refine ⟨pairwise_sortMembers _, fun a ha => ?_⟩
      obtain ⟨m, hm, rfl⟩ := List.mem_map.mp (mem_of_mem_sortMembers ha)
      exact Value.isRepresentable_ofJson (hms m hm)
  | _ => cases h

theorem isReadable_of_fromValue {j : Json} {t : Time.Instant}
    (h : Time.Instant.decoder.fromValue j = .ok t) : t.IsReadable := by
  cases j with
  | string s =>
      cases hread : Time.Instant.ofText s with
      | error e =>
          simp [Time.Instant.decoder, Decoder.spelled, hread, refuse] at h
      | ok t' =>
          simp only [Time.Instant.decoder, Decoder.spelled, hread] at h
          cases h
          exact Time.Instant.isReadable_of_ofText hread
  | _ => cases h

theorem fields_keep : ∀ f ∈ fields, FieldKeeps IsRepresentable f := by
  simp only [fields, List.forall_mem_cons]
  refine ⟨?_, ?_, ?_, ?_, ?_, ?_, ?_, ?_, by simp⟩
  · exact fieldKeeps_of fun s j a _ _ hs => ⟨hs.ascending, hs.values, hs.duration, hs.start⟩
  · exact fieldKeeps_of fun s j a _ _ hs => ⟨hs.ascending, hs.values, hs.duration, hs.start⟩
  · exact fieldKeeps_of fun s j a _ _ hs => ⟨hs.ascending, hs.values, hs.duration, hs.start⟩
  · exact fieldKeeps_of fun s j a _ _ hs => ⟨hs.ascending, hs.values, hs.duration, hs.start⟩
  · refine fieldKeeps_of fun s j as hj hread hs => ?_
    obtain ⟨hascending, hvalues⟩ := isRepresentable_attributes hj hread
    refine ⟨?_, ?_, hs.duration, hs.start⟩
    · rintro as' ⟨⟩
      exact hascending
    · rintro as' ⟨⟩
      exact hvalues
  · exact fieldKeeps_of fun s j a _ _ hs => ⟨hs.ascending, hs.values, hs.duration, hs.start⟩
  · refine fieldKeeps_of fun s j x hj hread hs => ⟨hs.ascending, hs.values, ?_, hs.start⟩
    rintro x' ⟨⟩
    exact isFinite_of_double hj hread
  · refine fieldKeeps_of fun s j o hj hread hs => ⟨hs.ascending, hs.values, hs.duration, ?_⟩
    rintro o' ⟨⟩ t rfl
    exact isReadable_of_fromValue (of_optional hread)

theorem IsRepresentable.finish {s : SpanDraft} (hs : s.IsRepresentable) :
    s.finish.IsRepresentable := by
  obtain ⟨hascending, hvalues, hduration, hstart⟩ := hs
  refine ⟨?_, ?_, ?_, ?_⟩
  · cases has : s.attributes with
    | none => simp [SpanDraft.finish, has]
    | some as => simpa [SpanDraft.finish, has] using hascending as has
  · cases has : s.attributes with
    | none => simp [SpanDraft.finish, has]
    | some as => simpa [SpanDraft.finish, has] using hvalues as has
  · cases hx : s.durationMs with
    | none =>
        simp only [SpanDraft.finish, hx, Option.getD_none]
        rfl
    | some x => simpa [SpanDraft.finish, hx] using hduration x hx
  · cases ho : s.startTime with
    | none => simp [SpanDraft.finish, ho]
    | some o => simpa [SpanDraft.finish, ho] using hstart o ho

end SpanDraft

namespace Span

/-- What is read from a structured value is a span that one stands for. -/
theorem isRepresentable_of_fromValue {j : Json} (hj : j.IsRepresentable) {s : Span}
    (h : decoder.fromValue j = .ok s) : s.IsRepresentable := by
  obtain ⟨draft, hdraft, rfl⟩ := exists_of_record SpanDraft.fields_keep
    ⟨by simp, by simp, by simp, by simp⟩ hj h
  exact hdraft.finish

/-- The fields that a span is written with. -/
def draft (s : Span) : SpanDraft :=
  { spanId := some s.spanId
    traceId := s.traceId.map some
    operationName := some s.operationName
    serviceName := s.serviceName.map some
    attributes := some s.attributes
    status := some s.status
    durationMs := some s.durationMs
    startTime := s.startTime.map some }

theorem finish_draft (s : Span) : s.draft.finish = s := by
  obtain ⟨spanId, traceId, operationName, serviceName, attributes, status, duration, start⟩ := s
  cases traceId <;> cases serviceName <;> cases start <;> rfl

theorem fromValue_attributes {as : List (String × Value)}
    (hascending : as.Pairwise (·.1 < ·.1)) (hvalues : ∀ a ∈ as, a.2.IsRepresentable) :
    attributesDecoder.fromValue (.object (as.map fun (k, v) => (k, v.json))) = .ok as := by
  have hback : (as.map fun (k, v) => (k, v.json)).map (fun m => (m.1, Value.ofJson m.2)) = as := by
    rw [List.map_map]
    refine (List.map_congr_left fun a ha => ?_).trans (List.map_id as)
    exact Prod.ext rfl (Value.ofJson_json (hvalues a ha))
  refine congrArg Except.ok ((congrArg sortMembers hback).trans ?_)
  exact sortMembers_of_pairwise hascending

theorem fromValue_name (s : Status) : Status.decoder.fromValue (.string s.name) = .ok s := by
  cases s <;> rfl

theorem fromValue_double {x : Float} (hx : x.isFinite = true) :
    Decoder.double.fromValue (.double x) = .ok x := by
  rw [Json.double, if_pos hx]
  rfl

theorem fromValue_text {t : Time.Instant} (ht : t.IsReadable) :
    Time.Instant.decoder.fromValue (.string t.text) = .ok t := by
  simp only [Time.Instant.decoder, Decoder.spelled, Time.Instant.ofText_text ht]

/-- The names of a span are read first. -/
theorem membersFromValue_names (s : Span) (rest : List (String × Json)) :
    membersFromValue SpanDraft.fields
        ([("spanId", .string s.spanId)] ++ Json.optional "traceId" (s.traceId.map .string) ++
          [("operationName", .string s.operationName)] ++
          Json.optional "serviceName" (s.serviceName.map .string) ++ rest) {} =
      membersFromValue SpanDraft.fields rest
        { spanId := some s.spanId
          traceId := s.traceId.map some
          operationName := some s.operationName
          serviceName := s.serviceName.map some } := by
  cases s.traceId <;> cases s.serviceName <;> rfl

theorem membersFromValue_json {s : Span} (hs : s.IsRepresentable) {ms : List (String × Json)}
    (hms : s.json = .object ms) : membersFromValue SpanDraft.fields ms {} = .ok s.draft := by
  obtain ⟨hascending, hvalues, hduration, hstart⟩ := hs
  injection hms with hms
  rw [← hms, List.append_assoc, membersFromValue_names, List.cons_append, List.cons_append,
    List.cons_append, List.nil_append,
    membersFromValue_cons rfl rfl (setFromValue_of_ok (fromValue_attributes hascending hvalues)),
    membersFromValue_cons rfl rfl (setFromValue_of_ok (fromValue_name s.status)),
    membersFromValue_cons rfl rfl (setFromValue_of_ok (fromValue_double hduration))]
  cases hstarted : s.startTime with
  | none =>
      unfold draft
      rw [hstarted]
      rfl
  | some t =>
      have hread := optional_of_ok (by simp) (fromValue_text (hstart t hstarted))
      rw [Option.map_some, Json.optional, membersFromValue_cons rfl rfl (setFromValue_of_ok hread)]
      unfold draft
      rw [hstarted]
      rfl

/-- A span that a structured value stands for is read from the one it is written as. -/
theorem fromValue_json {s : Span} (hs : s.IsRepresentable) :
    decoder.fromValue s.json = .ok s := by
  calc
    decoder.fromValue s.json = .ok s.draft.finish :=
      record_of_members (membersFromValue_json hs rfl) rfl
    _ = .ok s := by rw [finish_draft]

end Span

/-! ## Traces -/

namespace Trace

/-- The spans of a trace that is read are spans that structured values stand for. -/
theorem isRepresentable_of_mem_spans {j : Json} (hj : j.IsRepresentable) {t : Trace}
    (h : decoder.fromValue j = .ok t) : ∀ s ∈ t.spans, s.IsRepresentable := by
  have hfields : ∀ f ∈ TraceDraft.fields,
      FieldKeeps (fun d : TraceDraft => ∀ ss ∈ d.spans, ∀ s ∈ ss, s.IsRepresentable) f := by
    simp only [TraceDraft.fields, List.forall_mem_cons]
    refine ⟨?_, ?_, by simp⟩
    · exact fieldKeeps_of fun d j a _ _ hd => hd
    · refine fieldKeeps_of fun d j ss hj hread _ => ?_
      rintro ss' ⟨⟩ s hs
      cases hj with
      | array items hitems =>
          obtain ⟨item, hitem, hspan⟩ := exists_of_mem_mapM hread hs
          exact Span.isRepresentable_of_fromValue (hitems item hitem) hspan
      | _ => cases hread
  obtain ⟨draft, hdraft, rfl⟩ := exists_of_record hfields (by simp) hj h
  cases hss : draft.spans with
  | none => simp [TraceDraft.finish, hss]
  | some ss => simpa [TraceDraft.finish, hss] using hdraft ss hss

theorem fromValue_json {t : Trace} (ht : ∀ s ∈ t.spans, s.IsRepresentable) :
    decoder.fromValue t.json = .ok t := by
  have hspans : (Decoder.list Span.decoder).fromValue (.array (t.spans.map Span.json)) =
      .ok t.spans :=
    mapM_map_of_forall fun s hs => Span.fromValue_json (ht s hs)
  have hread : membersFromValue TraceDraft.fields
      [("traceId", .string t.traceId), ("spans", .array (t.spans.map Span.json))] {} =
        .ok ⟨some t.traceId, some t.spans⟩ := by
    rw [membersFromValue_cons rfl rfl rfl,
      membersFromValue_cons rfl rfl (setFromValue_of_ok hspans)]
    rfl
  exact record_of_members hread rfl

/-- A trace that is read from a structured value, by name or by position, is read again from
the value that it is written as. -/
theorem fromValue_json_of_fromValue {j : Json} (hj : j.IsRepresentable) {t : Trace}
    (h : decoder.fromValue j = .ok t) : decoder.fromValue t.json = .ok t :=
  fromValue_json (isRepresentable_of_mem_spans hj h)

/-- A trace by position with a span by name: a nested object and a moment with an offset. -/
theorem fromValue_json_of_fromValue_payment :
    let order : Json := .object [("order", .object [("id", .number (.whole 7))])]
    let span : Json := .object
      [("name", .string "pay"), ("attributes", order),
        ("startTime", .string "2024-01-01T00:00:00+02:00")]
    let j : Json := .array [.string "t", .array [span]]
    let t : Trace := ⟨"t", [⟨"", none, "pay", none, [("order", .string "\x7b\"id\":7\x7d")],
      .unset, 0, some ⟨1704060000, 0⟩⟩]⟩
    j.IsRepresentable ∧ decoder.fromValue j = .ok t ∧ decoder.fromValue t.json = .ok t := by
  intro order span j t
  have horder : order.IsRepresentable := by
    refine .object _ (List.forall_mem_singleton.mpr (.object _ ?_))
    exact List.forall_mem_singleton.mpr (.whole 7 (by decide) (by decide))
  have hspan : span.IsRepresentable := by
    refine .object _ (List.forall_mem_cons.mpr ⟨.string _, List.forall_mem_cons.mpr ⟨horder, ?_⟩⟩)
    exact List.forall_mem_singleton.mpr (.string _)
  have hj : j.IsRepresentable := by
    refine .array _ (List.forall_mem_cons.mpr ⟨.string _, ?_⟩)
    exact List.forall_mem_singleton.mpr (.array _ (List.forall_mem_singleton.mpr hspan))
  have hattributes : attributesDecoder.fromValue order =
      .ok [("order", .string "\x7b\"id\":7\x7d")] := by
    have hnested : Value.ofJson (.object [("id", .number (.whole 7))]) =
        .string "\x7b\"id\":7\x7d" := by
      simp only [Value.ofJson, Json.sorted, Json.sortedMembers, sortMembers,
        List.mergeSort_singleton]
      exact congrArg Value.string (by decide)
    change Except.ok (sortMembers [("order", Value.ofJson _)]) = _
    rw [hnested, sortMembers_of_pairwise (List.pairwise_singleton _ _)]
  have hstart : Time.Instant.decoder.fromValue (.string "2024-01-01T00:00:00+02:00") =
      .ok ⟨1704060000, 0⟩ := by
    have hread : Time.Instant.ofText "2024-01-01T00:00:00+02:00" = .ok ⟨1704060000, 0⟩ := by
      decide +kernel
    simp only [Time.Instant.decoder, Decoder.spelled, hread]
  have hmembers : membersFromValue SpanDraft.fields
      [("name", .string "pay"), ("attributes", order),
        ("startTime", .string "2024-01-01T00:00:00+02:00")] {} =
      .ok ⟨none, none, some "pay", none, some [("order", .string "\x7b\"id\":7\x7d")], none, none,
        some (some ⟨1704060000, 0⟩)⟩ := by
    rw [membersFromValue_cons rfl rfl rfl,
      membersFromValue_cons rfl rfl (setFromValue_of_ok hattributes),
      membersFromValue_cons rfl rfl (setFromValue_of_ok (optional_of_ok (by simp) hstart))]
    rfl
  have hspans : (Decoder.list Span.decoder).fromValue (.array [span]) = .ok t.spans := by
    change [span].mapM Span.decoder.fromValue = _
    rw [List.mapM_cons, show Span.decoder.fromValue span = _ from record_of_members hmembers rfl]
    rfl
  have hfields : fieldsFromValue TraceDraft.fields [.string "t", .array [span]] {} =
      .ok ⟨some "t", some t.spans⟩ :=
    bind_eq_ok.mpr ⟨{ traceId := some "t" }, rfl,
      bind_eq_ok.mpr ⟨_, setFromValue_of_ok hspans, rfl⟩⟩
  have hread : decoder.fromValue j = .ok t :=
    bind_eq_ok.mpr ⟨_, hfields, bind_eq_ok.mpr ⟨t, rfl, rfl⟩⟩
  exact ⟨hj, hread, fromValue_json_of_fromValue hj hread⟩

end Trace

end TraceCheck
